import Groth16Solana.Verifier.Binding
import Groth16Solana.Verifier.GroupRuntime

/-! # Other proofs of an accepted statement

An accepted proof is one of many: it can be re-randomised without a secret, though not by forgetting
to negate its first point. With the secret scalars of gamma and delta there is a proof of every
statement. -/

set_option autoImplicit false

namespace Groth16Solana
open Foundations

section
variable {rt : Runtime} {G2 GT : Type} [AddCommGroup G2] [CommGroup GT] (S : AltBn128 rt G2 GT)
variable {n : ℕ} {self : Groth16Verifier n} {key : Key G2}

/-! ## Verifiers with another proof -/

theorem Constructed.withProof (hself : Constructed rt self) (proofA : Bytes 64) (proofB : Bytes 128)
    (proofC : Bytes 64) :
    Constructed rt { self with proofA := proofA, proofB := proofB, proofC := proofC } := by
  cases hself with
  | new h =>
    obtain ⟨hkey, hlen, rfl⟩ := new_eq_ok_iff.mp h
    exact .new (new_eq_ok_iff.mpr ⟨hkey, hlen, rfl⟩)
  | newWithCommitment hbuild h =>
    obtain ⟨hkey, hlen, rfl⟩ := newWithCommitment_eq_ok_iff.mp h
    exact .newWithCommitment hbuild (newWithCommitment_eq_ok_iff.mpr ⟨hkey, hlen, rfl⟩)

/-- The point that stands for the public inputs of a verifier. -/
def StatementSum (self : Groth16Verifier n) (key : Key G2) (L : G1) : Prop :=
  match self.proofCommitment with
  | none => L = publicSum self.publicInputs key.ic
  | some commitment => ∃ D, S.decodeG1 commitment = some D ∧
      L = committedSum rt self.publicInputs key.ic commitment D

/-- Proofs for which the equation holds alike get the same answer. -/
theorem verifyCommon_withProof (hself : Constructed rt self)
    (hdec : DecodesKey S self.verifyingkey key) (check : Bool) {proofA : Bytes 64}
    {proofB : Bytes 128} {proofC : Bytes 64}
    (h : ∀ L, StatementSum S self key L → (ProofHolds S key proofA proofB proofC L ↔
      ProofHolds S key self.proofA self.proofB self.proofC L)) :
    (verifyCommon rt check
        { self with proofA := proofA, proofB := proofB, proofC := proofC }).1 =
      (verifyCommon rt check self).1 := by
  have hself' := hself.withProof proofA proofB proofC
  cases hself.consistent with
  | plain hcommitment hpok hkey hlen =>
    have hiff := h (publicSum self.publicInputs key.ic) (by rw [StatementSum, hcommitment])
    rw [verifyCommon_plain_outcome S hself hkey hdec,
      verifyCommon_plain_outcome S hself' hkey hdec, hiff]
  | bsb22 commitment pok commitmentKey hcommitment hpok hkey hlen =>
    rw [verifyCommon_bsb22_outcome S hself hkey hcommitment hpok hdec,
      verifyCommon_bsb22_outcome S hself' hkey hcommitment hpok hdec]
    cases hD : S.decodeG1 commitment with
    | none => rfl
    | some D =>
      have hiff := h (committedSum rt self.publicInputs key.ic commitment D) (by
        rw [StatementSum, hcommitment]
        exact ⟨D, hD, rfl⟩)
      dsimp only
      rw [hiff]

/-! ## Re-randomised proofs -/

theorem pair_rerandomized (e : Pairing G1 G2 GT) {k l : ℕ} (hkl : k * l % frModulus = 1) (m : ℕ)
    (A : G1) (B δ : G2) :
    e.pair (k • A) (l • B + m • δ) = e.pair A B * e.pair ((m * k) • A) δ := by
  have hA : (l * k) • A = A := by rw [← nsmul_mod, Nat.mul_comm, hkl, one_nsmul]
  rw [Pairing.pair_add_right, ← Pairing.pair_nsmul_comm, ← Pairing.pair_nsmul_comm, ← mul_nsmul',
    ← mul_nsmul', hA]

theorem proofHolds_rerandomized {proofA proofA' proofC proofC' : Bytes 64}
    {proofB proofB' : Bytes 128} {P C : G1} {B : G2} {k l m : ℕ} (hkl : k * l % frModulus = 1)
    (hA : S.decodeG1 proofA = some P) (hB : S.decodeG2 proofB = some B)
    (hC : S.decodeG1 proofC = some C) (hA' : S.decodeG1 proofA' = some (k • P))
    (hB' : S.decodeG2 proofB' = some (l • B + m • key.delta))
    (hC' : S.decodeG1 proofC' = some (C - (m * k) • P)) (L : G1) :
    ProofHolds S key proofA' proofB' proofC' L ↔ ProofHolds S key proofA proofB proofC L := by
  have hleft := pair_rerandomized S.e hkl m (-P) B key.delta
  have hright : S.e.pair (C - (m * k) • P) key.delta =
      S.e.pair C key.delta * S.e.pair ((m * k) • -P) key.delta := by
    rw [sub_eq_add_neg, ← neg_nsmul, Pairing.pair_add_left]
  constructor
  · intro h
    obtain ⟨A₁, B₁, C₁, hA₁, hB₁, hC₁, heq⟩ := h
    obtain rfl := Option.some_injective _ (hB'.symm.trans hB₁)
    obtain rfl := Option.some_injective _ (hC'.symm.trans hC₁)
    have hneg : A₁ = k • -P := by
      rw [hA', Option.some.injEq] at hA₁
      rw [neg_nsmul, hA₁, neg_neg]
    rw [hneg, hleft, hright, ← mul_assoc, mul_left_inj] at heq
    exact ⟨-P, B, C, by rw [hA, neg_neg], hB, hC, heq⟩
  · intro h
    obtain ⟨A₁, B₁, C₁, hA₁, hB₁, hC₁, heq⟩ := h
    obtain rfl := Option.some_injective _ (hB.symm.trans hB₁)
    obtain rfl := Option.some_injective _ (hC.symm.trans hC₁)
    have hneg : A₁ = -P := by
      rw [hA, Option.some.injEq] at hA₁
      rw [hA₁, neg_neg]
    rw [hneg] at heq
    refine ⟨k • -P, _, _, ?_, hB', hC', ?_⟩
    · rw [hA', neg_nsmul, neg_neg]
    · rw [hleft, hright, ← mul_assoc, heq]

/-- A re-randomised proof gets the answer of the proof it was made from, from either call. -/
theorem rerandomized_same_answer (hself : Constructed rt self)
    (hdec : DecodesKey S self.verifyingkey key) {k l : ℕ} (hkl : k * l % frModulus = 1) (m : ℕ)
    {P C : G1} {B : G2} (hA : S.decodeG1 self.proofA = some P)
    (hB : S.decodeG2 self.proofB = some B) (hC : S.decodeG1 self.proofC = some C)
    {proofA proofC : Bytes 64} {proofB : Bytes 128} (hA' : S.decodeG1 proofA = some (k • P))
    (hB' : S.decodeG2 proofB = some (l • B + m • key.delta))
    (hC' : S.decodeG1 proofC = some (C - (m * k) • P)) :
    (verify rt { self with proofA := proofA, proofB := proofB, proofC := proofC }).1 =
        (verify rt self).1 ∧
      (verifyUnchecked rt { self with proofA := proofA, proofB := proofB, proofC := proofC }).1 =
        (verifyUnchecked rt self).1 := by
  have hsame (L : G1) (_ : StatementSum S self key L) :=
    proofHolds_rerandomized S hkl hA hB hC hA' hB' hC' L
  exact ⟨verifyCommon_withProof S hself hdec true hsame,
    verifyCommon_withProof S hself hdec false hsame⟩

/-! ## Proofs that were not negated -/

theorem pair_pow_order (e : Pairing G1 G2 GT) (A : G1) (B : G2) : e.pair A B ^ frModulus = 1 := by
  rw [← Pairing.pair_nsmul_left, frModulus_nsmul, Pairing.pair_zero_left]

/-- The group order is odd. -/
theorem pair_eq_inv_iff (e : Pairing G1 G2 GT) (A : G1) (B : G2) :
    (e.pair A B)⁻¹ = e.pair A B ↔ e.pair A B = 1 := by
  constructor
  · intro h
    have hsquare : e.pair A B ^ 2 = 1 := by
      rw [pow_two]
      nth_rewrite 1 [← h]
      rw [inv_mul_cancel]
    have hdvd : orderOf (e.pair A B) ∣ Nat.gcd 2 frModulus :=
      Nat.dvd_gcd (orderOf_dvd_of_pow_eq_one hsquare)
        (orderOf_dvd_of_pow_eq_one (pair_pow_order e A B))
    have hodd : Nat.gcd 2 frModulus = 1 := by decide +kernel
    rw [hodd, Nat.dvd_one] at hdvd
    exact orderOf_eq_one_iff.mp hdvd
  · intro h
    rw [h, inv_one]

theorem proofHolds_unnegated {proofA proofA' proofC : Bytes 64} {proofB : Bytes 128} {A : G1} {B : G2}
    {L : G1} (hA : S.decodeG1 proofA = some (-A)) (hB : S.decodeG2 proofB = some B)
    (hA' : S.decodeG1 proofA' = some A) (h : ProofHolds S key proofA proofB proofC L) :
    ProofHolds S key proofA' proofB proofC L ↔ S.e.pair A B = 1 := by
  obtain ⟨A₁, B₁, C, hA₁, hB₁, hC, heq⟩ := h
  obtain rfl := neg_injective (Option.some_injective _ (hA.symm.trans hA₁))
  obtain rfl := Option.some_injective _ (hB.symm.trans hB₁)
  rw [← pair_eq_inv_iff, ← Pairing.pair_neg_left, heq]
  constructor
  · intro h'
    obtain ⟨A₂, B₂, C₂, hA₂, hB₂, hC₂, heq₂⟩ := h'
    obtain rfl := Option.some_injective _ (hB.symm.trans hB₂)
    obtain rfl := Option.some_injective _ (hC.symm.trans hC₂)
    have hneg : A₂ = -A := by
      rw [hA', Option.some.injEq] at hA₂
      rw [hA₂, neg_neg]
    rw [← hneg, heq₂]
  · intro hsame
    exact ⟨-A, B, C, by rw [hA', neg_neg], hB, hC, hsame⟩

open Classical in
/-- The answer for another proof of an accepted statement. -/
theorem verify_withProof (hself : Constructed rt self) (hdec : DecodesKey S self.verifyingkey key)
    (hok : (verify rt self).1 = .ok ()) :
    ∃ L, ProofHolds S key self.proofA self.proofB self.proofC L ∧
      ∀ (proofA : Bytes 64) (proofB : Bytes 128) (proofC : Bytes 64),
        (verify rt { self with proofA := proofA, proofB := proofB, proofC := proofC }).1 =
          if ProofHolds S key proofA proofB proofC L then .ok ()
          else .error .proofVerificationFailed := by
  cases hself.consistent with
  | plain hcommitment hpok hkey hlen =>
    obtain ⟨hin, hholds⟩ := holds_of_plain_ok S hself hkey hdec hok
    refine ⟨_, hholds, ?_⟩
    intro proofA proofB proofC
    rw [verify, verifyCommon_plain_outcome S (hself.withProof proofA proofB proofC) hkey hdec,
      if_neg (not_not.mpr hin), ite_not]
  | bsb22 commitment pok commitmentKey hcommitment hpok hkey hlen =>
    obtain ⟨-, -, D, -, hD, -, -⟩ :=
      (verifyCommon_bsb22_ok_iff S hself hkey hcommitment hpok).mp hok
    obtain ⟨hin, hholds, hknown⟩ := holds_of_bsb22_ok S hself hkey hcommitment hpok hdec hD hok
    refine ⟨_, hholds, ?_⟩
    intro proofA proofB proofC
    rw [verify, verifyCommon_bsb22_outcome S (hself.withProof proofA proofB proofC) hkey hcommitment
      hpok hdec, hD, if_neg (not_not.mpr hin)]
    dsimp only
    rw [if_neg (not_not.mpr hknown), ite_not]

open Classical in
/-- An accepted proof whose first point is put back is refused, unless it pairs trivially. -/
theorem unnegated_answer (hself : Constructed rt self) (hdec : DecodesKey S self.verifyingkey key)
    (hok : (verify rt self).1 = .ok ()) {A : G1} {B : G2}
    (hA : S.decodeG1 self.proofA = some (-A)) (hB : S.decodeG2 self.proofB = some B)
    {proofA : Bytes 64} (hA' : S.decodeG1 proofA = some A) :
    (verify rt { self with proofA := proofA }).1 =
      if S.e.pair A B = 1 then .ok () else .error .proofVerificationFailed := by
  obtain ⟨L, hholds, hanswer⟩ := verify_withProof S hself hdec hok
  have hiff := proofHolds_unnegated S hA hB hA' hholds
  rw [← hiff]
  exact hanswer proofA self.proofB self.proofC

/-! ## Secret setup scalars -/

theorem trapdoor_equation (e : Pairing G1 G2 GT) {γ δ : G2} {k : ℕ} (hγ : γ = k • δ) (x : GT)
    (L : G1) : x = x * e.pair L γ * e.pair (-(k • L)) δ := by
  rw [hγ, ← Pairing.pair_nsmul_comm, Pairing.pair_neg_left, mul_inv_cancel_right]

/-- `g / d` modulo the group order. -/
theorem exists_ratio (g : ℕ) {d : ℕ} (hd : ¬ frModulus ∣ d) :
    ∃ k : ℕ, d * k % frModulus = g % frModulus := by
  have hcoprime : Nat.Coprime d frModulus :=
    ((Nat.Prime.coprime_iff_not_dvd frModulus_prime).mpr hd).symm
  obtain ⟨inv, -, hinv⟩ := Nat.exists_mul_mod_eq_one_of_coprime hcoprime frModulus_prime.one_lt
  refine ⟨inv * g, ?_⟩
  rw [← mul_assoc, Nat.mul_mod, hinv, one_mul, Nat.mod_mod]

theorem nsmul_mod_of_torsion {H : G2} (hH : frModulus • H = 0) (n : ℕ) :
    (n % frModulus) • H = n • H := by
  conv_rhs => rw [← Nat.div_add_mod n frModulus, add_nsmul, mul_comm, mul_nsmul', hH, nsmul_zero,
    zero_add]

theorem gamma_eq_of_ratio {H γ δ : G2} (hH : frModulus • H = 0) {g d k : ℕ}
    (hk : d * k % frModulus = g % frModulus) (hγ : γ = g • H) (hδ : δ = d • H) : γ = k • δ := by
  rw [hγ, hδ, ← nsmul_mod_of_torsion hH, ← hk, nsmul_mod_of_torsion hH, mul_comm, mul_nsmul']

theorem proofHolds_trapdoor {vk : Groth16Verifyingkey} (hdec : DecodesKey S vk key)
    (halpha : CanonicalG1 vk.vkAlphaG1) {k : ℕ} (hγ : key.gamma = k • key.delta) (L : G1) :
    ProofHolds S key (negateG1Be vk.vkAlphaG1) vk.vkBetaG2 (encodeG1 (-(k • L))) L := by
  obtain ⟨α, hα, hneg⟩ := decodeG1_negate S halpha
  obtain rfl := Option.some_injective _ (hα.symm.trans hdec.alpha)
  exact ⟨key.alpha, key.beta, _, hneg, hdec.beta, S.decodeG1_encodeG1 _,
    trapdoor_equation S.e hγ _ L⟩

/-- Who knows the scalars of gamma and delta divides them, and with that multiplier the public points
of the key prove every statement, with a commitment or without. -/
theorem forgeable_of_setup_scalars {vk : Groth16Verifyingkey} (hdec : DecodesKey S vk key)
    (halpha : CanonicalG1 vk.vkAlphaG1) {H : G2} (hH : frModulus • H = 0) {g d : ℕ}
    (hd : ¬ frModulus ∣ d) (hγ : key.gamma = g • H) (hδ : key.delta = d • H) :
    (∃ k : ℕ, d * k % frModulus = g % frModulus) ∧
    ∀ k : ℕ, d * k % frModulus = g % frModulus →
      ∀ (n : ℕ) (publicInputs : Vector (Bytes 32) n), InRange true publicInputs →
      (∀ self, Groth16Verifier.new (negateG1Be vk.vkAlphaG1) vk.vkBetaG2
          (encodeG1 (-(k • publicSum publicInputs key.ic))) publicInputs vk = .ok self →
        (verify rt self).1 = .ok ()) ∧
      (rt.bsb22 = true → ∀ (commitmentKey : CommitmentVerifyingKey) (σ h : G2),
        vk.vkCommitment = some commitmentKey → S.decodeG2 commitmentKey.gSigmaNegG2 = some σ →
        S.decodeG2 commitmentKey.g2 = some h →
        ∀ self, Groth16Verifier.newWithCommitment (negateG1Be vk.vkAlphaG1) vk.vkBetaG2
            (encodeG1 (-(k • committedSum rt publicInputs key.ic (encodeG1 0) 0))) (encodeG1 0)
            (encodeG1 0) publicInputs vk = .ok self →
          (verify rt self).1 = .ok ()) := by
  refine ⟨exists_ratio g hd, ?_⟩
  intro k hratio n publicInputs hin
  have hk := gamma_eq_of_ratio hH hratio hγ hδ
  constructor
  · intro self hnew
    obtain ⟨hkey, -, rfl⟩ := new_eq_ok_iff.mp hnew
    exact (verifyCommon_plain_ok_iff S (.new hnew) hkey).mpr
      ⟨hin, key, hdec, proofHolds_trapdoor S hdec halpha hk _⟩
  · intro hbuild commitmentKey σ h hkey hσ hg self hnew
    obtain ⟨-, -, rfl⟩ := newWithCommitment_eq_ok_iff.mp hnew
    have hzero : S.decodeG1 (encodeG1 0) = some 0 := S.decodeG1_encodeG1 0
    refine (verifyCommon_bsb22_ok_iff S (.newWithCommitment hbuild hnew) hkey rfl rfl).mpr
      ⟨hin, key, 0, hdec, hzero, proofHolds_trapdoor S hdec halpha hk _, ?_⟩
    exact ⟨0, σ, 0, h, hzero, hσ, hzero, hg, by simp⟩

end

/-! ## Small proofs -/

/-- Half of the group order, rounded up: the inverse of two. -/
def half : ℕ := (frModulus + 1) / 2

/-- The small verifier's proof with its first point doubled. -/
theorem rerandomized_same_answer_small :
    (verify referenceRuntime { smallVerifier with
        proofA := encodeG1 (2 • -g1Generator)
        proofB := g2GeneratorBytes
        proofC := encodeG1 (-g1Generator - (half * 2) • -g1Generator) }).1 = .ok () := by
  have hinv : 2 * half % frModulus = 1 := by decide +kernel
  have hB : referenceSyscalls.decodeG2 g2GeneratorBytes =
      some (half • (1 : ZMod frModulus) + half • smallKey.delta) := by
    have hsum : half + half = frModulus + 1 := by decide +kernel
    have hone : smallKey.delta = 1 := rfl
    rw [decodeG2_generator, hone, ← add_nsmul, hsum, nsmul_one, Nat.cast_add, ZMod.natCast_self,
      zero_add, Nat.cast_one]
  rw [← smallVerifier_accepts]
  exact (rerandomized_same_answer referenceSyscalls (.new smallVerifier_new)
    decodesKey_smallVerifier hinv half (referenceSyscalls.decodeG1_encodeG1 (-g1Generator))
    decodeG2_generator (referenceSyscalls.decodeG1_encodeG1 (-g1Generator))
    (referenceSyscalls.decodeG1_encodeG1 _) hB (referenceSyscalls.decodeG1_encodeG1 _)).1

/-- The small verifier's proof as a prover makes it. -/
theorem unnegated_answer_small :
    (verify referenceRuntime { smallVerifier with proofA := encodeG1 g1Generator }).1 =
      .error .proofVerificationFailed := by
  rw [unnegated_answer referenceSyscalls (.new smallVerifier_new) decodesKey_smallVerifier
    smallVerifier_accepts (referenceSyscalls.decodeG1_encodeG1 (-g1Generator)) decodeG2_generator
    (referenceSyscalls.decodeG1_encodeG1 g1Generator), if_neg]
  intro h
  exact g1Generator_ne_zero (separates_one g1Generator h)

/-- A key whose delta is twice its gamma. -/
def halvedKey : Key G2Group :=
  ⟨g1Generator, g2Base, g2Base, 2 • g2Base, fun j => [0, g1Generator].getD j 0⟩

def halvedVk : Groth16Verifyingkey :=
  { smallVk g1Generator [0, g1Generator] none with
    vkBetaG2 := encodeG2 halvedKey.beta
    vkGammaG2 := encodeG2 halvedKey.gamma
    vkDeltaG2 := encodeG2 halvedKey.delta }

theorem decodesKey_halvedVk : DecodesKey arkSyscalls halvedVk halvedKey := by
  have hsmall := decodesKey_smallVk g1Generator [0, g1Generator] none
  have hG2 := arkDecoders_arkSyscalls.decodeG2
  refine ⟨hsmall.alpha, ?_, ?_, ?_, hsmall.ic⟩
  · rw [hG2, halvedVk, arkDecodeG2_encodeG2]
  · rw [hG2, halvedVk, arkDecodeG2_encodeG2]
  · rw [hG2, halvedVk, arkDecodeG2_encodeG2]

/-- A proof for two made from the points of that key. -/
theorem forgeable_of_setup_scalars_half :
    halvedKey.gamma ≠ halvedKey.delta ∧
      ∃ self, Groth16Verifier.new (negateG1Be halvedVk.vkAlphaG1) halvedVk.vkBetaG2
          (encodeG1 (-(half • publicSum #v[beBytes 32 2] halvedKey.ic))) #v[beBytes 32 2]
          halvedVk = .ok self ∧
        (verify (groupRuntime arkDecodeG2 g2Pairing) self).1 = .ok () := by
  have hd : ¬ frModulus ∣ 2 := by decide +kernel
  have hk : 2 * half % frModulus = 1 % frModulus := by decide +kernel
  have hgamma : halvedKey.gamma = 1 • g2Base := (one_nsmul g2Base).symm
  have hforged := (forgeable_of_setup_scalars arkSyscalls decodesKey_halvedVk
    (canonicalG1_iff.mpr ⟨g1Generator, rfl⟩) (Subtype.ext g2Base.property) hd hgamma rfl).2 half hk 1
    #v[beBytes 32 2] (fun _ => by decide +kernel)
  constructor
  · intro h
    have hdouble : g2Base = g2Base + g2Base := h.trans (two_nsmul g2Base)
    exact g2Base_ne_zero (left_eq_add.mp hdouble)
  · exact ⟨_, rfl, hforged.1 _ (new_eq_ok_iff.mpr ⟨rfl, rfl, rfl⟩)⟩

end Groth16Solana
