import Groth16Solana.Verifier.Challenge
import Groth16Solana.Verifier.Verdict

/-! # What an accepted proof is bound to

Where the pairing with gamma tells points apart, a proof is accepted for other public inputs only if
they have the same sum. One input alone cannot change, and neither can the knowledge proof of a
commitment. -/

set_option autoImplicit false

namespace Groth16Solana
open Foundations

/-! ## Multiples of a point -/

theorem dvd_of_nsmul_eq_zero {k : ℕ} {P : G1} (hP : P ≠ 0) (h : k • P = 0) : frModulus ∣ k := by
  have horder : addOrderOf P = frModulus := by
    apply addOrderOf_eq_prime
    · exact frModulus_nsmul P
    · exact hP
  rw [← horder]
  exact addOrderOf_dvd_of_nsmul_eq_zero h

theorem nsmul_inj_of_le {a b : ℕ} {P : G1} (hP : P ≠ 0) (hle : a ≤ b) (hb : b < frModulus)
    (h : a • P = b • P) : a = b := by
  have hsplit : b • P = (b - a) • P + a • P := by rw [← add_nsmul, Nat.sub_add_cancel hle]
  have hzero : (b - a) • P = 0 := by
    rw [hsplit] at h
    exact add_eq_right.mp h.symm
  have hdvd := dvd_of_nsmul_eq_zero hP hzero
  have hlt : b - a < frModulus := by omega
  have hnone := Nat.eq_zero_of_dvd_of_lt hdvd hlt
  omega

theorem nsmul_inj {a b : ℕ} {P : G1} (hP : P ≠ 0) (ha : a < frModulus) (hb : b < frModulus)
    (h : a • P = b • P) : a = b := by
  by_cases hle : a ≤ b
  · exact nsmul_inj_of_le hP hle hb h
  · exact (nsmul_inj_of_le hP (by omega) ha h.symm).symm

/-! ## The sum of inputs that differ in one or two places -/

section Sums
variable {n : ℕ} (inputs : Vector (Bytes 32) n) (ic : ℕ → G1)

theorem get_set (i j : Fin n) (input : Bytes 32) :
    (inputs.set i input).get j = if i = j then input else inputs.get j := by
  simp only [Vector.get_eq_getElem, Vector.getElem_set, Fin.ext_iff]

theorem publicSum_set (i : Fin n) (input : Bytes 32) :
    publicSum (inputs.set i input) ic =
      publicSum inputs ic - beNat (inputs.get i).toList • ic (i + 1) +
        beNat input.toList • ic (i + 1) := by
  have hrest : ∑ j ∈ Finset.univ.erase i, beNat ((inputs.set i input).get j).toList • ic (j + 1) =
      ∑ j ∈ Finset.univ.erase i, beNat (inputs.get j).toList • ic (j + 1) := by
    refine Finset.sum_congr rfl ?_
    intro j hj
    rw [get_set, if_neg (Ne.symm (Finset.ne_of_mem_erase hj))]
  rw [publicSum, publicSum, ← Finset.add_sum_erase _ _ (Finset.mem_univ i), hrest, get_set,
    if_pos rfl, ← Finset.add_sum_erase Finset.univ
      (fun j : Fin n => beNat (inputs.get j).toList • ic (j + 1)) (Finset.mem_univ i)]
  abel

theorem publicSum_set_eq_iff {i : Fin n} {input : Bytes 32} (hic : ic (i + 1) ≠ 0)
    (hin : beNat input.toList < frModulus) (hself : beNat (inputs.get i).toList < frModulus) :
    publicSum (inputs.set i input) ic = publicSum inputs ic ↔ input = inputs.get i := by
  rw [publicSum_set]
  constructor
  · intro h
    rw [sub_add_eq_add_sub, sub_eq_iff_eq_add, add_left_cancel_iff] at h
    exact Vector.toList_inj.mp (beNat_inj (by simp) (nsmul_inj hic hin hself h))
  · intro h
    rw [h, sub_add_cancel]

/-- The inputs with two of them exchanged. -/
def exchanged (i j : Fin n) : Vector (Bytes 32) n :=
  (inputs.set i (inputs.get j)).set j (inputs.get i)

theorem publicSum_exchanged {i j : Fin n} (hij : i ≠ j) :
    publicSum (exchanged inputs i j) ic =
      publicSum inputs ic - beNat (inputs.get i).toList • ic (i + 1) +
        beNat (inputs.get j).toList • ic (i + 1) - beNat (inputs.get j).toList • ic (j + 1) +
        beNat (inputs.get i).toList • ic (j + 1) := by
  rw [exchanged, publicSum_set, publicSum_set, get_set, if_neg hij]

theorem publicSum_exchanged_eq_iff {i j : Fin n} (hij : i ≠ j)
    (hi : beNat (inputs.get i).toList < frModulus) (hj : beNat (inputs.get j).toList < frModulus) :
    publicSum (exchanged inputs i j) ic = publicSum inputs ic ↔
      ic (i + 1) = ic (j + 1) ∨ inputs.get i = inputs.get j := by
  rw [publicSum_exchanged inputs ic hij]
  generalize publicSum inputs ic = L
  constructor
  · intro h
    by_cases hne : ic (i + 1) = ic (j + 1)
    · exact Or.inl hne
    · refine Or.inr (Vector.toList_inj.mp (beNat_inj (by simp)
        (nsmul_inj (sub_ne_zero.mpr hne) hi hj ?_)))
      rw [nsmul_sub, nsmul_sub, sub_eq_sub_iff_add_eq_add]
      have hsum := sub_eq_zero.mpr h
      rw [← sub_eq_zero, ← neg_eq_zero, ← hsum]
      abel
  · intro h
    rcases h with h | h
    · rw [h]
      abel
    · rw [h]
      abel

end Sums

/-! ## Two statements for one proof -/

section
variable {rt : Runtime} {G2 GT : Type} [AddCommGroup G2] [CommGroup GT] (S : AltBn128 rt G2 GT)
variable {n : ℕ} {self : Groth16Verifier n} {key : Key G2}

theorem proofHolds_iff_sum (hsep : S.e.Separates key.gamma) {proofA : Bytes 64} {proofB : Bytes 128}
    {proofC : Bytes 64} {L L' : G1} (h : ProofHolds S key proofA proofB proofC L) :
    ProofHolds S key proofA proofB proofC L' ↔ L' = L := by
  obtain ⟨A, B, C, hA, hB, hC, heq⟩ := h
  constructor
  · intro h'
    obtain ⟨A', B', C', hA', hB', hC', heq'⟩ := h'
    obtain rfl := neg_injective (Option.some_injective _ (hA.symm.trans hA'))
    obtain rfl := Option.some_injective _ (hB.symm.trans hB')
    obtain rfl := Option.some_injective _ (hC.symm.trans hC')
    rw [heq, mul_left_inj, mul_right_inj] at heq'
    exact (hsep.injective _ heq').symm
  · intro hL
    exact ⟨A, B, C, hA, hB, hC, hL ▸ heq⟩

theorem Constructed.withInputs (hself : Constructed rt self) (inputs : Vector (Bytes 32) n) :
    Constructed rt { self with publicInputs := inputs } := by
  cases hself with
  | new h =>
    obtain ⟨hkey, hlen, rfl⟩ := new_eq_ok_iff.mp h
    exact .new (new_eq_ok_iff.mpr ⟨hkey, hlen, rfl⟩)
  | newWithCommitment hbuild h =>
    obtain ⟨hkey, hlen, rfl⟩ := newWithCommitment_eq_ok_iff.mp h
    exact .newWithCommitment hbuild (newWithCommitment_eq_ok_iff.mpr ⟨hkey, hlen, rfl⟩)

theorem committedSum_eq_iff {inputs inputs' : Vector (Bytes 32) n} {ic : ℕ → G1}
    {commitment : Bytes 64} {D : G1} :
    committedSum rt inputs' ic commitment D = committedSum rt inputs ic commitment D ↔
      publicSum inputs' ic = publicSum inputs ic := by
  rw [committedSum, committedSum, add_left_inj, add_left_inj]

open Classical in
/-- The answer for the same proof with other inputs. -/
theorem verify_withInputs (hself : Constructed rt self) (hdec : DecodesKey S self.verifyingkey key)
    (hsep : S.e.Separates key.gamma) (hok : (verify rt self).1 = .ok ())
    {inputs : Vector (Bytes 32) n} (hin : InRange true inputs) :
    (verify rt { self with publicInputs := inputs }).1 =
      if publicSum inputs key.ic = publicSum self.publicInputs key.ic then .ok ()
      else .error .proofVerificationFailed := by
  have hself' := hself.withInputs inputs
  cases hself.consistent with
  | plain hcommitment hpok hkey hlen =>
    have hholds := (holds_of_plain_ok S hself hkey hdec hok).2
    rw [verify, verifyCommon_plain_outcome S hself' hkey hdec, if_neg (not_not.mpr hin)]
    simp only [proofHolds_iff_sum S hsep hholds, ite_not]
  | bsb22 commitment pok commitmentKey hcommitment hpok hkey hlen =>
    obtain ⟨-, -, D, -, hD, -⟩ :=
      (verifyCommon_bsb22_ok_iff S hself hkey hcommitment hpok).mp hok
    obtain ⟨-, hholds, hknown⟩ := holds_of_bsb22_ok S hself hkey hcommitment hpok hdec hD hok
    rw [verify, verifyCommon_bsb22_outcome S hself' hkey hcommitment hpok hdec, hD,
      if_neg (not_not.mpr hin)]
    dsimp only
    rw [if_neg (not_not.mpr hknown)]
    simp only [proofHolds_iff_sum S hsep hholds, committedSum_eq_iff, ite_not]

theorem inRange_self (hok : (verify rt self).1 = .ok ()) : InRange true self.publicInputs := by
  intro _
  exact (forall_mem_toList (p := fun input : Bytes 32 => beNat input.toList < frModulus)).mp
    (canonical_of_verify hok)

theorem inRange_set {inputs : Vector (Bytes 32) n} (hin : InRange true inputs) {i : Fin n}
    {input : Bytes 32} (hlt : beNat input.toList < frModulus) :
    InRange true (inputs.set i input) := by
  intro _ j
  rw [get_set]
  split
  · exact hlt
  · exact hin rfl j

open Classical in
/-- An accepted proof is accepted for other inputs only if they have the same sum: one changed input
is refused, and two inputs can be exchanged only if they or their points are equal. -/
theorem verify_binds_inputs (hself : Constructed rt self) (hdec : DecodesKey S self.verifyingkey key)
    (hsep : S.e.Separates key.gamma) (hok : (verify rt self).1 = .ok ()) :
    (∀ inputs : Vector (Bytes 32) n, InRange true inputs →
      (verify rt { self with publicInputs := inputs }).1 =
        if publicSum inputs key.ic = publicSum self.publicInputs key.ic then .ok ()
        else .error .proofVerificationFailed) ∧
    (∀ (i : Fin n) (input : Bytes 32), beNat input.toList < frModulus → key.ic (i + 1) ≠ 0 →
      input ≠ self.publicInputs.get i →
      (verify rt { self with publicInputs := self.publicInputs.set i input }).1 =
        .error .proofVerificationFailed) ∧
    ∀ i j : Fin n, i ≠ j →
      ((verify rt { self with publicInputs := exchanged self.publicInputs i j }).1 = .ok () ↔
        key.ic (i + 1) = key.ic (j + 1) ∨ self.publicInputs.get i = self.publicInputs.get j) := by
  have hin := inRange_self hok
  refine ⟨fun inputs => verify_withInputs S hself hdec hsep hok, ?_, ?_⟩
  · intro i input hlt hic hne
    rw [verify_withInputs S hself hdec hsep hok (inRange_set hin hlt), if_neg]
    intro hsum
    exact hne ((publicSum_set_eq_iff _ _ hic hlt (hin rfl i)).mp hsum)
  · intro i j hij
    have hin' : InRange true (exchanged self.publicInputs i j) :=
      inRange_set (inRange_set hin (hin rfl j)) (hin rfl i)
    rw [verify_withInputs S hself hdec hsep hok hin',
      ← publicSum_exchanged_eq_iff _ _ hij (hin rfl i) (hin rfl j)]
    split
    · rename_i hsum
      exact iff_of_true rfl hsum
    · rename_i hsum
      exact iff_of_false (by simp) hsum

/-! ## The knowledge proof -/

theorem Constructed.withPok (hself : Constructed rt self) {pok : Bytes 64}
    (hpok : self.proofCommitmentPok = some pok) (pok' : Bytes 64) :
    Constructed rt { self with proofCommitmentPok := some pok' } := by
  cases hself with
  | new h =>
    obtain ⟨-, -, rfl⟩ := new_eq_ok_iff.mp h
    cases hpok
  | newWithCommitment hbuild h =>
    obtain ⟨hkey, hlen, rfl⟩ := newWithCommitment_eq_ok_iff.mp h
    exact .newWithCommitment hbuild (newWithCommitment_eq_ok_iff.mpr ⟨hkey, hlen, rfl⟩)

theorem pokHolds_iff_point {commitmentKey : CommitmentVerifyingKey} {g : G2}
    (hg : S.decodeG2 commitmentKey.g2 = some g) (hsep : S.e.Separates g)
    {commitment pok pok' : Bytes 64} (h : PokHolds S commitmentKey commitment pok) :
    PokHolds S commitmentKey commitment pok' ↔ S.decodeG1 pok' = S.decodeG1 pok := by
  obtain ⟨D, σ, P, g', hD, hσ, hP, hg', hone⟩ := h
  obtain rfl := Option.some_injective _ (hg'.symm.trans hg)
  constructor
  · intro h'
    obtain ⟨D', σ', P', g'', hD', hσ', hP', hg'', hone'⟩ := h'
    obtain rfl := Option.some_injective _ (hD.symm.trans hD')
    obtain rfl := Option.some_injective _ (hσ.symm.trans hσ')
    obtain rfl := Option.some_injective _ (hg'.symm.trans hg'')
    rw [← hone', mul_right_inj] at hone
    rw [hP', hP, hsep.injective _ hone]
  · intro hsame
    exact ⟨D, σ, P, g', hD, hσ, hsame.trans hP, hg', hone⟩

open Classical in
/-- A commitment has one knowledge proof. -/
theorem verify_binds_pok (hself : Constructed rt self) {commitment pok : Bytes 64}
    {commitmentKey : CommitmentVerifyingKey} {g : G2}
    (hkey : self.verifyingkey.vkCommitment = some commitmentKey)
    (hcommitment : self.proofCommitment = some commitment)
    (hpok : self.proofCommitmentPok = some pok)
    (hg : S.decodeG2 commitmentKey.g2 = some g) (hsep : S.e.Separates g)
    (hok : (verify rt self).1 = .ok ()) (pok' : Bytes 64) :
    (verify rt { self with proofCommitmentPok := some pok' }).1 =
      if S.decodeG1 pok' = S.decodeG1 pok then .ok ()
      else .error .commitmentPokVerificationFailed := by
  obtain ⟨hin, key, D, hdec, hD, hholds, hknown⟩ :=
    (verifyCommon_bsb22_ok_iff S hself hkey hcommitment hpok).mp hok
  rw [verify, verifyCommon_bsb22_outcome S (hself.withPok hpok pok') hkey hcommitment rfl hdec, hD,
    if_neg (not_not.mpr hin)]
  dsimp only
  rw [if_neg (not_not.mpr hholds)]
  simp only [pokHolds_iff_point S hg hsep hknown, ite_not]

/-! ## The commitment -/

theorem Constructed.withCommitment (hself : Constructed rt self) {commitment : Bytes 64}
    (hcommitment : self.proofCommitment = some commitment) (commitment' : Bytes 64) :
    Constructed rt { self with proofCommitment := some commitment' } := by
  cases hself with
  | new h =>
    obtain ⟨-, -, rfl⟩ := new_eq_ok_iff.mp h
    cases hcommitment
  | newWithCommitment hbuild h =>
    obtain ⟨hkey, hlen, rfl⟩ := newWithCommitment_eq_ok_iff.mp h
    exact .newWithCommitment hbuild (newWithCommitment_eq_ok_iff.mpr ⟨hkey, hlen, rfl⟩)

theorem pokHolds_iff_commitment {commitmentKey : CommitmentVerifyingKey} {σ : G2}
    (hσ : S.decodeG2 commitmentKey.gSigmaNegG2 = some σ) (hsep : S.e.Separates σ)
    {commitment commitment' pok : Bytes 64} (h : PokHolds S commitmentKey commitment pok) :
    PokHolds S commitmentKey commitment' pok ↔ S.decodeG1 commitment' = S.decodeG1 commitment := by
  obtain ⟨D, σ', P, g, hD, hσ', hP, hg, hone⟩ := h
  obtain rfl := Option.some_injective _ (hσ'.symm.trans hσ)
  constructor
  · intro h'
    obtain ⟨D', σ'', P', g', hD', hσ'', hP', hg', hone'⟩ := h'
    obtain rfl := Option.some_injective _ (hσ'.symm.trans hσ'')
    obtain rfl := Option.some_injective _ (hP.symm.trans hP')
    obtain rfl := Option.some_injective _ (hg.symm.trans hg')
    rw [← hone', mul_left_inj] at hone
    rw [hD', hD, hsep.injective _ hone]
  · intro hsame
    exact ⟨D, σ', P, g, hsame.trans hD, hσ', hP, hg, hone⟩

theorem committedSum_challenge_iff {inputs : Vector (Bytes 32) n} {ic : ℕ → G1}
    {commitment commitment' : Bytes 64} {D : G1} :
    committedSum rt inputs ic commitment' D = committedSum rt inputs ic commitment D ↔
      ic (n + 1) = 0 ∨ challenge rt commitment' % frModulus = challenge rt commitment % frModulus := by
  rw [committedSum, committedSum, ← encodeG1_injective.eq_iff]
  exact encode_eq_iff _ _ _ _ _

open Classical in
/-- An accepted proof is bound to its commitment: another point is always refused, and other bytes of
the same point are refused where their challenge is another one and is used. -/
theorem verify_binds_commitment (hself : Constructed rt self)
    (hdec : DecodesKey S self.verifyingkey key) {commitment pok : Bytes 64}
    {commitmentKey : CommitmentVerifyingKey} {σ : G2}
    (hkey : self.verifyingkey.vkCommitment = some commitmentKey)
    (hcommitment : self.proofCommitment = some commitment)
    (hpok : self.proofCommitmentPok = some pok)
    (hσ : S.decodeG2 commitmentKey.gSigmaNegG2 = some σ) (hsep : S.e.Separates σ)
    (hgamma : S.e.Separates key.gamma) (hok : (verify rt self).1 = .ok ()) (commitment' : Bytes 64) :
    ∃ D, S.decodeG1 commitment = some D ∧
      (S.decodeG1 commitment' = none →
        (verify rt { self with proofCommitment := some commitment' }).1 =
          .error .bsb22InvalidCommitmentPoint) ∧
      (∀ D', S.decodeG1 commitment' = some D' → D' ≠ D →
        (verify rt { self with proofCommitment := some commitment' }).1 =
          if committedSum rt self.publicInputs key.ic commitment' D' =
              committedSum rt self.publicInputs key.ic commitment D then
            .error .commitmentPokVerificationFailed
          else .error .proofVerificationFailed) ∧
      (S.decodeG1 commitment' = some D →
        (verify rt { self with proofCommitment := some commitment' }).1 =
          if key.ic (n + 1) = 0 ∨
              challenge rt commitment' % frModulus = challenge rt commitment % frModulus then .ok ()
          else .error .proofVerificationFailed) := by
  obtain ⟨-, -, D, -, hD, -⟩ := (verifyCommon_bsb22_ok_iff S hself hkey hcommitment hpok).mp hok
  obtain ⟨hin, hholds, hknown⟩ := holds_of_bsb22_ok S hself hkey hcommitment hpok hdec hD hok
  have houtcome : (verifyCommon rt true { self with proofCommitment := some commitment' }).1 = _ :=
    verifyCommon_bsb22_outcome S (hself.withCommitment hcommitment commitment') hkey rfl hpok hdec
  rw [if_neg (not_not.mpr hin)] at houtcome
  have hpoint : PokHolds S commitmentKey commitment' pok ↔
      S.decodeG1 commitment' = S.decodeG1 commitment := pokHolds_iff_commitment S hσ hsep hknown
  refine ⟨D, hD, ?_, ?_, ?_⟩
  · intro hnone
    rw [verify, houtcome, hnone]
  · intro D' hD' hne
    rw [verify, houtcome, hD']
    have hunknown : ¬ PokHolds S commitmentKey commitment' pok := by
      rw [hpoint, hD, hD']
      exact fun h => hne (Option.some.inj h)
    simp only [proofHolds_iff_sum S hgamma hholds, if_pos hunknown, ite_not]
  · intro hsame
    rw [verify, houtcome, hsame]
    have hknown' : PokHolds S commitmentKey commitment' pok := hpoint.mpr (hsame.trans hD.symm)
    simp only [proofHolds_iff_sum S hgamma hholds, committedSum_challenge_iff,
      if_neg (not_not.mpr hknown'), ite_not]

end

/-! ## Small verifiers -/

theorem separates_one : scalarPairing.Separates 1 := by
  intro P h
  rw [scalarPairing_one] at h
  exact ofAdd_eq_one.mp h

/-- The key of `smallVerifier`. -/
def smallKey : Key (ZMod frModulus) := ⟨g1Generator, 1, 1, 1, fun j => [0, g1Generator].getD j 0⟩

theorem decodesKey_smallVerifier :
    DecodesKey referenceSyscalls smallVerifier.verifyingkey smallKey :=
  decodesKey_smallVk _ _ _

theorem smallVerifier_accepts : (verify referenceRuntime smallVerifier).1 = .ok () := by
  refine (verifyCommon_plain_ok_iff referenceSyscalls (.new smallVerifier_new) rfl).mpr
    ⟨fun _ => by decide +kernel, smallKey, decodesKey_smallVerifier, g1Generator, 1, -g1Generator,
      referenceSyscalls.decodeG1_encodeG1 (-g1Generator), decodeG2_generator,
      referenceSyscalls.decodeG1_encodeG1 (-g1Generator), ?_⟩
  have hone : beNat (smallVerifier.publicInputs.get 0).toList = 1 := by decide +kernel
  have hsum : publicSum smallVerifier.publicInputs smallKey.ic = g1Generator := by
    rw [publicSum, Fin.sum_univ_one, hone, one_nsmul]
    exact zero_add _
  rw [hsum, referenceSyscalls_e]
  simp only [smallKey, scalarPairing_one]
  rw [← ofAdd_add, ← ofAdd_add, add_neg_cancel_right]

/-- The small verifier refuses two where it accepts one. -/
theorem verify_binds_inputs_small :
    (verify referenceRuntime { smallVerifier with
        publicInputs := smallVerifier.publicInputs.set 0 (beBytes 32 2) }).1 =
      .error .proofVerificationFailed := by
  refine (verify_binds_inputs referenceSyscalls (.new smallVerifier_new) decodesKey_smallVerifier
    separates_one smallVerifier_accepts).2.1 0 (beBytes 32 2) ?_ g1Generator_ne_zero ?_
  · decide +kernel
  · decide +kernel

/-- A verifier with a commitment to the generator. -/
def smallBsb22Verifier : Groth16Verifier 0 :=
  ⟨encodeG1 (-g1Generator), g2GeneratorBytes, encodeG1 (-g1Generator),
    Vector.replicate 0 (Bytes.zero 32), Bytes.zero 64,
    smallVk g1Generator [0, 0] (some ⟨g2GeneratorBytes, g2GeneratorBytes⟩),
    some (encodeG1 g1Generator), some (encodeG1 (-g1Generator))⟩

theorem smallBsb22Verifier_constructed : Constructed referenceRuntime smallBsb22Verifier :=
  .newWithCommitment rfl (newWithCommitment_eq_ok_iff.mpr ⟨rfl, rfl, rfl⟩)

theorem smallBsb22Verifier_accepts : (verify referenceRuntime smallBsb22Verifier).1 = .ok () := by
  have hkey : DecodesKey referenceSyscalls smallBsb22Verifier.verifyingkey
      ⟨g1Generator, 1, 1, 1, fun j => [0, 0].getD j 0⟩ := decodesKey_smallVk _ _ _
  refine (verifyCommon_bsb22_ok_iff referenceSyscalls smallBsb22Verifier_constructed rfl rfl
    rfl).mpr ⟨fun _ i => i.elim0, _, g1Generator, hkey, referenceSyscalls.decodeG1_encodeG1 _,
      ⟨g1Generator, 1, -g1Generator, referenceSyscalls.decodeG1_encodeG1 (-g1Generator),
        decodeG2_generator, referenceSyscalls.decodeG1_encodeG1 (-g1Generator), ?_⟩,
      g1Generator, 1, -g1Generator, 1, referenceSyscalls.decodeG1_encodeG1 _, decodeG2_generator,
      referenceSyscalls.decodeG1_encodeG1 _, decodeG2_generator, ?_⟩
  · have hsum : committedSum referenceRuntime smallBsb22Verifier.publicInputs
        (fun j => [(0 : G1), 0].getD j 0) (encodeG1 g1Generator) g1Generator = g1Generator := by
      rw [committedSum, publicSum, Fin.sum_univ_zero]
      generalize challenge referenceRuntime (encodeG1 g1Generator) = h
      change 0 + 0 + h • (0 : G1) + g1Generator = g1Generator
      rw [nsmul_zero, add_zero, add_zero, zero_add]
    rw [hsum, referenceSyscalls_e]
    simp only [scalarPairing_one]
    rw [← ofAdd_add, ← ofAdd_add, add_neg_cancel_right]
  · rw [referenceSyscalls_e, scalarPairing_one, scalarPairing_one, ← ofAdd_add, add_neg_cancel,
      ofAdd_zero]

/-- The identity is no knowledge proof of the generator. -/
theorem verify_binds_pok_small :
    (verify referenceRuntime { smallBsb22Verifier with
        proofCommitmentPok := some (encodeG1 0) }).1 =
      .error .commitmentPokVerificationFailed := by
  have h := verify_binds_pok referenceSyscalls smallBsb22Verifier_constructed rfl rfl rfl
    decodeG2_generator separates_one smallBsb22Verifier_accepts (encodeG1 0)
  rw [h, if_neg]
  rw [referenceSyscalls.decodeG1_encodeG1, referenceSyscalls.decodeG1_encodeG1, Option.some.injEq]
  exact fun hzero => g1Generator_ne_zero (neg_eq_zero.mp hzero.symm)

/-- The small verifier refuses the identity in place of its commitment. -/
theorem verify_binds_commitment_small :
    (verify referenceRuntime { smallBsb22Verifier with
        proofCommitment := some (encodeG1 0) }).1 = .error .proofVerificationFailed := by
  have hkey : DecodesKey referenceSyscalls smallBsb22Verifier.verifyingkey
      ⟨g1Generator, 1, 1, 1, fun j => [0, 0].getD j 0⟩ := decodesKey_smallVk _ _ _
  obtain ⟨D, hD, -, hother, -⟩ := verify_binds_commitment referenceSyscalls
    smallBsb22Verifier_constructed hkey rfl rfl rfl decodeG2_generator separates_one separates_one
    smallBsb22Verifier_accepts (encodeG1 0)
  rw [referenceSyscalls.decodeG1_encodeG1] at hD hother
  obtain rfl := Option.some.inj hD
  have hunused : ∀ h : ℕ, h • ([0, 0].getD 1 0 : G1) = 0 := nsmul_zero
  rw [hother 0 rfl g1Generator_ne_zero.symm, if_neg]
  rw [committedSum, committedSum, hunused, hunused, add_zero, add_zero, left_eq_add]
  exact g1Generator_ne_zero

end Groth16Solana
