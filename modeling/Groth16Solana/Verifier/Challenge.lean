import Groth16Solana.Verifier.Equation
import Groth16Solana.Verifier.Reference

/-! # The commitment challenge and the encoding it hashes

`prepare_inputs` adds the point that the commitment's bytes decode to, but hashes the bytes
themselves. Unless the hash collides, two encodings of one point are prepared alike only when they are
the same bytes or the challenge is not used. -/

set_option autoImplicit false

namespace Groth16Solana
open Foundations

/-! ## Two encodings of the identity -/

/-- The identity with its flag set, which arkworks reads as the 64 zero bytes. -/
def flaggedIdentity : Bytes 64 :=
  Bytes.ofList (List.replicate 32 0 ++ [0x40] ++ List.replicate 31 0) (by simp)

/-- A key without public inputs whose hash wire is `Q`. -/
def hashWireVk (Q : G1) : Groth16Verifyingkey :=
  smallVk 0 [0, Q] (some ⟨g2GeneratorBytes, g2GeneratorBytes⟩)

theorem arkDecodeG1_flaggedIdentity : arkDecodeG1 flaggedIdentity = some 0 := by
  have hne : flaggedIdentity ≠ Bytes.zero 64 := by decide
  have hx : beNat (flaggedIdentity.toList.take 32) = 0 := by decide +kernel
  have hflags : beNat (flaggedIdentity.toList.drop 32) / 2 ^ 254 = 1 := by decide +kernel
  have hy : beNat (flaggedIdentity.toList.drop 32) % 2 ^ 254 = 0 := by decide +kernel
  have hp : 0 < fqModulus := fqModulus_prime.pos
  simp only [arkDecodeG1, hx, hflags, hy]
  rw [if_neg hne, if_neg (by omega), if_pos trivial]

theorem challenge_flaggedIdentity : challenge referenceRuntime (Bytes.zero 64) % frModulus ≠
    challenge referenceRuntime flaggedIdentity % frModulus := by
  decide +kernel

/-- The verifier for a commitment under that key. -/
def identityVerifier (Q : G1) (proofC commitment : Bytes 64) : Groth16Verifier 0 :=
  ⟨Bytes.zero 64, Bytes.zero 128, proofC, #v[], Bytes.zero 64, hashWireVk Q, some commitment,
    some (Bytes.zero 64)⟩

theorem identityVerifier_new (Q : G1) (proofC commitment : Bytes 64) :
    Groth16Verifier.newWithCommitment (Bytes.zero 64) (Bytes.zero 128) proofC commitment
      (Bytes.zero 64) #v[] (hashWireVk Q) = .ok (identityVerifier Q proofC commitment) := rfl

theorem arkDecodeG1_identities : arkDecodeG1 (Bytes.zero 64) = arkDecodeG1 flaggedIdentity := by
  rw [arkDecodeG1_flaggedIdentity, arkDecodeG1_zero]

/-! ## Failures do not depend on the challenge -/

/-- Two challenges on one point agree when the point is the identity or the scalars do modulo the
group order. -/
theorem encode_eq_iff (L Q D : G1) (x y : ℕ) :
    encodeG1 (L + x • Q + D) = encodeG1 (L + y • Q + D) ↔
      Q = 0 ∨ x % frModulus = y % frModulus := by
  rw [encodeG1_injective.eq_iff, add_left_inj, add_right_inj]
  by_cases hQ : Q = 0
  · simp [hQ]
  · rw [nsmul_eq_iff hQ]
    simp [hQ]

section
variable {rt : Runtime} {G2 GT : Type} [AddCommGroup G2] [CommGroup GT] (S : AltBn128 rt G2 GT)
include S

theorem g1MulAdd_error_congr {point acc : Bytes 64} {scalar : Bytes 32} (scalar' : Bytes 32)
    {err : Groth16Error} (h : g1MulAdd rt point scalar acc = .error err) :
    g1MulAdd rt point scalar' acc = .error err := by
  rw [S.g1MulAdd_eq] at h ⊢
  cases hP : S.decodeG1 point with
  | none =>
    rw [hP] at h
    exact h
  | some P =>
    cases hQ : S.decodeG1 acc with
    | none =>
      rw [hP, hQ] at h
      exact h
    | some Q =>
      rw [hP, hQ] at h
      cases h

theorem addCommitment_error_congr {n : ℕ} {self self' : Groth16Verifier n}
    {acc commitment commitment' : Bytes 64} {key : CommitmentVerifyingKey} {err : Groth16Error}
    (hvk : self'.verifyingkey = self.verifyingkey)
    (hkey : self.verifyingkey.vkCommitment = some key)
    (hcommitment : self.proofCommitment = some commitment)
    (hcommitment' : self'.proofCommitment = some commitment')
    (hdec : S.decodeG1 commitment = S.decodeG1 commitment')
    (h : addCommitment rt self acc = .error err) : addCommitment rt self' acc = .error err := by
  have hkey' : self'.verifyingkey.vkCommitment = some key := by rw [hvk, hkey]
  rw [addCommitment_bsb22 hkey hcommitment] at h
  rw [addCommitment_bsb22 hkey' hcommitment', hvk]
  cases hic : self.verifyingkey.vkIc[n + 1]? with
  | none => rwa [hic] at h
  | some ic =>
    simp only [hic, okOr_some, ok_bind] at h ⊢
    cases hmul : g1MulAdd rt ic (commitmentHash rt commitment) acc with
    | error err' =>
      rw [hmul] at h
      rw [g1MulAdd_error_congr S (commitmentHash rt commitment') hmul]
      exact h
    | ok res =>
      obtain ⟨P, Q, hP, hQ, rfl⟩ := S.g1MulAdd_eq_ok_iff.mp hmul
      have hmul' : g1MulAdd rt ic (commitmentHash rt commitment') acc =
          .ok (encodeG1 (challenge rt commitment' • P + Q)) :=
        S.g1MulAdd_eq_ok_iff.mpr ⟨P, Q, hP, hQ, rfl⟩
      rw [hmul, ok_bind, S.g1Add_eq, S.decodeG1_encodeG1] at h
      rw [hmul', ok_bind, S.g1Add_eq, S.decodeG1_encodeG1, ← hdec]
      cases hD : S.decodeG1 commitment with
      | none =>
        rw [hD] at h
        exact h
      | some D =>
        rw [hD] at h
        cases h

/-! ## When the encoding does not matter -/

theorem DecodesIc.unique {vkIc : List (Bytes 64)} {count : ℕ} {ic ic' : ℕ → G1}
    (h : DecodesIc S vkIc count ic) (h' : DecodesIc S vkIc count ic') {j : ℕ} (hj : j < count) :
    ic j = ic' j := by
  obtain ⟨bytes, hbytes, hP⟩ := h j hj
  obtain ⟨bytes', hbytes', hP'⟩ := h' j hj
  obtain rfl := Option.some_injective _ (hbytes.symm.trans hbytes')
  exact Option.some_injective _ (hP.symm.trans hP')

theorem DecodesIc.publicSum_eq {vkIc : List (Bytes 64)} {n : ℕ} {publicInputs : Vector (Bytes 32) n}
    {ic ic' : ℕ → G1} (h : DecodesIc S vkIc (n + 2) ic) (h' : DecodesIc S vkIc (n + 2) ic') :
    publicSum publicInputs ic = publicSum publicInputs ic' := by
  rw [publicSum, publicSum, h.unique S h' (Nat.succ_pos _)]
  congr 1
  refine Finset.sum_congr rfl ?_
  intro i _
  rw [h.unique S h' (by omega)]

theorem preparedInputs_error_congr {check : Bool} {n : ℕ} {self self' : Groth16Verifier n}
    {commitment commitment' : Bytes 64} {key : CommitmentVerifyingKey} {err : Groth16Error}
    (h : preparedInputs rt check self = .error err)
    (hvk : self'.verifyingkey = self.verifyingkey) (hins : self'.publicInputs = self.publicInputs)
    (hkey : self.verifyingkey.vkCommitment = some key)
    (hcommitment : self.proofCommitment = some commitment)
    (hcommitment' : self'.proofCommitment = some commitment')
    (hdec : S.decodeG1 commitment = S.decodeG1 commitment') :
    preparedInputs rt check self' = .error err := by
  rw [preparedInputs, bind_eq_error] at h ⊢
  rw [hvk, hins]
  rcases h with hfirst | ⟨first, hfirst, h⟩
  · exact Or.inl hfirst
  · refine Or.inr ⟨first, hfirst, ?_⟩
    rcases bind_eq_error.mp h with hloop | ⟨acc, hloop, hadd⟩
    · exact bind_eq_error.mpr (Or.inl hloop)
    · refine bind_eq_error.mpr (Or.inr ⟨acc, hloop, ?_⟩)
      by_cases hbuild : rt.bsb22 = true
      · rw [if_pos hbuild] at hadd ⊢
        exact addCommitment_error_congr S hvk hkey hcommitment hcommitment' hdec hadd
      · rw [if_neg hbuild] at hadd
        cases hadd

end

/-- Both results are the same, and so is what is prepared. -/
def PreparedAlike (rt : Runtime) (check : Bool) {n : ℕ} (self self' : Groth16Verifier n) : Prop :=
  (prepareInputs rt check self).1 = (prepareInputs rt check self').1 ∧
    (prepareInputs rt check self).2.preparedPublicInputs =
      (prepareInputs rt check self').2.preparedPublicInputs

/-- Different bytes whose challenges are one scalar. -/
def ChallengeCollision (rt : Runtime) (D D' : Bytes 64) : Prop :=
  D ≠ D' ∧ challenge rt D % frModulus = challenge rt D' % frModulus

section
variable {rt : Runtime} {G2 GT : Type} [AddCommGroup G2] [CommGroup GT] (S : AltBn128 rt G2 GT)

/-- The prepared inputs do not depend on the bytes of the commitment: an input or a point stops the
preparation, or the hash wire is the identity. -/
inductive EncodingUnused (check : Bool) (vk : Groth16Verifyingkey) {n : ℕ}
    (publicInputs : Vector (Bytes 32) n) (commitment : Bytes 64) : Prop
  | input (i : Fin n) (hcheck : check = true)
    (hinput : frModulus ≤ beNat (publicInputs.get i).toList) :
    EncodingUnused check vk publicInputs commitment
  | row (j : ℕ) (hj : j < n + 2) (hrow : vk.vkIc[j]?.bind S.decodeG1 = none) :
    EncodingUnused check vk publicInputs commitment
  | commitment (hpoint : S.decodeG1 commitment = none) :
    EncodingUnused check vk publicInputs commitment
  | wire (hwire : vk.vkIc[n + 1]?.bind S.decodeG1 = some 0) :
    EncodingUnused check vk publicInputs commitment

/-- The verifier holds inputs that were prepared with the challenge of the canonical encoding. -/
def PreparedCanonically {n : ℕ} (self : Groth16Verifier n) (D : G1) : Prop :=
  ∃ ic, DecodesIc S self.verifyingkey.vkIc (n + 2) ic ∧
    self.preparedPublicInputs = encodeG1
      (publicSum self.publicInputs ic + challenge rt (encodeG1 D) • ic (n + 1) + D)

theorem DecodesIc.bind_eq {vkIc : List (Bytes 64)} {count : ℕ} {ic : ℕ → G1}
    (h : DecodesIc S vkIc count ic) {j : ℕ} (hj : j < count) :
    vkIc[j]?.bind S.decodeG1 = some (ic j) := by
  obtain ⟨bytes, hbytes, hP⟩ := h j hj
  rw [hbytes, Option.bind_some, hP]

theorem exists_decodesIc {vkIc : List (Bytes 64)} {count : ℕ}
    (h : ∀ j < count, vkIc[j]?.bind S.decodeG1 ≠ none) : ∃ ic, DecodesIc S vkIc count ic := by
  refine ⟨fun j => (vkIc[j]?.bind S.decodeG1).getD 0, ?_⟩
  intro j hj
  obtain ⟨P, hP⟩ := Option.ne_none_iff_exists'.mp (h j hj)
  obtain ⟨bytes, hbytes, hdec⟩ := Option.bind_eq_some_iff.mp hP
  refine ⟨bytes, hbytes, ?_⟩
  simp only [hP, hdec, Option.getD_some]

theorem encodingUnused_iff {check : Bool} {vk : Groth16Verifyingkey} {n : ℕ}
    {publicInputs : Vector (Bytes 32) n} {commitment : Bytes 64} :
    EncodingUnused S check vk publicInputs commitment ↔
      ((check = true → ∀ i : Fin n, beNat (publicInputs.get i).toList < frModulus) →
        ∀ ic D, DecodesIc S vk.vkIc (n + 2) ic → S.decodeG1 commitment = some D →
          ic (n + 1) = 0) := by
  constructor
  · intro h hins ic D hic hD
    cases h with
    | input i hcheck hinput => exact absurd (hins hcheck i) (Nat.not_lt.mpr hinput)
    | row j hj hrow => cases hrow.symm.trans (hic.bind_eq S hj)
    | commitment hpoint => cases hpoint.symm.trans hD
    | wire hwire => exact Option.some.inj ((hic.bind_eq S (Nat.lt_succ_self _)).symm.trans hwire)
  · intro h
    by_cases hins : check = true → ∀ i : Fin n, beNat (publicInputs.get i).toList < frModulus
    · by_cases hrows : ∀ j < n + 2, vk.vkIc[j]?.bind S.decodeG1 ≠ none
      · obtain ⟨ic, hic⟩ := exists_decodesIc S hrows
        cases hD : S.decodeG1 commitment with
        | none => exact .commitment hD
        | some D =>
          have hwire := hic.bind_eq S (Nat.lt_succ_self _)
          rw [h hins ic D hic hD] at hwire
          exact .wire hwire
      · push Not at hrows
        obtain ⟨j, hj, hrow⟩ := hrows
        exact .row j hj hrow
    · push Not at hins
      obtain ⟨hcheck, i, hinput⟩ := hins
      exact .input i hcheck hinput

variable {n : ℕ} {vk : Groth16Verifyingkey} {proofA proofC pok D₁ D₂ : Bytes 64}
  {proofB : Bytes 128} {publicInputs : Vector (Bytes 32) n} {self₁ self₂ : Groth16Verifier n}

theorem preparedAlike_iff_challenge (hbuild : rt.bsb22 = true)
    (h₁ : Groth16Verifier.newWithCommitment proofA proofB proofC D₁ pok publicInputs vk = .ok self₁)
    (h₂ : Groth16Verifier.newWithCommitment proofA proofB proofC D₂ pok publicInputs vk = .ok self₂)
    (hdec : S.decodeG1 D₁ = S.decodeG1 D₂) (check : Bool) :
    PreparedAlike rt check self₁ self₂ ↔
      ((check = true → ∀ i : Fin n, beNat (publicInputs.get i).toList < frModulus) →
        ∀ ic D, DecodesIc S vk.vkIc (n + 2) ic → S.decodeG1 D₁ = some D →
          ic (n + 1) = 0 ∨ challenge rt D₁ % frModulus = challenge rt D₂ % frModulus) := by
  obtain ⟨hsome, -, rfl⟩ := newWithCommitment_eq_ok_iff.mp h₁
  obtain ⟨-, -, rfl⟩ := newWithCommitment_eq_ok_iff.mp h₂
  obtain ⟨key, hkey⟩ := Option.isSome_iff_exists.mp hsome
  unfold PreparedAlike
  cases hp : preparedInputs rt check
      (⟨proofA, proofB, proofC, publicInputs, Bytes.zero 64, vk, some D₁, some pok⟩ :
        Groth16Verifier n) with
  | error err =>
    have hp' : preparedInputs rt check (⟨proofA, proofB, proofC, publicInputs, Bytes.zero 64, vk,
        some D₂, some pok⟩ : Groth16Verifier n) = .error err :=
      preparedInputs_error_congr S hp rfl rfl hkey rfl rfl hdec
    rw [prepareInputs_of_error hp, prepareInputs_of_error hp']
    refine ⟨fun _ hins ic D hic hD => ?_, fun _ => ⟨rfl, rfl⟩⟩
    have hok : preparedInputs rt check (⟨proofA, proofB, proofC, publicInputs, Bytes.zero 64, vk,
        some D₁, some pok⟩ : Groth16Verifier n) = .ok _ :=
      (preparedInputs_bsb22_eq_ok_iff S hbuild hkey rfl).mpr ⟨hins, ic, D, hic, hD, rfl⟩
    rw [hp] at hok
    cases hok
  | ok out =>
    obtain ⟨hins, ic, D, hic, hD, rfl⟩ := (preparedInputs_bsb22_eq_ok_iff S hbuild hkey rfl).mp hp
    have hp' : preparedInputs rt check (⟨proofA, proofB, proofC, publicInputs, Bytes.zero 64, vk,
        some D₂, some pok⟩ : Groth16Verifier n) = .ok (encodeG1
          (publicSum publicInputs ic + challenge rt D₂ • ic (n + 1) + D)) :=
      (preparedInputs_bsb22_eq_ok_iff S hbuild hkey rfl).mpr
        ⟨hins, ic, D, hic, by rw [← hdec, hD], rfl⟩
    rw [prepareInputs_of_ok hp, prepareInputs_of_ok hp']
    constructor
    · rintro ⟨-, heq⟩ - ic' D' hic' -
      rw [← hic.unique S hic' (Nat.lt_succ_self _)]
      exact (encode_eq_iff _ _ _ _ _).mp heq
    · intro h
      exact ⟨rfl, (encode_eq_iff _ _ _ _ _).mpr (h hins ic D hic hD)⟩

/-- Without a collision the challenges of two encodings agree only when the encodings do. -/
theorem preparedAlike_iff_encoding (hbuild : rt.bsb22 = true)
    (h₁ : Groth16Verifier.newWithCommitment proofA proofB proofC D₁ pok publicInputs vk = .ok self₁)
    (h₂ : Groth16Verifier.newWithCommitment proofA proofB proofC D₂ pok publicInputs vk = .ok self₂)
    (hdec : S.decodeG1 D₁ = S.decodeG1 D₂) (hcollision : ¬ ChallengeCollision rt D₁ D₂)
    (check : Bool) :
    PreparedAlike rt check self₁ self₂ ↔
      D₁ = D₂ ∨ EncodingUnused S check vk publicInputs D₁ := by
  rw [preparedAlike_iff_challenge S hbuild h₁ h₂ hdec, encodingUnused_iff]
  constructor
  · intro h
    by_cases heq : D₁ = D₂
    · exact Or.inl heq
    · refine Or.inr fun hins ic D hic hD => ?_
      exact (h hins ic D hic hD).resolve_right fun hchallenge => hcollision ⟨heq, hchallenge⟩
  · rintro (rfl | h) hins ic D hic hD
    · exact Or.inr rfl
    · exact Or.inl (h hins ic D hic hD)

/-- An accepted commitment was prepared with the challenge of its own bytes. -/
theorem preparedCanonically_iff (hbuild : rt.bsb22 = true)
    (h₁ : Groth16Verifier.newWithCommitment proofA proofB proofC D₁ pok publicInputs vk = .ok self₁)
    (hok : (verify rt self₁).1 = .ok ()) {D : G1} (hD : S.decodeG1 D₁ = some D)
    (hcollision : ¬ ChallengeCollision rt D₁ (encodeG1 D)) :
    PreparedCanonically S (verify rt self₁).2 D ↔
      D₁ = encodeG1 D ∨ vk.vkIc[n + 1]?.bind S.decodeG1 = some 0 := by
  obtain ⟨hsome, -, rfl⟩ := newWithCommitment_eq_ok_iff.mp h₁
  obtain ⟨key, hkey⟩ := Option.isSome_iff_exists.mp hsome
  obtain ⟨out, hout, -⟩ := verifyCommon_eq_ok_iff.mp hok
  obtain ⟨-, ic, D', hic, hD', rfl⟩ := (preparedInputs_bsb22_eq_ok_iff S hbuild hkey rfl).mp hout
  obtain rfl := Option.some.inj (hD.symm.trans hD')
  rw [verify, verifyCommon_of_ok hout, hic.bind_eq S (Nat.lt_succ_self _), Option.some.injEq]
  constructor
  · rintro ⟨ic', hic', heq⟩
    rw [hic'.publicSum_eq S hic, hic'.unique S hic (Nat.lt_succ_self _)] at heq
    by_cases hbytes : D₁ = encodeG1 D
    · exact Or.inl hbytes
    · refine Or.inr (((encode_eq_iff _ _ _ _ _).mp heq).resolve_right fun hchallenge => ?_)
      exact hcollision ⟨hbytes, hchallenge⟩
  · intro h
    refine ⟨ic, hic, (encode_eq_iff _ _ _ _ _).mpr ?_⟩
    rcases h with hbytes | hwire
    · rw [← hbytes]
      exact Or.inr rfl
    · exact Or.inl hwire

/-- Where the hash has no collision, two encodings of one commitment are prepared alike exactly when
they are the same bytes or their bytes do not matter, and an accepted one contributes the challenge of
its point's canonical encoding exactly when it is that encoding or its hash wire is the identity. -/
theorem prepared_alike_iff (hbuild : rt.bsb22 = true)
    (h₁ : Groth16Verifier.newWithCommitment proofA proofB proofC D₁ pok publicInputs vk = .ok self₁)
    (h₂ : Groth16Verifier.newWithCommitment proofA proofB proofC D₂ pok publicInputs vk = .ok self₂)
    (hdec : S.decodeG1 D₁ = S.decodeG1 D₂) (check : Bool) :
    (¬ ChallengeCollision rt D₁ D₂ → (PreparedAlike rt check self₁ self₂ ↔
      D₁ = D₂ ∨ EncodingUnused S check vk publicInputs D₁)) ∧
    ∀ D, S.decodeG1 D₁ = some D → ¬ ChallengeCollision rt D₁ (encodeG1 D) →
      (verify rt self₁).1 = .ok () → (PreparedCanonically S (verify rt self₁).2 D ↔
        D₁ = encodeG1 D ∨ vk.vkIc[n + 1]?.bind S.decodeG1 = some 0) :=
  ⟨fun hcollision => preparedAlike_iff_encoding S hbuild h₁ h₂ hdec hcollision check,
    fun _ hD hcollision hok => preparedCanonically_iff S hbuild h₁ hok hD hcollision⟩

end

theorem not_collision_identities :
    ¬ ChallengeCollision referenceRuntime flaggedIdentity (Bytes.zero 64) :=
  fun hcollision => challenge_flaggedIdentity hcollision.2.symm

/-- The third point of a proof that the flagged identity completes. -/
noncomputable def flaggedProofC : Bytes 64 :=
  encodeG1 (-(challenge referenceRuntime flaggedIdentity • g1Generator))

theorem preparedInputs_identity (Q : G1) (proofC : Bytes 64) {commitment : Bytes 64}
    (hcommitment : arkDecodeG1 commitment = some 0) :
    preparedInputs referenceRuntime true (identityVerifier Q proofC commitment) =
      .ok (encodeG1 (challenge referenceRuntime commitment • Q)) := by
  have hsum : publicSum (#v[] : Vector (Bytes 32) 0) (fun j => [0, Q].getD j 0) = 0 := by
    simp [publicSum]
  refine (preparedInputs_bsb22_eq_ok_iff referenceSyscalls rfl rfl rfl).mpr
    ⟨fun _ i => i.elim0, _, 0, (decodesKey_smallVk _ _ _).ic, hcommitment, ?_⟩
  change _ = encodeG1 (publicSum #v[] (fun j => [0, Q].getD j 0) +
    challenge referenceRuntime commitment • Q + 0)
  rw [hsum, zero_add, add_zero]

theorem identityVerifier_accepts {Q C : G1} {proofC commitment : Bytes 64}
    (hcommitment : arkDecodeG1 commitment = some 0) (hC : arkDecodeG1 proofC = some C)
    (hsum : challenge referenceRuntime commitment • Q + C = 0) :
    (verify referenceRuntime (identityVerifier Q proofC commitment)).1 = .ok () := by
  have hprepared := preparedInputs_identity Q proofC hcommitment
  have hL := referenceSyscalls.decodeG1_encodeG1 (challenge referenceRuntime commitment • Q)
  generalize encodeG1 (challenge referenceRuntime commitment • Q) = out at hprepared hL
  generalize challenge referenceRuntime commitment • Q = L at hL hsum
  have hzero : referenceSyscalls.decodeG1 (Bytes.zero 64) = some 0 := arkDecodeG1_zero
  have hneg : referenceSyscalls.decodeG1 (Bytes.zero 64) = some (-0) := by rw [hzero, neg_zero]
  have hzero2 : referenceSyscalls.decodeG2 (Bytes.zero 128) = some 0 := by
    rw [referenceSyscalls_decodeG2, referenceDecodeG2, if_pos rfl]
  have hkey : DecodesKey referenceSyscalls (hashWireVk Q) ⟨0, 1, 1, 1, fun j => [0, Q].getD j 0⟩ :=
    decodesKey_smallVk _ _ _
  refine verifyCommon_eq_ok_iff.mpr ⟨out, hprepared, verifyPrepared_eq_ok_iff.mpr ⟨?_, fun _ => ?_⟩⟩
  · refine (pairingCheck_iff referenceSyscalls hneg).mpr ⟨0, L, 1, C, 1, 0, 1, hzero2, hL,
      hkey.gamma, hC, hkey.delta, hkey.alpha, hkey.beta, ?_⟩
    rw [Pairing.pair_zero_left, Pairing.pair_zero_left, one_mul, ← Pairing.pair_add_left, hsum,
      Pairing.pair_zero_left]
  · refine (pokCheck_iff referenceSyscalls).mpr ⟨0, 1, 0, 1, hcommitment, decodeG2_generator, hzero,
      decodeG2_generator, ?_⟩
    rw [Pairing.pair_zero_left, mul_one]

theorem flaggedIdentity_accepted :
    (verify referenceRuntime (identityVerifier g1Generator flaggedProofC flaggedIdentity)).1 =
      .ok () :=
  identityVerifier_accepts arkDecodeG1_flaggedIdentity (arkDecodeG1_encodeG1 _) (add_neg_cancel _)

/-- The two identities are prepared alike under an idle hash wire only, and the flagged one is accepted
without the challenge of the canonical encoding. -/
theorem prepared_alike_iff_identity :
    PreparedAlike referenceRuntime true (identityVerifier 0 flaggedProofC flaggedIdentity)
        (identityVerifier 0 flaggedProofC (Bytes.zero 64)) ∧
      ¬ PreparedAlike referenceRuntime true (identityVerifier g1Generator flaggedProofC flaggedIdentity)
        (identityVerifier g1Generator flaggedProofC (Bytes.zero 64)) ∧
      (verify referenceRuntime (identityVerifier g1Generator flaggedProofC flaggedIdentity)).1 =
        .ok () ∧
      ¬ PreparedCanonically referenceSyscalls
        (verify referenceRuntime (identityVerifier g1Generator flaggedProofC flaggedIdentity)).2 0 := by
  have hdec : referenceSyscalls.decodeG1 flaggedIdentity = referenceSyscalls.decodeG1 (Bytes.zero 64) :=
    arkDecodeG1_identities.symm
  have hbytes : flaggedIdentity ≠ Bytes.zero 64 := by decide
  have hwire : (hashWireVk g1Generator).vkIc[0 + 1]?.bind referenceSyscalls.decodeG1 ≠ some 0 := by
    change referenceSyscalls.decodeG1 (encodeG1 g1Generator) ≠ some 0
    rw [referenceSyscalls.decodeG1_encodeG1]
    nofun
  have hidle : (hashWireVk 0).vkIc[0 + 1]?.bind referenceSyscalls.decodeG1 = some 0 :=
    referenceSyscalls.decodeG1_encodeG1 0
  obtain ⟨hgen, hcanonical⟩ := prepared_alike_iff referenceSyscalls rfl
    (identityVerifier_new g1Generator flaggedProofC flaggedIdentity)
    (identityVerifier_new g1Generator flaggedProofC (Bytes.zero 64)) hdec true
  refine ⟨?_, ?_, flaggedIdentity_accepted, ?_⟩
  · have hzero := (prepared_alike_iff referenceSyscalls rfl
      (identityVerifier_new 0 flaggedProofC flaggedIdentity)
      (identityVerifier_new 0 flaggedProofC (Bytes.zero 64)) hdec true).1
    exact (hzero not_collision_identities).mpr (Or.inr (.wire hidle))
  · intro halike
    rcases (hgen not_collision_identities).mp halike with heq | hunused
    · exact hbytes heq
    · have hzero := (encodingUnused_iff referenceSyscalls).mp hunused (fun _ i => i.elim0) _ 0
        (decodesKey_smallVk 0 [0, g1Generator] _).ic arkDecodeG1_flaggedIdentity
      cases hzero
  · intro hprepared
    rcases (hcanonical 0 arkDecodeG1_flaggedIdentity not_collision_identities
      flaggedIdentity_accepted).mp hprepared with heq | hzero
    · exact hbytes heq
    · exact hwire hzero

/-- The two encodings of the identity are prepared differently. -/
theorem identity_encodings_prepared_differently :
    arkDecodeG1 (Bytes.zero 64) = arkDecodeG1 flaggedIdentity ∧
      Groth16Verifier.newWithCommitment (Bytes.zero 64) (Bytes.zero 128) (Bytes.zero 64)
        (Bytes.zero 64) (Bytes.zero 64) #v[] (hashWireVk g1Generator) =
          .ok (identityVerifier g1Generator (Bytes.zero 64) (Bytes.zero 64)) ∧
      Groth16Verifier.newWithCommitment (Bytes.zero 64) (Bytes.zero 128) (Bytes.zero 64)
        flaggedIdentity (Bytes.zero 64) #v[] (hashWireVk g1Generator) =
          .ok (identityVerifier g1Generator (Bytes.zero 64) flaggedIdentity) ∧
      ¬ PreparedAlike referenceRuntime true
        (identityVerifier g1Generator (Bytes.zero 64) (Bytes.zero 64))
        (identityVerifier g1Generator (Bytes.zero 64) flaggedIdentity) := by
  refine ⟨arkDecodeG1_identities, identityVerifier_new _ _ _, identityVerifier_new _ _ _, ?_⟩
  rintro ⟨-, heq⟩
  rw [prepareInputs_of_ok (preparedInputs_identity _ _ arkDecodeG1_zero),
    prepareInputs_of_ok (preparedInputs_identity _ _ arkDecodeG1_flaggedIdentity)] at heq
  simp only at heq
  exact challenge_flaggedIdentity ((nsmul_eq_iff g1Generator_ne_zero).mp (encodeG1_injective heq))

end Groth16Solana
