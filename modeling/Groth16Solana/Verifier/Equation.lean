import Mathlib.Algebra.BigOperators.Fin
import Groth16Solana.Verifier.Calls
import Groth16Solana.Verifier.Negation
import Groth16Solana.Verifier.Reference

/-! # Verification is the pairing equation

Over syscalls that compute in the groups, a run of the verifier decodes the bytes it uses, sums the
`vk_ic` points and accepts exactly when the equation of the proof system holds. -/

set_option autoImplicit false

namespace Groth16Solana
open Foundations

/-! ## Decoded keys -/

/-- A verifying key in the groups. -/
structure Key (G2 : Type) where
  alpha : G1
  beta : G2
  gamma : G2
  delta : G2
  ic : ℕ → G1

section
variable {rt : Runtime} {G2 GT : Type} [AddCommGroup G2] [CommGroup GT] (S : AltBn128 rt G2 GT)

/-- The first `count` entries of `vk_ic` decode to the points `ic`. -/
def DecodesIc (vkIc : List (Bytes 64)) (count : ℕ) (ic : ℕ → G1) : Prop :=
  ∀ j < count, ∃ bytes, vkIc[j]? = some bytes ∧ S.decodeG1 bytes = some (ic j)

structure DecodesKey (vk : Groth16Verifyingkey) (key : Key G2) : Prop where
  alpha : S.decodeG1 vk.vkAlphaG1 = some key.alpha
  beta : S.decodeG2 vk.vkBetaG2 = some key.beta
  gamma : S.decodeG2 vk.vkGammaG2 = some key.gamma
  delta : S.decodeG2 vk.vkDeltaG2 = some key.delta
  ic : DecodesIc S vk.vkIc vk.vkIc.length key.ic

/-! ## The sum of the public inputs -/

/-- `∑ x_j * ic j` over a list of scalars. -/
def weightedSum : List (Bytes 32) → (ℕ → G1) → G1
  | [], _ => 0
  | input :: inputs, ic => beNat input.toList • ic 0 + weightedSum inputs fun j => ic (j + 1)

theorem weightedSum_eq_sum (inputs : List (Bytes 32)) (ic : ℕ → G1) :
    weightedSum inputs ic = ∑ i : Fin inputs.length, beNat inputs[i].toList • ic i := by
  induction inputs generalizing ic with
  | nil => rfl
  | cons input inputs ih =>
    rw [weightedSum, ih]
    exact (Fin.sum_univ_succ (n := inputs.length)
      fun i => beNat (input :: inputs)[i].toList • ic i).symm

theorem weightedSum_toList {n : ℕ} (inputs : Vector (Bytes 32) n) (ic : ℕ → G1) :
    weightedSum inputs.toList ic = ∑ i : Fin n, beNat (inputs.get i).toList • ic i := by
  rw [weightedSum_eq_sum]
  refine Fintype.sum_equiv (finCongr inputs.length_toList) _ _ fun i => ?_
  simp [Vector.get_eq_getElem]

theorem accumulateInputs_decodes {check : Bool} {vkIc : List (Bytes 64)} (inputs : List (Bytes 32))
    {i : ℕ} {acc : Bytes 64} {L : G1} :
    (∃ out, accumulateInputs rt check vkIc i inputs acc = .ok out ∧ S.decodeG1 out = some L) ↔
      (check = true → ∀ input ∈ inputs, beNat input.toList < frModulus) ∧
        ∃ P ic, S.decodeG1 acc = some P ∧
          (∀ j < inputs.length, ∃ bytes, vkIc[i + 1 + j]? = some bytes ∧
            S.decodeG1 bytes = some (ic j)) ∧
          L = P + weightedSum inputs ic := by
  induction inputs generalizing i acc with
  | nil =>
    constructor
    · rintro ⟨out, hout, hL⟩
      rw [accumulateInputs, Except.ok.injEq] at hout
      subst hout
      exact ⟨by simp, L, fun _ => 0, hL, by simp, by simp [weightedSum]⟩
    · rintro ⟨-, P, ic, hP, -, rfl⟩
      exact ⟨acc, rfl, by simpa [weightedSum] using hP⟩
  | cons input inputs ih =>
    simp only [accumulateInputs_cons_eq_ok_iff, Accumulates, S.g1MulAdd_eq_ok_iff]
    constructor
    · rintro ⟨out, ⟨hin, acc', ⟨bytes, hbytes, Q, P, hQ, hP, rfl⟩, hrest⟩, hL⟩
      obtain ⟨hins, P', ic, hP', hic, rfl⟩ := ih.mp ⟨out, hrest, hL⟩
      rw [S.decodeG1_encodeG1, Option.some.injEq] at hP'
      refine ⟨fun hc => List.forall_mem_cons.mpr ⟨hin hc, hins hc⟩, P,
        fun j => Nat.casesOn j Q ic, hP, ?_, ?_⟩
      · intro j hj
        cases j with
        | zero => exact ⟨bytes, hbytes, hQ⟩
        | succ j =>
          have he : i + 1 + (j + 1) = i + 1 + 1 + j := by omega
          rw [he]
          exact hic j (Nat.lt_of_succ_lt_succ hj)
      · have hsum : weightedSum (input :: inputs) (fun j => Nat.casesOn j Q ic) =
            beNat input.toList • Q + weightedSum inputs ic := rfl
        rw [hsum, ← hP']
        abel
    · rintro ⟨hins, P, ic, hP, hic, rfl⟩
      obtain ⟨bytes, hbytes, hQ⟩ := hic 0 (by simp)
      have hrest : (check = true → ∀ input ∈ inputs, beNat input.toList < frModulus) ∧
          ∃ P' ic', S.decodeG1 (encodeG1 (beNat input.toList • ic 0 + P)) = some P' ∧
            (∀ j < inputs.length, ∃ bytes, vkIc[i + 1 + 1 + j]? = some bytes ∧
              S.decodeG1 bytes = some (ic' j)) ∧
            P + weightedSum (input :: inputs) ic = P' + weightedSum inputs ic' := by
        refine ⟨fun hc => (List.forall_mem_cons.mp (hins hc)).2, _, fun j => ic (j + 1),
          S.decodeG1_encodeG1 _, ?_, ?_⟩
        · intro j hj
          have he : i + 1 + 1 + j = i + 1 + (j + 1) := by omega
          rw [he]
          exact hic (j + 1) (Nat.succ_lt_succ hj)
        · rw [weightedSum]
          abel
      obtain ⟨out, hout, hL⟩ := ih.mpr hrest
      refine ⟨out, ⟨fun hc => (List.forall_mem_cons.mp (hins hc)).1, _,
        ⟨bytes, hbytes, ic 0, P, hQ, hP, rfl⟩, hout⟩, hL⟩

/-- `IC[0] + ∑ x_i * IC[i+1]`. -/
def publicSum {n : ℕ} (inputs : Vector (Bytes 32) n) (ic : ℕ → G1) : G1 :=
  ic 0 + ∑ i : Fin n, beNat (inputs.get i).toList • ic (i + 1)

theorem publicSum_update {n : ℕ} (inputs : Vector (Bytes 32) n) (ic : ℕ → G1) (Q : G1) :
    publicSum inputs (Function.update ic (n + 1) Q) = publicSum inputs ic := by
  have hne (j : ℕ) (hj : j < n + 1) : Function.update ic (n + 1) Q j = ic j :=
    Function.update_of_ne (by omega) _ _
  simp only [publicSum]
  rw [hne 0 (by omega)]
  congr 1
  refine Finset.sum_congr rfl fun i _ => ?_
  rw [hne (i + 1) (by omega)]

theorem accumulateAll_decodes {check : Bool} {vkIc : List (Bytes 64)} {n : ℕ}
    {inputs : Vector (Bytes 32) n} {L : G1} :
    (∃ first acc, vkIc.head? = some first ∧
        accumulateInputs rt check vkIc 0 inputs.toList first = .ok acc ∧
        S.decodeG1 acc = some L) ↔
      (check = true → ∀ i : Fin n, beNat (inputs.get i).toList < frModulus) ∧
        ∃ ic, DecodesIc S vkIc (n + 1) ic ∧ L = publicSum inputs ic := by
  rw [← forall_mem_toList (p := fun input : Bytes 32 => beNat input.toList < frModulus),
    List.head?_eq_getElem?]
  constructor
  · rintro ⟨first, acc, hfirst, hacc, hL⟩
    obtain ⟨hins, P, ic, hP, hic, rfl⟩ := (accumulateInputs_decodes S _).mp ⟨acc, hacc, hL⟩
    refine ⟨hins, fun j => Nat.casesOn j P ic, ?_, ?_⟩
    · intro j hj
      cases j with
      | zero => exact ⟨first, hfirst, hP⟩
      | succ j =>
        obtain ⟨bytes, hbytes, hQ⟩ := hic j (by simpa using hj)
        exact ⟨bytes, by rwa [Nat.add_comm j 1, ← Nat.zero_add 1], hQ⟩
    · rw [weightedSum_toList]
      rfl
  · rintro ⟨hins, ic, hic, rfl⟩
    obtain ⟨first, hfirst, hP⟩ := hic 0 (Nat.succ_pos n)
    have hrun : ∃ acc, accumulateInputs rt check vkIc 0 inputs.toList first = .ok acc ∧
        S.decodeG1 acc = some (publicSum inputs ic) := by
      refine (accumulateInputs_decodes S _).mpr
        ⟨hins, ic 0, fun j => ic (j + 1), hP, ?_, by rw [weightedSum_toList, publicSum]⟩
      intro j hj
      have he : 0 + 1 + j = j + 1 := by omega
      rw [he]
      exact hic (j + 1) (by simpa using hj)
    obtain ⟨acc, hacc, hL⟩ := hrun
    exact ⟨first, acc, hfirst, hacc, hL⟩

/-! ## Prepared inputs -/

theorem preparedInputs_plain_decodes {check : Bool} {n : ℕ} {self : Groth16Verifier n} {L : G1}
    (hkey : self.verifyingkey.vkCommitment = none) (hcommitment : self.proofCommitment = none) :
    (∃ out, preparedInputs rt check self = .ok out ∧ S.decodeG1 out = some L) ↔
      (check = true → ∀ i : Fin n, beNat (self.publicInputs.get i).toList < frModulus) ∧
        ∃ ic, DecodesIc S self.verifyingkey.vkIc (n + 1) ic ∧ L = publicSum self.publicInputs ic := by
  rw [← accumulateAll_decodes S]
  simp only [preparedInputs_eq_ok_iff, addCommitment_plain hkey hcommitment, ite_self,
    Except.ok.injEq]
  constructor
  · rintro ⟨out, ⟨first, acc, hfirst, hacc, rfl⟩, hL⟩
    exact ⟨first, acc, hfirst, hacc, hL⟩
  · rintro ⟨first, acc, hfirst, hacc, hL⟩
    exact ⟨acc, ⟨first, acc, hfirst, hacc, rfl⟩, hL⟩

def challenge (rt : Runtime) (commitment : Bytes 64) : ℕ :=
  beNat (hashToFieldBn254Fr rt commitment bsb22Dst admitted_commitment).toList

theorem addCommitment_eq_ok_iff {n : ℕ} {self : Groth16Verifier n} {acc commitment out : Bytes 64}
    {key : CommitmentVerifyingKey} (hkey : self.verifyingkey.vkCommitment = some key)
    (hcommitment : self.proofCommitment = some commitment) :
    addCommitment rt self acc = .ok out ↔
      ∃ P Q D, S.decodeG1 acc = some P ∧
        (∃ bytes, self.verifyingkey.vkIc[n + 1]? = some bytes ∧ S.decodeG1 bytes = some Q) ∧
        S.decodeG1 commitment = some D ∧ out = encodeG1 (P + challenge rt commitment • Q + D) := by
  rw [addCommitment_bsb22 hkey hcommitment]
  simp only [bind_eq_ok, okOr_eq_ok, mapErr_eq_ok, S.g1MulAdd_eq_ok_iff, S.g1Add_eq_ok_iff]
  constructor
  · rintro ⟨bytes, hbytes, res, ⟨Q, P, hQ, hP, rfl⟩, D, R, hD, hR, rfl⟩
    rw [S.decodeG1_encodeG1, Option.some.injEq] at hR
    refine ⟨P, Q, D, hP, ⟨bytes, hbytes, hQ⟩, hD, ?_⟩
    rw [← hR, add_comm D, add_comm P]
    rfl
  · rintro ⟨P, Q, D, hP, ⟨bytes, hbytes, hQ⟩, hD, rfl⟩
    refine ⟨bytes, hbytes, _, ⟨Q, P, hQ, hP, rfl⟩, D, _, hD, S.decodeG1_encodeG1 _, ?_⟩
    rw [add_comm D, add_comm P]
    rfl

/-- With a commitment the prepared bytes are canonical whatever `vk_ic` holds. -/
theorem preparedInputs_bsb22_eq_ok_iff (hbuild : rt.bsb22 = true) {check : Bool} {n : ℕ}
    {self : Groth16Verifier n} {commitment out : Bytes 64} {key : CommitmentVerifyingKey}
    (hkey : self.verifyingkey.vkCommitment = some key)
    (hcommitment : self.proofCommitment = some commitment) :
    preparedInputs rt check self = .ok out ↔
      (check = true → ∀ i : Fin n, beNat (self.publicInputs.get i).toList < frModulus) ∧
        ∃ ic D, DecodesIc S self.verifyingkey.vkIc (n + 2) ic ∧ S.decodeG1 commitment = some D ∧
          out = encodeG1
            (publicSum self.publicInputs ic + challenge rt commitment • ic (n + 1) + D) := by
  simp only [preparedInputs_eq_ok_iff, hbuild, if_true, addCommitment_eq_ok_iff S hkey hcommitment]
  constructor
  · rintro ⟨first, acc, hfirst, hacc, P, Q, D, hP, hQ, hD, rfl⟩
    obtain ⟨hins, ic, hic, rfl⟩ :=
      (accumulateAll_decodes S).mp ⟨first, acc, hfirst, hacc, hP⟩
    refine ⟨hins, Function.update ic (n + 1) Q, D, ?_, hD, ?_⟩
    · intro j hj
      by_cases he : j = n + 1
      · subst he
        simpa using hQ
      · rw [Function.update_of_ne he]
        exact hic j (by omega)
    · rw [publicSum_update, Function.update_self]
  · rintro ⟨hins, ic, D, hic, hD, rfl⟩
    obtain ⟨first, acc, hfirst, hacc, hP⟩ := (accumulateAll_decodes S).mpr
      ⟨hins, ic, fun j hj => hic j (by omega), rfl⟩
    exact ⟨first, acc, hfirst, hacc, _, ic (n + 1), D, hP, hic (n + 1) (by omega), hD, rfl⟩

/-! ## Pairing equations -/

theorem decodePairs_cons {a : Bytes 64} {b : Bytes 128} {pairs : List (Bytes 64 × Bytes 128)}
    {points : List (G1 × G2)} :
    decodePairs S.decodeG1 S.decodeG2 ((a, b) :: pairs) = some points ↔
      ∃ P Q rest, S.decodeG1 a = some P ∧ S.decodeG2 b = some Q ∧
        decodePairs S.decodeG1 S.decodeG2 pairs = some rest ∧ points = (P, Q) :: rest := by
  simp only [decodePairs, Option.bind_eq_bind, Option.bind_eq_some_iff, Option.pure_def,
    Option.some.injEq]
  constructor
  · rintro ⟨P, hP, Q, hQ, rest, hrest, rfl⟩
    exact ⟨P, Q, rest, hP, hQ, hrest, rfl⟩
  · rintro ⟨P, Q, rest, hP, hQ, hrest, rfl⟩
    exact ⟨P, hP, Q, hQ, rest, hrest, rfl⟩

/-- The four-pair check on a proof whose first point was negated. -/
theorem pairingCheck_iff {n : ℕ} {self : Groth16Verifier n} {A : G1}
    (hA : S.decodeG1 self.proofA = some (-A)) :
    checkPairing rt .proofVerificationFailed (pairingInput self).toList = .ok () ↔
      ∃ B L γ C δ α β, S.decodeG2 self.proofB = some B ∧
        S.decodeG1 self.preparedPublicInputs = some L ∧
        S.decodeG2 self.verifyingkey.vkGammaG2 = some γ ∧
        S.decodeG1 self.proofC = some C ∧ S.decodeG2 self.verifyingkey.vkDeltaG2 = some δ ∧
        S.decodeG1 self.verifyingkey.vkAlphaG1 = some α ∧
        S.decodeG2 self.verifyingkey.vkBetaG2 = some β ∧
        S.e.pair A B = S.e.pair α β * S.e.pair L γ * S.e.pair C δ := by
  rw [toList_pairingInput, S.checkPairing_eq_ok_iff]
  simp only [decodePairs_cons, hA, Option.some.injEq]
  constructor
  · rintro ⟨_, ⟨_, B, _, rfl, hB, ⟨L, γ, _, hL, hγ, ⟨C, δ, _, hC, hδ, ⟨α, β, _, hα, hβ, hnil, rfl⟩,
      rfl⟩, rfl⟩, rfl⟩, hone⟩
    rw [decodePairs, Option.some.injEq] at hnil
    subst hnil
    exact ⟨B, L, γ, C, δ, α, β, hB, hL, hγ, hC, hδ, hα, hβ,
      (S.e.product_neg_eq_one_iff A L C α B γ δ β).mp hone⟩
  · rintro ⟨B, L, γ, C, δ, α, β, hB, hL, hγ, hC, hδ, hα, hβ, heq⟩
    exact ⟨_, ⟨_, B, _, rfl, hB, ⟨L, γ, _, hL, hγ, ⟨C, δ, _, hC, hδ, ⟨α, β, _, hα, hβ, rfl, rfl⟩,
      rfl⟩, rfl⟩, rfl⟩, (S.e.product_neg_eq_one_iff A L C α B γ δ β).mpr heq⟩

theorem pokCheck_iff {commitment pok : Bytes 64} {key : CommitmentVerifyingKey} :
    checkPairing rt .commitmentPokVerificationFailed (pokInput commitment pok key).toList = .ok () ↔
      ∃ D σ P g, S.decodeG1 commitment = some D ∧ S.decodeG2 key.gSigmaNegG2 = some σ ∧
        S.decodeG1 pok = some P ∧ S.decodeG2 key.g2 = some g ∧
        S.e.pair D σ * S.e.pair P g = 1 := by
  rw [toList_pokInput, S.checkPairing_eq_ok_iff]
  simp only [decodePairs_cons]
  constructor
  · rintro ⟨_, ⟨D, σ, _, hD, hσ, ⟨P, g, _, hP, hg, hnil, rfl⟩, rfl⟩, hone⟩
    rw [decodePairs, Option.some.injEq] at hnil
    subst hnil
    exact ⟨D, σ, P, g, hD, hσ, hP, hg, by simpa [Pairing.product] using hone⟩
  · rintro ⟨D, σ, P, g, hD, hσ, hP, hg, hone⟩
    exact ⟨_, ⟨D, σ, _, hD, hσ, ⟨P, g, _, hP, hg, rfl, rfl⟩, rfl⟩,
      by simpa [Pairing.product] using hone⟩

theorem verifyPrepared_eq_ok_iff {n : ℕ} {self : Groth16Verifier n} :
    verifyPrepared rt self = .ok () ↔
      checkPairing rt .proofVerificationFailed (pairingInput self).toList = .ok () ∧
        (rt.bsb22 = true → verifyCommitmentPok rt self = .ok ()) := by
  rw [verifyPrepared, bind_eq_ok]
  constructor
  · rintro ⟨⟨⟩, hpairing, hpok⟩
    refine ⟨hpairing, fun hbuild => ?_⟩
    rwa [if_pos hbuild] at hpok
  · rintro ⟨hpairing, hpok⟩
    refine ⟨(), hpairing, ?_⟩
    by_cases hbuild : rt.bsb22 = true
    · rw [if_pos hbuild]
      exact hpok hbuild
    · rw [if_neg hbuild]
      rfl

theorem decodeG1_negate {g1 : Bytes 64} (h : CanonicalG1 g1) :
    ∃ P, S.decodeG1 g1 = some P ∧ S.decodeG1 (negateG1Be g1) = some (-P) := by
  obtain ⟨P, rfl⟩ := canonicalG1_iff.mp h
  exact ⟨P, S.decodeG1_encodeG1 P, by rw [negateG1Be_encodeG1, S.decodeG1_encodeG1]⟩

/-- Plain verification of a proof whose first point was negated. -/
theorem verify_iff_groth16 {n : ℕ} {vk : Groth16Verifyingkey} (hkey : vk.vkCommitment = none)
    (hlen : vk.vkIc.length = n + 1) {proofA : Bytes 64} (hA : CanonicalG1 proofA)
    (proofB : Bytes 128) (proofC : Bytes 64) (publicInputs : Vector (Bytes 32) n) :
    ∃ self, Groth16Verifier.new (negateG1Be proofA) proofB proofC publicInputs vk = .ok self ∧
      ((verify rt self).1 = .ok () ↔
        (∀ i : Fin n, beNat (publicInputs.get i).toList < frModulus) ∧
          ∃ A B C key, S.decodeG1 proofA = some A ∧ S.decodeG2 proofB = some B ∧
            S.decodeG1 proofC = some C ∧ DecodesKey S vk key ∧
            S.e.pair A B = S.e.pair key.alpha key.beta *
              S.e.pair (key.ic 0 + ∑ i : Fin n, beNat (publicInputs.get i).toList • key.ic (i + 1))
                key.gamma *
              S.e.pair C key.delta) := by
  refine ⟨_, new_eq_ok_iff.mpr ⟨hkey, hlen, rfl⟩, ?_⟩
  obtain ⟨A, hdecA, hnegA⟩ := decodeG1_negate S hA
  rw [verify, verifyCommon_eq_ok_iff]
  constructor
  · rintro ⟨out, hout, hverify⟩
    obtain ⟨B, L, γ, C, δ, α, β, hB, hL, hγ, hC, hδ, hα, hβ, heq⟩ :=
      (pairingCheck_iff S hnegA).mp (verifyPrepared_eq_ok_iff.mp hverify).1
    obtain ⟨hins, ic, hic, rfl⟩ := (preparedInputs_plain_decodes S hkey rfl).mp ⟨out, hout, hL⟩
    exact ⟨hins rfl, A, B, C, ⟨α, β, γ, δ, ic⟩, hdecA, hB, hC,
      ⟨hα, hβ, hγ, hδ, by rwa [hlen]⟩, heq⟩
  · rintro ⟨hins, A', B, C, key, hdecA', hB, hC, hdec, heq⟩
    obtain rfl := Option.some_injective _ (hdecA.symm.trans hdecA')
    have hic := hdec.ic
    rw [hlen] at hic
    have hrun : ∃ out, preparedInputs rt true ⟨negateG1Be proofA, proofB, proofC, publicInputs,
        Bytes.zero 64, vk, none, none⟩ = .ok out ∧
        S.decodeG1 out = some (publicSum publicInputs key.ic) :=
      (preparedInputs_plain_decodes S hkey rfl).mpr ⟨fun _ => hins, key.ic, hic, rfl⟩
    obtain ⟨out, hout, hL⟩ := hrun
    refine ⟨out, hout, verifyPrepared_eq_ok_iff.mpr ⟨?_, fun _ => by simp [verifyCommitmentPok, hkey]⟩⟩
    exact (pairingCheck_iff S hnegA).mpr ⟨B, _, key.gamma, C, key.delta, key.alpha, key.beta, hB, hL,
      hdec.gamma, hC, hdec.delta, hdec.alpha, hdec.beta, heq⟩

theorem decodesKey_smallVk (alpha : G1) (points : List G1)
    (vkCommitment : Option CommitmentVerifyingKey) :
    DecodesKey referenceSyscalls (smallVk alpha points vkCommitment)
      ⟨alpha, 1, 1, 1, fun j => points.getD j 0⟩ where
  alpha := referenceSyscalls.decodeG1_encodeG1 alpha
  beta := decodeG2_generator
  gamma := decodeG2_generator
  delta := decodeG2_generator
  ic := by
    intro j hj
    have hj' : j < points.length := by simpa [smallVk] using hj
    refine ⟨encodeG1 points[j], by simp [smallVk, hj'], ?_⟩
    rw [referenceSyscalls.decodeG1_encodeG1]
    simp [List.getD_eq_getElem?_getD, hj']

/-- A proof that the reference runtime accepts. -/
theorem verify_iff_groth16_accepts :
    ∃ self, Groth16Verifier.new (negateG1Be (encodeG1 g1Generator)) g2GeneratorBytes
        (encodeG1 (-g1Generator)) #v[beBytes 32 1] (smallVk g1Generator [0, g1Generator] none) =
          .ok self ∧
      (verify referenceRuntime self).1 = .ok () := by
  have hkey : (smallVk g1Generator [0, g1Generator] none).vkCommitment = none := rfl
  obtain ⟨self, hnew, hiff⟩ := verify_iff_groth16 referenceSyscalls (n := 1) hkey rfl
    (canonicalG1_iff.mpr ⟨g1Generator, rfl⟩) g2GeneratorBytes (encodeG1 (-g1Generator))
    #v[beBytes 32 1]
  have hone : beNat (beBytes 32 1).toList = 1 := by decide +kernel
  refine ⟨self, hnew, hiff.mpr ⟨?_, g1Generator, 1, -g1Generator, _,
    referenceSyscalls.decodeG1_encodeG1 _, decodeG2_generator,
    referenceSyscalls.decodeG1_encodeG1 _, decodesKey_smallVk _ _ _, ?_⟩⟩
  · decide +kernel
  · have hinput : beNat (Vector.toList (#v[beBytes 32 1].get 0)) = 1 := hone
    simp only [referenceSyscalls_e, scalarPairing_one, Fin.sum_univ_one, hinput, one_nsmul]
    change Multiplicative.ofAdd g1Generator =
      Multiplicative.ofAdd (g1Generator + (0 + g1Generator) + -g1Generator)
    rw [zero_add, add_neg_cancel_right]

theorem verify_iff_bsb22 (hbuild : rt.bsb22 = true) {n : ℕ} {vk : Groth16Verifyingkey}
    {commitmentKey : CommitmentVerifyingKey} (hkey : vk.vkCommitment = some commitmentKey)
    (hlen : vk.vkIc.length = n + 2) {proofA : Bytes 64} (hA : CanonicalG1 proofA)
    (proofB : Bytes 128) (proofC commitment pok : Bytes 64) (publicInputs : Vector (Bytes 32) n) :
    ∃ self, Groth16Verifier.newWithCommitment (negateG1Be proofA) proofB proofC commitment pok
        publicInputs vk = .ok self ∧
      ((verify rt self).1 = .ok () ↔
        (∀ i : Fin n, beNat (publicInputs.get i).toList < frModulus) ∧
          ∃ A B C D P g gSigmaNeg key, S.decodeG1 proofA = some A ∧ S.decodeG2 proofB = some B ∧
            S.decodeG1 proofC = some C ∧ S.decodeG1 commitment = some D ∧
            S.decodeG1 pok = some P ∧ S.decodeG2 commitmentKey.g2 = some g ∧
            S.decodeG2 commitmentKey.gSigmaNegG2 = some gSigmaNeg ∧ DecodesKey S vk key ∧
            S.e.pair A B = S.e.pair key.alpha key.beta *
              S.e.pair (key.ic 0 + ∑ i : Fin n, beNat (publicInputs.get i).toList • key.ic (i + 1) +
                challenge rt commitment • key.ic (n + 1) + D) key.gamma *
              S.e.pair C key.delta ∧
            S.e.pair D gSigmaNeg * S.e.pair P g = 1) := by
  refine ⟨_, newWithCommitment_eq_ok_iff.mpr ⟨by rw [hkey]; rfl, hlen, rfl⟩, ?_⟩
  obtain ⟨A, hdecA, hnegA⟩ := decodeG1_negate S hA
  rw [verify, verifyCommon_eq_ok_iff]
  constructor
  · rintro ⟨out, hout, hverify⟩
    obtain ⟨hpairing, hpok⟩ := verifyPrepared_eq_ok_iff.mp hverify
    obtain ⟨B, L, γ, C, δ, α, β, hB, hL, hγ, hC, hδ, hα, hβ, heq⟩ :=
      (pairingCheck_iff S hnegA).mp hpairing
    obtain ⟨hins, ic, D, hic, hD, rfl⟩ := (preparedInputs_bsb22_eq_ok_iff S hbuild hkey rfl).mp hout
    rw [S.decodeG1_encodeG1, Option.some.injEq] at hL
    subst hL
    have hpok' := hpok hbuild
    simp only [verifyCommitmentPok, hkey] at hpok'
    obtain ⟨D', σ, P, g, hD', hσ, hP, hg, hone⟩ := (pokCheck_iff S).mp hpok'
    obtain rfl := Option.some_injective _ (hD.symm.trans hD')
    exact ⟨hins rfl, A, B, C, D, P, g, σ, ⟨α, β, γ, δ, ic⟩, hdecA, hB, hC, hD, hP, hg, hσ,
      ⟨hα, hβ, hγ, hδ, by rwa [hlen]⟩, heq, hone⟩
  · rintro ⟨hins, A', B, C, D, P, g, σ, key, hdecA', hB, hC, hD, hP, hg, hσ, hdec, heq, hone⟩
    obtain rfl := Option.some_injective _ (hdecA.symm.trans hdecA')
    have hic := hdec.ic
    rw [hlen] at hic
    refine ⟨_, (preparedInputs_bsb22_eq_ok_iff S hbuild hkey rfl).mpr
      ⟨fun _ => hins, key.ic, D, hic, hD, rfl⟩, verifyPrepared_eq_ok_iff.mpr ⟨?_, fun _ => ?_⟩⟩
    · exact (pairingCheck_iff S hnegA).mpr ⟨B, _, key.gamma, C, key.delta, key.alpha, key.beta, hB,
        S.decodeG1_encodeG1 _, hdec.gamma, hC, hdec.delta, hdec.alpha, hdec.beta, heq⟩
    · simp only [verifyCommitmentPok, hkey]
      exact (pokCheck_iff S).mpr ⟨D, σ, P, g, hD, hσ, hP, hg, hone⟩

/-- A proof for one input and a commitment to the generator, which the reference runtime accepts. The
hash wire is the generator too. -/
theorem verify_iff_bsb22_accepts :
    ∃ self, Groth16Verifier.newWithCommitment (negateG1Be (encodeG1 g1Generator)) g2GeneratorBytes
        (encodeG1 (-(g1Generator + challenge referenceRuntime (encodeG1 g1Generator) • g1Generator +
          g1Generator))) (encodeG1 g1Generator) (encodeG1 (-g1Generator)) #v[beBytes 32 1]
        (smallVk g1Generator [0, g1Generator, g1Generator] (some ⟨g2GeneratorBytes, g2GeneratorBytes⟩)) =
          .ok self ∧
      (verify referenceRuntime self).1 = .ok () := by
  have hkey : (smallVk g1Generator [0, g1Generator, g1Generator]
    (some ⟨g2GeneratorBytes, g2GeneratorBytes⟩)).vkCommitment = some _ := rfl
  generalize hL : g1Generator + challenge referenceRuntime (encodeG1 g1Generator) • g1Generator +
    g1Generator = L
  obtain ⟨self, hnew, hiff⟩ := verify_iff_bsb22 referenceSyscalls rfl (n := 1) hkey rfl
    (canonicalG1_iff.mpr ⟨g1Generator, rfl⟩) g2GeneratorBytes (encodeG1 (-L))
    (encodeG1 g1Generator) (encodeG1 (-g1Generator)) #v[beBytes 32 1]
  refine ⟨self, hnew, hiff.mpr ⟨by decide +kernel, g1Generator, 1, -L, g1Generator,
    -g1Generator, 1, 1, _, referenceSyscalls.decodeG1_encodeG1 _, decodeG2_generator,
    referenceSyscalls.decodeG1_encodeG1 _, referenceSyscalls.decodeG1_encodeG1 _,
    referenceSyscalls.decodeG1_encodeG1 _, decodeG2_generator, decodeG2_generator,
    decodesKey_smallVk _ _ _, ?_, ?_⟩⟩
  · have hinput : beNat (Vector.toList (#v[beBytes 32 1].get 0)) = 1 := by decide +kernel
    simp only [referenceSyscalls_e, scalarPairing_one, Fin.sum_univ_one, hinput, one_nsmul]
    generalize challenge referenceRuntime (encodeG1 g1Generator) = h at hL ⊢
    change Multiplicative.ofAdd g1Generator = Multiplicative.ofAdd
      (g1Generator + (0 + g1Generator + h • g1Generator + g1Generator) + -L)
    rw [zero_add, hL, add_neg_cancel_right]
  · simp only [referenceSyscalls_e, scalarPairing_one]
    rw [← ofAdd_add, add_neg_cancel, ofAdd_zero]

end

end Groth16Solana
