import Groth16Solana.Verifier.Checked
import Groth16Solana.Verifier.Equation

/-! # What a call answers

A key whose points decode leaves four reasons to refuse a proof, tried in this order: an input out
of range, a commitment that is no point, the pairing equation and the knowledge proof. The answer of
a call is that of the first one that applies. -/

set_option autoImplicit false

namespace Groth16Solana
open Foundations

section
variable {rt : Runtime} {G2 GT : Type} [AddCommGroup G2] [CommGroup GT] (S : AltBn128 rt G2 GT)
variable {n : ℕ} {self : Groth16Verifier n} {key : Key G2} {check : Bool}

/-! ## What is checked -/

/-- The equation of the proof system with `L` for the public inputs; the proof carries `-A`. -/
def ProofHolds (key : Key G2) (proofA : Bytes 64) (proofB : Bytes 128) (proofC : Bytes 64)
    (L : G1) : Prop :=
  ∃ A B C, S.decodeG1 proofA = some (-A) ∧ S.decodeG2 proofB = some B ∧
    S.decodeG1 proofC = some C ∧
    S.e.pair A B = S.e.pair key.alpha key.beta * S.e.pair L key.gamma * S.e.pair C key.delta

/-- The knowledge proof of a commitment. -/
def PokHolds (commitmentKey : CommitmentVerifyingKey) (commitment pok : Bytes 64) : Prop :=
  ∃ D σ P g, S.decodeG1 commitment = some D ∧ S.decodeG2 commitmentKey.gSigmaNegG2 = some σ ∧
    S.decodeG1 pok = some P ∧ S.decodeG2 commitmentKey.g2 = some g ∧
    S.e.pair D σ * S.e.pair P g = 1

/-- The point that stands for the public inputs beside a commitment `D`. -/
def committedSum (rt : Runtime) (inputs : Vector (Bytes 32) n) (ic : ℕ → G1) (commitment : Bytes 64)
    (D : G1) : G1 :=
  publicSum inputs ic + challenge rt commitment • ic (n + 1) + D

/-- No input that the call checks is out of range. -/
def InRange (check : Bool) (inputs : Vector (Bytes 32) n) : Prop :=
  check = true → ∀ i : Fin n, beNat (inputs.get i).toList < frModulus

/-! ## The pairing checks -/

theorem checkPairing_of_not_ok {err : Groth16Error} {input : List UInt8}
    (h : checkPairing rt err input ≠ .ok ()) : checkPairing rt err input = .error err := by
  cases hcheck : checkPairing rt err input with
  | ok res => exact absurd hcheck h
  | error err' => rw [checkPairing_error hcheck]

/-- An accepted first point is a point, and every point is the negation of one. -/
theorem exists_proofA
    (h : checkPairing rt .proofVerificationFailed (pairingInput self).toList = .ok ()) :
    ∃ A, S.decodeG1 self.proofA = some (-A) := by
  rw [toList_pairingInput, S.checkPairing_eq_ok_iff] at h
  obtain ⟨points, hpoints, -⟩ := h
  obtain ⟨P, -, -, hP, -, -, -⟩ := (decodePairs_cons S).mp hpoints
  exact ⟨-P, by rw [hP, neg_neg]⟩

/-- The four-pair check without a condition on the bytes of the proof. -/
theorem pairingInput_ok_iff (self : Groth16Verifier n) (hdec : DecodesKey S self.verifyingkey key)
    {L : G1}
    (hL : S.decodeG1 self.preparedPublicInputs = some L) :
    checkPairing rt .proofVerificationFailed (pairingInput self).toList = .ok () ↔
      ProofHolds S key self.proofA self.proofB self.proofC L := by
  constructor
  · intro h
    obtain ⟨A, hA⟩ := exists_proofA S h
    obtain ⟨B, L', γ, C, δ, α, β, hB, hL', hγ, hC, hδ, hα, hβ, heq⟩ := (pairingCheck_iff S hA).mp h
    obtain rfl := Option.some_injective _ (hL'.symm.trans hL)
    obtain rfl := Option.some_injective _ (hγ.symm.trans hdec.gamma)
    obtain rfl := Option.some_injective _ (hδ.symm.trans hdec.delta)
    obtain rfl := Option.some_injective _ (hα.symm.trans hdec.alpha)
    obtain rfl := Option.some_injective _ (hβ.symm.trans hdec.beta)
    exact ⟨A, B, C, hA, hB, hC, heq⟩
  · intro h
    obtain ⟨A, B, C, hA, hB, hC, heq⟩ := h
    exact (pairingCheck_iff S hA).mpr ⟨B, L, key.gamma, C, key.delta, key.alpha, key.beta, hB, hL,
      hdec.gamma, hC, hdec.delta, hdec.alpha, hdec.beta, heq⟩

/-! ## The loop over the inputs -/

theorem accumulateInputs_decoded {vkIc : List (Bytes 64)} (ic : ℕ → G1) (inputs : List (Bytes 32))
    {i : ℕ} {acc : Bytes 64} {P : G1} (hacc : S.decodeG1 acc = some P)
    (hic : ∀ j < inputs.length, ∃ bytes, vkIc[i + 1 + j]? = some bytes ∧
      S.decodeG1 bytes = some (ic j))
    (hout : check = true ∧ ∃ input ∈ inputs, frModulus ≤ beNat input.toList) :
    accumulateInputs rt check vkIc i inputs acc = .error .publicInputGreaterThanFieldSize := by
  induction inputs generalizing i acc P ic with
  | nil =>
    obtain ⟨-, input, hmem, -⟩ := hout
    exact absurd hmem List.not_mem_nil
  | cons input inputs ih =>
    rw [accumulateInputs_cons]
    by_cases hbig : check = true ∧ frModulus ≤ beNat input.toList
    · rw [if_pos hbig]
    · -- the input is in range, its step succeeds and a later input is out of range
      obtain ⟨bytes, hbytes, hQ⟩ := hic 0 (Nat.succ_pos _)
      have hstep : g1MulAdd rt bytes input acc =
          .ok (encodeG1 (beNat input.toList • ic 0 + P)) :=
        S.g1MulAdd_eq_ok_iff.mpr ⟨ic 0, P, hQ, hacc, rfl⟩
      have hbytes' : vkIc[i + 1]? = some bytes := hbytes
      rw [if_neg hbig, hbytes', okOr_some, ok_bind, hstep, ok_bind]
      refine ih (fun j => ic (j + 1)) (S.decodeG1_encodeG1 _) ?_ ?_
      · intro j hj
        have he : i + 1 + 1 + j = i + 1 + (j + 1) := by omega
        rw [he]
        exact hic (j + 1) (Nat.succ_lt_succ hj)
      · obtain ⟨hcheck, later, hmem, hlater⟩ := hout
        refine ⟨hcheck, later, ?_, hlater⟩
        rcases List.mem_cons.mp hmem with rfl | hmem
        · exact absurd ⟨hcheck, hlater⟩ hbig
        · exact hmem

theorem not_inRange_iff {inputs : Vector (Bytes 32) n} :
    ¬ InRange check inputs ↔
      check = true ∧ ∃ input ∈ inputs.toList, frModulus ≤ beNat input.toList := by
  rw [InRange, ← forall_mem_toList (p := fun input : Bytes 32 => beNat input.toList < frModulus)]
  push Not
  rfl

theorem DecodesKey.first (hdec : DecodesKey S self.verifyingkey key) (hself : Consistent self) :
    ∃ first, self.verifyingkey.vkIc.head? = some first ∧ S.decodeG1 first = some (key.ic 0) := by
  have hlen := hself.length_pos
  obtain ⟨first, hfirst, hdecode⟩ := hdec.ic 0 (by omega)
  exact ⟨first, by rw [List.head?_eq_getElem?, hfirst], hdecode⟩

theorem preparedInputs_out_of_range (hdec : DecodesKey S self.verifyingkey key)
    (hself : Consistent self) (hout : ¬ InRange check self.publicInputs) :
    preparedInputs rt check self = .error .publicInputGreaterThanFieldSize := by
  have hlen := hself.length_pos
  obtain ⟨first, hfirst, hdecode⟩ := hdec.first S hself
  rw [preparedInputs, hfirst, okOr_some, ok_bind,
    accumulateInputs_decoded S (fun j => key.ic (j + 1)) _ hdecode ?_ (not_inRange_iff.mp hout)]
  · rfl
  · intro j hj
    have he : 0 + 1 + j = j + 1 := by omega
    rw [he]
    exact hdec.ic (j + 1) (by simp at hj; omega)

theorem verifyCommon_out_of_range (hdec : DecodesKey S self.verifyingkey key)
    (hself : Consistent self) (hout : ¬ InRange check self.publicInputs) :
    (verifyCommon rt check self).1 = .error .publicInputGreaterThanFieldSize := by
  rw [verifyCommon_of_error (preparedInputs_out_of_range S hdec hself hout)]

/-! ## Plain verifiers -/

open Classical in
/-- A plain verifier answers by the range of the inputs and then by the equation. -/
theorem verifyCommon_plain_outcome (hself : Constructed rt self)
    (hkey : self.verifyingkey.vkCommitment = none) (hdec : DecodesKey S self.verifyingkey key) :
    (verifyCommon rt check self).1 =
      if ¬ InRange check self.publicInputs then .error .publicInputGreaterThanFieldSize
      else if ¬ ProofHolds S key self.proofA self.proofB self.proofC
          (publicSum self.publicInputs key.ic) then .error .proofVerificationFailed
      else .ok () := by
  have hcons := hself.consistent
  cases hcons with
  | bsb22 commitment pok commitmentKey hcommitment hpok hkey' hlen =>
    rw [hkey] at hkey'
    cases hkey'
  | plain hcommitment hpok hkey' hlen =>
    by_cases hin : InRange check self.publicInputs
    · rw [if_neg (not_not.mpr hin)]
      have hic := hdec.ic
      rw [hlen] at hic
      obtain ⟨out, hout, hL⟩ := (preparedInputs_plain_decodes S hkey hcommitment).mpr
        ⟨hin, key.ic, hic, rfl⟩
      rw [verifyCommon_of_ok hout]
      have hpairing := pairingInput_ok_iff S { self with preparedPublicInputs := out } hdec hL
      have hpok' : verifyCommitmentPok rt { self with preparedPublicInputs := out } = .ok () := by
        simp only [verifyCommitmentPok, hcommitment, hpok, hkey]
      by_cases hholds : ProofHolds S key self.proofA self.proofB self.proofC
          (publicSum self.publicInputs key.ic)
      · rw [if_neg (not_not.mpr hholds)]
        exact verifyPrepared_eq_ok_iff.mpr ⟨hpairing.mpr hholds, fun _ => hpok'⟩
      · rw [if_pos hholds, verifyPrepared,
          checkPairing_of_not_ok fun h => hholds (hpairing.mp h)]
        rfl
    · rw [if_pos hin, verifyCommon_out_of_range S hdec (.plain hcommitment hpok hkey' hlen) hin]

/-- An accepted proof shows that the key decodes. -/
theorem decodesKey_of_plain_ok (hkey : self.verifyingkey.vkCommitment = none)
    (hcommitment : self.proofCommitment = none) (hlen : self.verifyingkey.vkIc.length = n + 1)
    (h : (verifyCommon rt check self).1 = .ok ()) : ∃ key, DecodesKey S self.verifyingkey key := by
  obtain ⟨out, hout, hverify⟩ := verifyCommon_eq_ok_iff.mp h
  have hpairing := (verifyPrepared_eq_ok_iff.mp hverify).1
  obtain ⟨A, hA⟩ := exists_proofA S hpairing
  obtain ⟨B, L, γ, C, δ, α, β, -, hL, hγ, -, hδ, hα, hβ, -⟩ := (pairingCheck_iff S hA).mp hpairing
  obtain ⟨-, ic, hic, -⟩ := (preparedInputs_plain_decodes S hkey hcommitment).mp ⟨out, hout, hL⟩
  exact ⟨⟨α, β, γ, δ, ic⟩, hα, hβ, hγ, hδ, by rwa [hlen]⟩

theorem holds_of_plain_ok (hself : Constructed rt self) (hkey : self.verifyingkey.vkCommitment = none)
    (hdec : DecodesKey S self.verifyingkey key) (h : (verifyCommon rt check self).1 = .ok ()) :
    InRange check self.publicInputs ∧
      ProofHolds S key self.proofA self.proofB self.proofC (publicSum self.publicInputs key.ic) := by
  classical
  rw [verifyCommon_plain_outcome S hself hkey hdec] at h
  by_cases hin : InRange check self.publicInputs
  · rw [if_neg (not_not.mpr hin)] at h
    by_cases hholds : ProofHolds S key self.proofA self.proofB self.proofC
        (publicSum self.publicInputs key.ic)
    · exact ⟨hin, hholds⟩
    · rw [if_pos hholds] at h
      cases h
  · rw [if_pos hin] at h
    cases h

theorem verifyCommon_plain_ok_iff (hself : Constructed rt self)
    (hkey : self.verifyingkey.vkCommitment = none) :
    (verifyCommon rt check self).1 = .ok () ↔
      InRange check self.publicInputs ∧ ∃ key, DecodesKey S self.verifyingkey key ∧
        ProofHolds S key self.proofA self.proofB self.proofC (publicSum self.publicInputs key.ic) := by
  classical
  constructor
  · intro h
    obtain ⟨key, hdec⟩ : ∃ key, DecodesKey S self.verifyingkey key := by
      cases hself.consistent with
      | plain hcommitment hpok hkey' hlen => exact decodesKey_of_plain_ok S hkey hcommitment hlen h
      | bsb22 commitment pok commitmentKey hcommitment hpok hkey' hlen =>
        rw [hkey] at hkey'
        cases hkey'
    obtain ⟨hin, hholds⟩ := holds_of_plain_ok S hself hkey hdec h
    exact ⟨hin, key, hdec, hholds⟩
  · intro h
    obtain ⟨hin, key, hdec, hholds⟩ := h
    rw [verifyCommon_plain_outcome S hself hkey hdec, if_neg (not_not.mpr hin),
      if_neg (not_not.mpr hholds)]

/-! ## Verifiers with a commitment -/

/-- Only the constructor of a build with the feature stores a commitment. -/
theorem Constructed.bsb22_of_commitment (hself : Constructed rt self) {commitment : Bytes 64}
    (hcommitment : self.proofCommitment = some commitment) :
    rt.bsb22 = true ∧ self.verifyingkey.vkIc.length = n + 2 := by
  cases hself with
  | new h =>
    obtain ⟨-, -, rfl⟩ := new_eq_ok_iff.mp h
    cases hcommitment
  | newWithCommitment hbuild h =>
    obtain ⟨-, hlen, rfl⟩ := newWithCommitment_eq_ok_iff.mp h
    exact ⟨hbuild, hlen⟩

theorem addCommitment_of_not_point {acc commitment : Bytes 64} {P Q : G1}
    {commitmentKey : CommitmentVerifyingKey}
    (hkey : self.verifyingkey.vkCommitment = some commitmentKey)
    (hcommitment : self.proofCommitment = some commitment) (hacc : S.decodeG1 acc = some P)
    (hic : ∃ bytes, self.verifyingkey.vkIc[n + 1]? = some bytes ∧ S.decodeG1 bytes = some Q)
    (hD : S.decodeG1 commitment = none) :
    addCommitment rt self acc = .error .bsb22InvalidCommitmentPoint := by
  obtain ⟨bytes, hbytes, hQ⟩ := hic
  have hstep : g1MulAdd rt bytes (commitmentHash rt commitment) acc =
      .ok (encodeG1 (beNat (commitmentHash rt commitment).toList • Q + P)) :=
    S.g1MulAdd_eq_ok_iff.mpr ⟨Q, P, hQ, hacc, rfl⟩
  rw [addCommitment_bsb22 hkey hcommitment, hbytes, okOr_some, ok_bind, hstep, ok_bind, S.g1Add_eq,
    hD]
  rfl

theorem preparedInputs_of_not_point (hbuild : rt.bsb22 = true) {commitment : Bytes 64}
    {commitmentKey : CommitmentVerifyingKey}
    (hkey : self.verifyingkey.vkCommitment = some commitmentKey)
    (hcommitment : self.proofCommitment = some commitment)
    (hlen : self.verifyingkey.vkIc.length = n + 2) (hdec : DecodesKey S self.verifyingkey key)
    (hin : InRange check self.publicInputs) (hD : S.decodeG1 commitment = none) :
    preparedInputs rt check self = .error .bsb22InvalidCommitmentPoint := by
  have hic := hdec.ic
  rw [hlen] at hic
  obtain ⟨first, acc, hfirst, hacc, hP⟩ : ∃ first acc, self.verifyingkey.vkIc.head? = some first ∧
      accumulateInputs rt check self.verifyingkey.vkIc 0 self.publicInputs.toList first = .ok acc ∧
      S.decodeG1 acc = some (publicSum self.publicInputs key.ic) :=
    (accumulateAll_decodes S).mpr ⟨hin, key.ic, fun j hj => hic j (by omega), rfl⟩
  rw [preparedInputs, hfirst, okOr_some, ok_bind, hacc, ok_bind, if_pos hbuild]
  exact addCommitment_of_not_point S hkey hcommitment hP (hic (n + 1) (by omega)) hD

open Classical in
/-- The two pairing checks of a verifier whose commitment is a point. -/
theorem verifyPrepared_bsb22 (self : Groth16Verifier n) (hbuild : rt.bsb22 = true) {commitment pok : Bytes 64}
    {commitmentKey : CommitmentVerifyingKey}
    (hkey : self.verifyingkey.vkCommitment = some commitmentKey)
    (hcommitment : self.proofCommitment = some commitment)
    (hpok : self.proofCommitmentPok = some pok) (hdec : DecodesKey S self.verifyingkey key) {L : G1}
    (hL : S.decodeG1 self.preparedPublicInputs = some L) :
    verifyPrepared rt self =
      if ¬ ProofHolds S key self.proofA self.proofB self.proofC L then
        .error .proofVerificationFailed
      else if ¬ PokHolds S commitmentKey commitment pok then
        .error .commitmentPokVerificationFailed
      else .ok () := by
  have hpairing := pairingInput_ok_iff S self hdec hL
  have hrun : verifyCommitmentPok rt self = checkPairing rt .commitmentPokVerificationFailed
      (pokInput commitment pok commitmentKey).toList := by
    simp only [verifyCommitmentPok, hcommitment, hpok, hkey]
  by_cases hholds : ProofHolds S key self.proofA self.proofB self.proofC L
  · rw [if_neg (not_not.mpr hholds), verifyPrepared, hpairing.mpr hholds, ok_bind, if_pos hbuild,
      hrun]
    by_cases hknown : PokHolds S commitmentKey commitment pok
    · rw [if_neg (not_not.mpr hknown)]
      exact (pokCheck_iff S).mpr hknown
    · rw [if_pos hknown]
      exact checkPairing_of_not_ok fun h => hknown ((pokCheck_iff S).mp h)
  · rw [if_pos hholds, verifyPrepared, checkPairing_of_not_ok fun h => hholds (hpairing.mp h)]
    rfl

open Classical in
/-- A verifier with a commitment answers by the range of the inputs, the commitment's bytes, the
equation and the knowledge proof, in this order. -/
theorem verifyCommon_bsb22_outcome (hself : Constructed rt self) {commitment pok : Bytes 64}
    {commitmentKey : CommitmentVerifyingKey}
    (hkey : self.verifyingkey.vkCommitment = some commitmentKey)
    (hcommitment : self.proofCommitment = some commitment)
    (hpok : self.proofCommitmentPok = some pok) (hdec : DecodesKey S self.verifyingkey key) :
    (verifyCommon rt check self).1 =
      if ¬ InRange check self.publicInputs then .error .publicInputGreaterThanFieldSize
      else match S.decodeG1 commitment with
        | none => .error .bsb22InvalidCommitmentPoint
        | some D =>
          if ¬ ProofHolds S key self.proofA self.proofB self.proofC
              (committedSum rt self.publicInputs key.ic commitment D) then
            .error .proofVerificationFailed
          else if ¬ PokHolds S commitmentKey commitment pok then
            .error .commitmentPokVerificationFailed
          else .ok () := by
  obtain ⟨hbuild, hlen⟩ := hself.bsb22_of_commitment hcommitment
  by_cases hin : InRange check self.publicInputs
  · rw [if_neg (not_not.mpr hin)]
    cases hD : S.decodeG1 commitment with
    | none =>
      rw [verifyCommon_of_error
        (preparedInputs_of_not_point S hbuild hkey hcommitment hlen hdec hin hD)]
    | some D =>
      have hic := hdec.ic
      rw [hlen] at hic
      obtain ⟨out, hout, hL⟩ : ∃ out, preparedInputs rt check self = .ok out ∧
          S.decodeG1 out = some (committedSum rt self.publicInputs key.ic commitment D) :=
        ⟨_, (preparedInputs_bsb22_eq_ok_iff S hbuild hkey hcommitment).mpr
          ⟨hin, key.ic, D, hic, hD, rfl⟩, S.decodeG1_encodeG1 _⟩
      rw [verifyCommon_of_ok hout]
      exact verifyPrepared_bsb22 S { self with preparedPublicInputs := out } hbuild hkey hcommitment
        hpok hdec hL
  · rw [if_pos hin, verifyCommon_out_of_range S hdec hself.consistent hin]

theorem decodesKey_of_bsb22_ok (hbuild : rt.bsb22 = true) {commitment : Bytes 64}
    {commitmentKey : CommitmentVerifyingKey}
    (hkey : self.verifyingkey.vkCommitment = some commitmentKey)
    (hcommitment : self.proofCommitment = some commitment)
    (hlen : self.verifyingkey.vkIc.length = n + 2) (h : (verifyCommon rt check self).1 = .ok ()) :
    (∃ key, DecodesKey S self.verifyingkey key) ∧ ∃ D, S.decodeG1 commitment = some D := by
  obtain ⟨out, hout, hverify⟩ := verifyCommon_eq_ok_iff.mp h
  have hpairing := (verifyPrepared_eq_ok_iff.mp hverify).1
  obtain ⟨A, hA⟩ := exists_proofA S hpairing
  obtain ⟨B, L, γ, C, δ, α, β, -, -, hγ, -, hδ, hα, hβ, -⟩ := (pairingCheck_iff S hA).mp hpairing
  obtain ⟨-, ic, D, hic, hD, -⟩ :=
    (preparedInputs_bsb22_eq_ok_iff S hbuild hkey hcommitment).mp hout
  exact ⟨⟨⟨α, β, γ, δ, ic⟩, hα, hβ, hγ, hδ, by rwa [hlen]⟩, D, hD⟩

theorem holds_of_bsb22_ok (hself : Constructed rt self) {commitment pok : Bytes 64}
    {commitmentKey : CommitmentVerifyingKey}
    (hkey : self.verifyingkey.vkCommitment = some commitmentKey)
    (hcommitment : self.proofCommitment = some commitment)
    (hpok : self.proofCommitmentPok = some pok) (hdec : DecodesKey S self.verifyingkey key) {D : G1}
    (hD : S.decodeG1 commitment = some D) (h : (verifyCommon rt check self).1 = .ok ()) :
    InRange check self.publicInputs ∧
      ProofHolds S key self.proofA self.proofB self.proofC
        (committedSum rt self.publicInputs key.ic commitment D) ∧
      PokHolds S commitmentKey commitment pok := by
  classical
  rw [verifyCommon_bsb22_outcome S hself hkey hcommitment hpok hdec, hD] at h
  by_cases hin : InRange check self.publicInputs
  · rw [if_neg (not_not.mpr hin)] at h
    dsimp only at h
    by_cases hholds : ProofHolds S key self.proofA self.proofB self.proofC
        (committedSum rt self.publicInputs key.ic commitment D)
    · rw [if_neg (not_not.mpr hholds)] at h
      by_cases hknown : PokHolds S commitmentKey commitment pok
      · exact ⟨hin, hholds, hknown⟩
      · rw [if_pos hknown] at h
        cases h
    · rw [if_pos hholds] at h
      cases h
  · rw [if_pos hin] at h
    cases h

theorem verifyCommon_bsb22_ok_iff (hself : Constructed rt self) {commitment pok : Bytes 64}
    {commitmentKey : CommitmentVerifyingKey}
    (hkey : self.verifyingkey.vkCommitment = some commitmentKey)
    (hcommitment : self.proofCommitment = some commitment)
    (hpok : self.proofCommitmentPok = some pok) :
    (verifyCommon rt check self).1 = .ok () ↔
      InRange check self.publicInputs ∧ ∃ key D, DecodesKey S self.verifyingkey key ∧
        S.decodeG1 commitment = some D ∧
        ProofHolds S key self.proofA self.proofB self.proofC
          (committedSum rt self.publicInputs key.ic commitment D) ∧
        PokHolds S commitmentKey commitment pok := by
  classical
  obtain ⟨hbuild, hlen⟩ := hself.bsb22_of_commitment hcommitment
  constructor
  · intro h
    obtain ⟨⟨key, hdec⟩, D, hD⟩ := decodesKey_of_bsb22_ok S hbuild hkey hcommitment hlen h
    obtain ⟨hin, hholds, hknown⟩ := holds_of_bsb22_ok S hself hkey hcommitment hpok hdec hD h
    exact ⟨hin, key, D, hdec, hD, hholds, hknown⟩
  · intro h
    obtain ⟨hin, key, D, hdec, hD, hholds, hknown⟩ := h
    rw [verifyCommon_bsb22_outcome S hself hkey hcommitment hpok hdec, hD,
      if_neg (not_not.mpr hin)]
    dsimp only
    rw [if_neg (not_not.mpr hholds), if_neg (not_not.mpr hknown)]

/-! ## Every reachable state -/

open Classical in
/-- The answer that the bytes of a verifier determine. -/
noncomputable def verdict (check : Bool) (self : Groth16Verifier n) (key : Key G2) :
    Except Groth16Error Unit :=
  if ¬ InRange check self.publicInputs then .error .publicInputGreaterThanFieldSize
  else match self.verifyingkey.vkCommitment, self.proofCommitment, self.proofCommitmentPok with
    | some commitmentKey, some commitment, some pok =>
      match S.decodeG1 commitment with
      | none => .error .bsb22InvalidCommitmentPoint
      | some D =>
        if ¬ ProofHolds S key self.proofA self.proofB self.proofC
            (committedSum rt self.publicInputs key.ic commitment D) then
          .error .proofVerificationFailed
        else if ¬ PokHolds S commitmentKey commitment pok then
          .error .commitmentPokVerificationFailed
        else .ok ()
    | _, _, _ =>
      if ¬ ProofHolds S key self.proofA self.proofB self.proofC
          (publicSum self.publicInputs key.ic) then .error .proofVerificationFailed
      else .ok ()

theorem verifyCommon_eq_verdict (hself : Constructed rt self)
    (hdec : DecodesKey S self.verifyingkey key) :
    (verifyCommon rt check self).1 = verdict S check self key := by
  have hcons := hself.consistent
  cases hcons with
  | plain hcommitment hpok hkey hlen =>
    rw [verifyCommon_plain_outcome S hself hkey hdec, verdict, hkey, hcommitment, hpok]
  | bsb22 commitment pok commitmentKey hcommitment hpok hkey hlen =>
    rw [verifyCommon_bsb22_outcome S hself hkey hcommitment hpok hdec, verdict, hkey, hcommitment,
      hpok]

/-- Whatever calls came before, both calls answer with the verdict on the constructed verifier. -/
theorem verify_answers_verdict (hself : Constructed rt self)
    (hdec : DecodesKey S self.verifyingkey key) (calls : List Call) :
    (verify rt (runCalls rt self calls)).1 = verdict S true self key ∧
      (verifyUnchecked rt (runCalls rt self calls)).1 = verdict S false self key := by
  have hsame : SameBut self (runCalls rt self calls) := runCalls_sameBut self calls
  constructor
  · rw [verify, hsame.verifyCommon_eq true, verifyCommon_eq_verdict S hself hdec]
  · rw [verifyUnchecked, hsame.verifyCommon_eq false, verifyCommon_eq_verdict S hself hdec]

end

/-- The small verifier after two calls. -/
theorem verify_answers_verdict_small :
    (verify referenceRuntime (runCalls referenceRuntime smallVerifier
      [.prepareInputs true, .verifyUnchecked])).1 =
        verdict referenceSyscalls true smallVerifier
          ⟨g1Generator, 1, 1, 1, fun j => [0, g1Generator].getD j 0⟩ := by
  have hcons : Constructed referenceRuntime smallVerifier := .new smallVerifier_new
  exact (verify_answers_verdict referenceSyscalls hcons (decodesKey_smallVk _ _ _)
    [.prepareInputs true, .verifyUnchecked]).1

end Groth16Solana
