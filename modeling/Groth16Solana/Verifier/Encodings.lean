import Groth16Solana.Bn254.TwistDecoder
import Groth16Solana.Verifier.Runs

/-! # Other bytes of the same points

The verifier looks at a point only through the syscalls, which decode it at every call. Bytes that are
decoded alike are therefore answered alike, refused bytes with the same error. Only the commitment is
hashed too. -/

set_option autoImplicit false

namespace Groth16Solana
open Foundations

section
variable {rt : Runtime} {G2 GT : Type} [AddCommGroup G2] [CommGroup GT] (S : AltBn128 rt G2 GT)
variable {n : ℕ} {self self' : Groth16Verifier n}

/-- Verifiers over the same inputs whose bytes are decoded to the same points. -/
structure SamePoints (left right : Groth16Verifier n) : Prop where
  proofA : S.decodeG1 left.proofA = S.decodeG1 right.proofA
  proofB : S.decodeG2 left.proofB = S.decodeG2 right.proofB
  proofC : S.decodeG1 left.proofC = S.decodeG1 right.proofC
  alpha : S.decodeG1 left.verifyingkey.vkAlphaG1 = S.decodeG1 right.verifyingkey.vkAlphaG1
  beta : S.decodeG2 left.verifyingkey.vkBetaG2 = S.decodeG2 right.verifyingkey.vkBetaG2
  gamma : S.decodeG2 left.verifyingkey.vkGammaG2 = S.decodeG2 right.verifyingkey.vkGammaG2
  delta : S.decodeG2 left.verifyingkey.vkDeltaG2 = S.decodeG2 right.verifyingkey.vkDeltaG2
  ic : left.verifyingkey.vkIc.map S.decodeG1 = right.verifyingkey.vkIc.map S.decodeG1
  publicInputs : left.publicInputs = right.publicInputs
  commitment : left.proofCommitment = right.proofCommitment
  pok : left.proofCommitmentPok.map S.decodeG1 = right.proofCommitmentPok.map S.decodeG1
  gSigmaNeg : left.verifyingkey.vkCommitment.map (fun key => S.decodeG2 key.gSigmaNegG2) =
    right.verifyingkey.vkCommitment.map (fun key => S.decodeG2 key.gSigmaNegG2)
  g : left.verifyingkey.vkCommitment.map (fun key => S.decodeG2 key.g2) =
    right.verifyingkey.vkCommitment.map (fun key => S.decodeG2 key.g2)

/-! ## Two results that are read alike -/

theorem map_eq_map_cases {α β : Type} {f : α → β} {x y : Option α} (h : x.map f = y.map f) :
    (x = none ∧ y = none) ∨ ∃ a b, x = some a ∧ y = some b ∧ f a = f b := by
  cases x with
  | none =>
    cases y with
    | none => exact Or.inl ⟨rfl, rfl⟩
    | some b => cases h
  | some a =>
    cases y with
    | none => cases h
    | some b => exact Or.inr ⟨a, b, rfl, rfl, Option.some.inj h⟩

theorem except_map_cases {ε α β : Type} {f : α → β} {x y : Except ε α} (h : x.map f = y.map f) :
    (∃ err, x = .error err ∧ y = .error err) ∨ ∃ a b, x = .ok a ∧ y = .ok b ∧ f a = f b := by
  cases x with
  | error err =>
    cases y with
    | error err' =>
      have herr : err = err' := Except.error.inj h
      exact Or.inl ⟨err, rfl, herr ▸ rfl⟩
    | ok b => cases h
  | ok a =>
    cases y with
    | error err => cases h
    | ok b => exact Or.inr ⟨a, b, rfl, rfl, Except.ok.inj h⟩

theorem getElem?_same {ics ics' : List (Bytes 64)} (h : ics.map S.decodeG1 = ics'.map S.decodeG1)
    (j : ℕ) : (ics[j]? = none ∧ ics'[j]? = none) ∨
      ∃ ic ic', ics[j]? = some ic ∧ ics'[j]? = some ic' ∧ S.decodeG1 ic = S.decodeG1 ic' := by
  apply map_eq_map_cases
  rw [← List.getElem?_map, h, List.getElem?_map]

/-! ## The syscalls -/

theorem g1MulAdd_same {point point' acc acc' : Bytes 64}
    (hpoint : S.decodeG1 point = S.decodeG1 point') (hacc : S.decodeG1 acc = S.decodeG1 acc')
    (scalar : Bytes 32) : g1MulAdd rt point scalar acc = g1MulAdd rt point' scalar acc' := by
  rw [S.g1MulAdd_eq, S.g1MulAdd_eq, hpoint, hacc]

omit [AddCommGroup G2] in
theorem decodePairs_same {decodeG1 : Bytes 64 → Option G1} {decodeG2 : Bytes 128 → Option G2}
    {pairs pairs' : List (Bytes 64 × Bytes 128)}
    (h : List.Forall₂ (fun p q => decodeG1 p.1 = decodeG1 q.1 ∧ decodeG2 p.2 = decodeG2 q.2)
      pairs pairs') : decodePairs decodeG1 decodeG2 pairs = decodePairs decodeG1 decodeG2 pairs' := by
  induction h with
  | nil => rfl
  | cons hpair _ ih =>
    obtain ⟨h1, h2⟩ := hpair
    rw [decodePairs, decodePairs, h1, h2, ih]

theorem checkPairing_same {pairs pairs' : List (Bytes 64 × Bytes 128)} (err : Groth16Error)
    (h : List.Forall₂ (fun p q => S.decodeG1 p.1 = S.decodeG1 q.1 ∧ S.decodeG2 p.2 = S.decodeG2 q.2)
      pairs pairs') : checkPairing rt err (pairBytes pairs) = checkPairing rt err (pairBytes pairs') := by
  rw [checkPairing, checkPairing, pairingBe, pairingBe, S.pairing pairs, S.pairing pairs',
    decodePairs_same h]

/-! ## The accumulator -/

/-- The accumulators differ in bytes at most until the first step, which writes a canonical one. -/
theorem accumulateInputs_same (check : Bool) {vkIc vkIc' : List (Bytes 64)}
    (hic : vkIc.map S.decodeG1 = vkIc'.map S.decodeG1) (inputs : List (Bytes 32)) (i : ℕ)
    {acc acc' : Bytes 64} (hacc : S.decodeG1 acc = S.decodeG1 acc') :
    (accumulateInputs rt check vkIc i inputs acc).map S.decodeG1 =
      (accumulateInputs rt check vkIc' i inputs acc').map S.decodeG1 := by
  induction inputs generalizing i acc acc' with
  | nil => exact congrArg Except.ok hacc
  | cons input inputs ih =>
    rw [accumulateInputs_cons, accumulateInputs_cons]
    split
    · rfl
    · rcases getElem?_same S hic (i + 1) with ⟨h, h'⟩ | ⟨ic, ic', h, h', hpoint⟩
      · rw [h, h']
        rfl
      · rw [h, h', okOr_some, okOr_some, ok_bind, ok_bind, g1MulAdd_same S hpoint hacc]
        cases g1MulAdd rt ic' input acc' with
        | error err => rfl
        | ok next => exact ih (i + 1) rfl

theorem addCommitment_same (h : SamePoints S self self') {acc acc' : Bytes 64}
    (hacc : S.decodeG1 acc = S.decodeG1 acc') :
    (addCommitment rt self acc).map S.decodeG1 = (addCommitment rt self' acc').map S.decodeG1 := by
  have hkeys := congrArg Option.isSome h.g
  rw [Option.isSome_map, Option.isSome_map] at hkeys
  rw [addCommitment, addCommitment, ← h.commitment, hkeys]
  split
  · rfl
  · cases self.proofCommitment with
    | none => exact congrArg Except.ok hacc
    | some commitment =>
      rcases getElem?_same S h.ic (n + 1) with ⟨hic, hic'⟩ | ⟨ic, ic', hic, hic', hpoint⟩
      · simp only [hic, hic', okOr_none]
        rfl
      · simp only [hic, hic', okOr_some, ok_bind]
        rw [g1MulAdd_same S hpoint hacc]

theorem preparedInputs_same (check : Bool) (h : SamePoints S self self') :
    (preparedInputs rt check self).map S.decodeG1 = (preparedInputs rt check self').map S.decodeG1 := by
  rw [preparedInputs, preparedInputs, List.head?_eq_getElem?, List.head?_eq_getElem?,
    ← h.publicInputs]
  rcases getElem?_same S h.ic 0 with ⟨hic, hic'⟩ | ⟨ic, ic', hic, hic', hpoint⟩
  · rw [hic, hic']
    rfl
  · rw [hic, hic', okOr_some, okOr_some, ok_bind, ok_bind]
    have hloop := accumulateInputs_same S check h.ic self.publicInputs.toList 0 hpoint
    rcases except_map_cases hloop with ⟨err, hrun, hrun'⟩ | ⟨acc, acc', hrun, hrun', hacc⟩
    · rw [hrun, hrun']
      rfl
    · rw [hrun, hrun', ok_bind, ok_bind]
      cases rt.bsb22 with
      | false => exact congrArg Except.ok hacc
      | true => exact addCommitment_same S h hacc

/-! ## The calls -/

theorem verifyCommitmentPok_same (h : SamePoints S self self') :
    verifyCommitmentPok rt self = verifyCommitmentPok rt self' := by
  rw [verifyCommitmentPok, verifyCommitmentPok, ← h.commitment]
  rcases map_eq_map_cases h.pok with ⟨hpok, hpok'⟩ | ⟨pok, pok', hpok, hpok', hpoint⟩
  · rw [hpok, hpok']
    rcases map_eq_map_cases h.g with ⟨hkey, hkey'⟩ | ⟨key, key', hkey, hkey', -⟩
    · rw [hkey, hkey']
    · rw [hkey, hkey']
      cases self.proofCommitment <;> rfl
  · rw [hpok, hpok']
    rcases map_eq_map_cases h.g with ⟨hkey, hkey'⟩ | ⟨key, key', hkey, hkey', hg⟩
    · rw [hkey, hkey']
      cases self.proofCommitment <;> rfl
    · have hsigma := h.gSigmaNeg
      rw [hkey, hkey'] at hsigma ⊢
      cases self.proofCommitment with
      | none => rfl
      | some commitment =>
        simp only [toList_pokInput]
        exact checkPairing_same S _ (.cons ⟨rfl, Option.some.inj hsigma⟩ (.cons ⟨hpoint, hg⟩ .nil))

theorem verifyPrepared_same (h : SamePoints S self self')
    (hprepared : S.decodeG1 self.preparedPublicInputs = S.decodeG1 self'.preparedPublicInputs) :
    verifyPrepared rt self = verifyPrepared rt self' := by
  rw [verifyPrepared, verifyPrepared, toList_pairingInput, toList_pairingInput,
    verifyCommitmentPok_same S h]
  congr 1
  apply checkPairing_same S
  exact .cons ⟨h.proofA, h.proofB⟩ (.cons ⟨hprepared, h.gamma⟩
    (.cons ⟨h.proofC, h.delta⟩ (.cons ⟨h.alpha, h.beta⟩ .nil)))

theorem SamePoints.withPrepared (h : SamePoints S self self') (prepared prepared' : Bytes 64) :
    SamePoints S { self with preparedPublicInputs := prepared }
      { self' with preparedPublicInputs := prepared' } :=
  ⟨h.proofA, h.proofB, h.proofC, h.alpha, h.beta, h.gamma, h.delta, h.ic, h.publicInputs,
    h.commitment, h.pok, h.gSigmaNeg, h.g⟩

theorem verifyCommon_same (check : Bool) (h : SamePoints S self self') :
    (verifyCommon rt check self).1 = (verifyCommon rt check self').1 := by
  rcases except_map_cases (preparedInputs_same S check h) with
    ⟨err, hrun, hrun'⟩ | ⟨prepared, prepared', hrun, hrun', hprepared⟩
  · rw [verifyCommon_of_error hrun, verifyCommon_of_error hrun']
  · rw [verifyCommon_of_ok hrun, verifyCommon_of_ok hrun']
    exact verifyPrepared_same S (h.withPrepared S prepared prepared') hprepared

theorem prepareInputs_same (check : Bool) (h : SamePoints S self self') :
    (prepareInputs rt check self).1 = (prepareInputs rt check self').1 := by
  rcases except_map_cases (preparedInputs_same S check h) with
    ⟨err, hrun, hrun'⟩ | ⟨prepared, prepared', hrun, hrun', -⟩
  · rw [prepareInputs_of_error hrun, prepareInputs_of_error hrun']
  · rw [prepareInputs_of_ok hrun, prepareInputs_of_ok hrun']

theorem Call.run_same (h : SamePoints S self self') (call : Call) :
    (call.run rt self).1 = (call.run rt self').1 := by
  cases call with
  | prepareInputs check => exact prepareInputs_same S check h
  | verify => exact verifyCommon_same S true h
  | verifyUnchecked => exact verifyCommon_same S false h

theorem runCalls_same (h : SamePoints S self self') (calls : List Call) (call : Call) :
    (call.run rt (runCalls rt self calls)).1 = (call.run rt (runCalls rt self' calls)).1 := by
  have hself : SameBut self (runCalls rt self calls) := runCalls_sameBut self calls
  have hself' : SameBut self' (runCalls rt self' calls) := runCalls_sameBut self' calls
  calc (call.run rt (runCalls rt self calls)).1
      = (call.run rt self).1 := hself.run_eq call
    _ = (call.run rt self').1 := Call.run_same S h call
    _ = (call.run rt (runCalls rt self' calls)).1 := (hself'.run_eq call).symm

/-- No sequence of calls tells two encodings of the same points apart, and none makes them encode
different ones. -/
theorem same_points_same_answers (h : SamePoints S self self') (calls : List Call) :
    SamePoints S (runCalls rt self calls) (runCalls rt self' calls) ∧
      ∀ call : Call,
        (call.run rt (runCalls rt self calls)).1 = (call.run rt (runCalls rt self' calls)).1 := by
  have hself : SameBut self (runCalls rt self calls) := runCalls_sameBut self calls
  have hself' : SameBut self' (runCalls rt self' calls) := runCalls_sameBut self' calls
  obtain ⟨prepared, hprepared⟩ := hself
  obtain ⟨prepared', hprepared'⟩ := hself'
  constructor
  · rw [hprepared, hprepared']
    exact h.withPrepared S prepared prepared'
  · intro call
    exact runCalls_same S h calls call

end

/-! ## A sign in the flags -/

def signedVerifier (y : ℕ) : Groth16Verifier 1 := { smallVerifier with proofC := joinG1 1 y }

theorem onCurve_neg_generator : OnCurve 1 (fqModulus - 2) :=
  ⟨by decide +kernel, by decide +kernel, by decide +kernel⟩

theorem decode_signed {sign : ℕ} (hsign : sign = 0 ∨ sign = 2) :
    arkDecodeG1 (joinG1 1 (2 ^ 254 * sign + (fqModulus - 2))) =
      some (.some ((1 : ℕ) : Fq) ((fqModulus - 2 : ℕ) : Fq) onCurve_neg_generator.nonsingular) := by
  have hx : coordinateAt (joinG1 1 (2 ^ 254 * sign + (fqModulus - 2))) 0 = 1 := by
    rcases hsign with rfl | rfl <;> decide +kernel
  have hy : coordinateAt (joinG1 1 (2 ^ 254 * sign + (fqModulus - 2))) 1 =
      2 ^ 254 * sign + (fqModulus - 2) := by
    rcases hsign with rfl | rfl <;> decide +kernel
  exact arkDecodeG1_of_point hx hy hsign onCurve_neg_generator

theorem same_points_same_answers_signed :
    joinG1 1 (2 ^ 254 * 0 + (fqModulus - 2)) ≠ joinG1 1 (2 ^ 254 * 2 + (fqModulus - 2)) ∧
      (verify referenceRuntime (signedVerifier (2 ^ 254 * 0 + (fqModulus - 2)))).1 =
        (verify referenceRuntime (signedVerifier (2 ^ 254 * 2 + (fqModulus - 2)))).1 := by
  have hproofC : arkDecodeG1 (joinG1 1 (2 ^ 254 * 0 + (fqModulus - 2))) =
      arkDecodeG1 (joinG1 1 (2 ^ 254 * 2 + (fqModulus - 2))) :=
    (decode_signed (Or.inl rfl)).trans (decode_signed (Or.inr rfl)).symm
  have hsame : SamePoints referenceSyscalls (signedVerifier (2 ^ 254 * 0 + (fqModulus - 2)))
      (signedVerifier (2 ^ 254 * 2 + (fqModulus - 2))) :=
    ⟨rfl, rfl, hproofC, rfl, rfl, rfl, rfl, rfl, rfl, rfl, rfl, rfl, rfl⟩
  refine ⟨by decide +kernel, ?_⟩
  exact (same_points_same_answers referenceSyscalls hsame []).2 .verify

end Groth16Solana
