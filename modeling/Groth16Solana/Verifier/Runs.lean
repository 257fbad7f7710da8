import Groth16Solana.Verifier.Calls
import Groth16Solana.Verifier.Reference

/-! # Runs of calls on one verifier

A call writes `prepared_public_inputs` at most, and no call reads the value it finds there. The
constructors' invariant therefore holds after every run, and a call answers as on the fresh
verifier. -/

set_option autoImplicit false

namespace Groth16Solana
open Foundations

variable {rt : Runtime} {nrInputs : ℕ}

/-- The calls a program can make. -/
inductive Call where
  | prepareInputs (check : Bool)
  | verify
  | verifyUnchecked

def Call.run (rt : Runtime) (self : Groth16Verifier nrInputs) :
    Call → Except Groth16Error Unit × Groth16Verifier nrInputs
  | .prepareInputs check => Groth16Solana.prepareInputs rt check self
  | .verify => Groth16Solana.verify rt self
  | .verifyUnchecked => Groth16Solana.verifyUnchecked rt self

/-- The verifier after a sequence of calls, whatever each of them returned. -/
def runCalls (rt : Runtime) (self : Groth16Verifier nrInputs) (calls : List Call) :
    Groth16Verifier nrInputs :=
  calls.foldl (fun state call => (call.run rt state).2) self

/-! ## Only the prepared inputs change -/

/-- Two verifiers that differ at most in `prepared_public_inputs`. -/
def SameBut (self state : Groth16Verifier nrInputs) : Prop :=
  ∃ prepared, state = { self with preparedPublicInputs := prepared }

theorem SameBut.refl (self : Groth16Verifier nrInputs) : SameBut self self :=
  ⟨self.preparedPublicInputs, rfl⟩

theorem SameBut.trans {self state state' : Groth16Verifier nrInputs} (h : SameBut self state)
    (h' : SameBut state state') : SameBut self state' := by
  obtain ⟨prepared, rfl⟩ := h
  obtain ⟨prepared', rfl⟩ := h'
  exact ⟨prepared', rfl⟩

theorem prepareInputs_sameBut (check : Bool) (self : Groth16Verifier nrInputs) :
    SameBut self (prepareInputs rt check self).2 := by
  cases h : preparedInputs rt check self with
  | error err =>
    rw [prepareInputs_of_error h]
    exact SameBut.refl self
  | ok out =>
    rw [prepareInputs_of_ok h]
    exact ⟨out, rfl⟩

theorem verifyCommon_sameBut (check : Bool) (self : Groth16Verifier nrInputs) :
    SameBut self (verifyCommon rt check self).2 := by
  cases h : preparedInputs rt check self with
  | error err =>
    rw [verifyCommon_of_error h]
    exact SameBut.refl self
  | ok out =>
    rw [verifyCommon_of_ok h]
    exact ⟨out, rfl⟩

theorem Call.run_sameBut (self : Groth16Verifier nrInputs) (call : Call) :
    SameBut self (call.run rt self).2 := by
  cases call with
  | prepareInputs check => exact prepareInputs_sameBut check self
  | verify => exact verifyCommon_sameBut true self
  | verifyUnchecked => exact verifyCommon_sameBut false self

theorem runCalls_sameBut (self : Groth16Verifier nrInputs) (calls : List Call) :
    SameBut self (runCalls rt self calls) := by
  induction calls generalizing self with
  | nil => exact SameBut.refl self
  | cons call calls ih => exact (Call.run_sameBut self call).trans (ih (call.run rt self).2)

theorem SameBut.consistent {self state : Groth16Verifier nrInputs} (h : SameBut self state)
    (hself : Consistent self) : Consistent state := by
  obtain ⟨prepared, rfl⟩ := h
  cases hself with
  | plain hcommitment hpok hkey hlen => exact .plain hcommitment hpok hkey hlen
  | bsb22 commitment pok key hcommitment hpok hkey hlen =>
    exact .bsb22 commitment pok key hcommitment hpok hkey hlen

/-! ## No call reads the prepared inputs it finds -/

theorem SameBut.preparedInputs_eq {self state : Groth16Verifier nrInputs} (h : SameBut self state)
    (check : Bool) : preparedInputs rt check state = preparedInputs rt check self := by
  obtain ⟨prepared, rfl⟩ := h
  rfl

theorem SameBut.verifyCommon_eq {self state : Groth16Verifier nrInputs} (h : SameBut self state)
    (check : Bool) : (verifyCommon rt check state).1 = (verifyCommon rt check self).1 := by
  have heq : preparedInputs rt check state = _ := h.preparedInputs_eq check
  cases hp : preparedInputs rt check self with
  | error err => rw [verifyCommon_of_error hp, verifyCommon_of_error (heq.trans hp)]
  | ok out =>
    rw [verifyCommon_of_ok hp, verifyCommon_of_ok (heq.trans hp)]
    obtain ⟨prepared, rfl⟩ := h
    rfl

theorem SameBut.run_eq {self state : Groth16Verifier nrInputs} (h : SameBut self state)
    (call : Call) : (call.run rt state).1 = (call.run rt self).1 := by
  cases call with
  | verify => exact h.verifyCommon_eq true
  | verifyUnchecked => exact h.verifyCommon_eq false
  | prepareInputs check =>
    have heq : preparedInputs rt check state = _ := h.preparedInputs_eq check
    simp only [Call.run]
    cases hp : preparedInputs rt check self with
    | error err => rw [prepareInputs_of_error hp, prepareInputs_of_error (heq.trans hp)]
    | ok out => rw [prepareInputs_of_ok hp, prepareInputs_of_ok (heq.trans hp)]

/-! ## The errors a call can return -/

/-- The errors of the syscalls and of the range check. -/
def CallError (err : Groth16Error) : Prop :=
  err = .publicInputGreaterThanFieldSize ∨ err = .preparingInputsG1MulFailed ∨
    err = .preparingInputsG1AdditionFailed ∨ err = .bsb22InvalidCommitmentPoint ∨
    err = .proofVerificationFailed ∨ err = .commitmentPokVerificationFailed

/-- The errors of one accumulation. -/
def StepError (err : Groth16Error) : Prop :=
  err = .preparingInputsG1MulFailed ∨ err = .preparingInputsG1AdditionFailed

/-- The errors of the pairing checks. -/
def PairingError (err : Groth16Error) : Prop :=
  err = .proofVerificationFailed ∨ err = .commitmentPokVerificationFailed

theorem StepError.callError {err : Groth16Error} (h : StepError err) : CallError err := by
  rcases h with rfl | rfl
  · simp [CallError]
  · simp [CallError]

theorem PairingError.callError {err : Groth16Error} (h : PairingError err) : CallError err := by
  rcases h with rfl | rfl
  · simp [CallError]
  · simp [CallError]

theorem g1MulAdd_error {point acc : Bytes 64} {scalar : Bytes 32} {err : Groth16Error}
    (h : g1MulAdd rt point scalar acc = .error err) : StepError err := by
  rw [g1MulAdd, bind_eq_error] at h
  rcases h with hmul | ⟨res, -, hadd⟩
  · exact Or.inl (mapErr_eq_error.mp hmul).2.symm
  · exact Or.inr (mapErr_eq_error.mp hadd).2.symm

theorem accumulateInputs_error {check : Bool} {vkIc : List (Bytes 64)} (inputs : List (Bytes 32))
    {i : ℕ} {acc : Bytes 64} {err : Groth16Error} (hlen : i + inputs.length < vkIc.length)
    (h : accumulateInputs rt check vkIc i inputs acc = .error err) : CallError err := by
  induction inputs generalizing i acc with
  | nil => cases h
  | cons input inputs ih =>
    rw [List.length_cons] at hlen
    rw [accumulateInputs_cons] at h
    by_cases hguard : check = true ∧ frModulus ≤ beNat input.toList
    · rw [if_pos hguard, Except.error.injEq] at h
      exact Or.inl h.symm
    · rw [if_neg hguard, bind_eq_error, List.getElem?_eq_getElem (by omega)] at h
      rcases h with hic | ⟨ic, -, h⟩
      · cases hic
      · rcases bind_eq_error.mp h with hstep | ⟨acc', -, hrest⟩
        · exact (g1MulAdd_error hstep).callError
        · exact ih (by omega) hrest

theorem addCommitment_error {self : Groth16Verifier nrInputs} {acc : Bytes 64} {err : Groth16Error}
    (hself : Consistent self) (h : addCommitment rt self acc = .error err) :
    StepError err ∨ err = .bsb22InvalidCommitmentPoint := by
  cases hself with
  | plain hcommitment hpok hkey hlen =>
    rw [addCommitment_plain hkey hcommitment] at h
    cases h
  | bsb22 commitment pok key hcommitment hpok hkey hlen =>
    rw [addCommitment_bsb22 hkey hcommitment, bind_eq_error,
      List.getElem?_eq_getElem (by omega)] at h
    rcases h with hic | ⟨ic, -, h⟩
    · cases hic
    · rcases bind_eq_error.mp h with hstep | ⟨acc', -, hadd⟩
      · exact Or.inl (g1MulAdd_error hstep)
      · exact Or.inr (mapErr_eq_error.mp hadd).2.symm

theorem preparedInputs_error {check : Bool} {self : Groth16Verifier nrInputs} {err : Groth16Error}
    (hself : Consistent self) (h : preparedInputs rt check self = .error err) : CallError err := by
  have hlen := hself.length_pos
  rw [preparedInputs, bind_eq_error, List.head?_eq_getElem?,
    List.getElem?_eq_getElem (by omega)] at h
  rcases h with hfirst | ⟨first, -, h⟩
  · cases hfirst
  · rcases bind_eq_error.mp h with hloop | ⟨acc, -, hadd⟩
    · exact accumulateInputs_error _ (by simpa using hlen) hloop
    · by_cases hbuild : rt.bsb22 = true
      · rw [if_pos hbuild] at hadd
        rcases addCommitment_error hself hadd with hstep | rfl
        · exact hstep.callError
        · simp [CallError]
      · rw [if_neg hbuild] at hadd
        cases hadd

theorem checkPairing_error {err err' : Groth16Error} {input : List UInt8}
    (h : checkPairing rt err' input = .error err) : err = err' := by
  rw [checkPairing, bind_eq_error] at h
  rcases h with hcall | ⟨res, -, h⟩
  · exact (mapErr_eq_error.mp hcall).2.symm
  · by_cases hone : res[31] ≠ 1
    · rw [if_pos hone] at h
      cases h
      rfl
    · rw [if_neg hone] at h
      cases h

theorem verifyPrepared_error {self : Groth16Verifier nrInputs} {err : Groth16Error}
    (hself : Consistent self) (h : verifyPrepared rt self = .error err) : PairingError err := by
  rw [verifyPrepared, bind_eq_error] at h
  rcases h with hpairing | ⟨-, -, hpok⟩
  · exact Or.inl (checkPairing_error hpairing)
  · by_cases hbuild : rt.bsb22 = true
    · rw [if_pos hbuild] at hpok
      cases hself with
      | plain hcommitment hpok' hkey hlen =>
        simp only [verifyCommitmentPok, hcommitment, hpok', hkey] at hpok
        cases hpok
      | bsb22 commitment pok key hcommitment hpok' hkey hlen =>
        simp only [verifyCommitmentPok, hcommitment, hpok', hkey] at hpok
        exact Or.inr (checkPairing_error hpok)
    · rw [if_neg hbuild] at hpok
      cases hpok

theorem verifyCommon_error {check : Bool} {self : Groth16Verifier nrInputs} {err : Groth16Error}
    (hself : Consistent self) (h : (verifyCommon rt check self).1 = .error err) :
    CallError err := by
  cases hp : preparedInputs rt check self with
  | error err' =>
    rw [verifyCommon_of_error hp, Except.error.injEq] at h
    exact h ▸ preparedInputs_error hself hp
  | ok out =>
    rw [verifyCommon_of_ok hp] at h
    have hstate : SameBut self { self with preparedPublicInputs := out } := ⟨out, rfl⟩
    exact (verifyPrepared_error (hstate.consistent hself) h).callError

theorem Call.run_error {self : Groth16Verifier nrInputs} {call : Call} {err : Groth16Error}
    (hself : Consistent self) (h : (call.run rt self).1 = .error err) : CallError err := by
  cases call with
  | verify => exact verifyCommon_error hself h
  | verifyUnchecked => exact verifyCommon_error hself h
  | prepareInputs check =>
    simp only [Call.run] at h
    cases hp : preparedInputs rt check self with
    | error err' =>
      rw [prepareInputs_of_error hp, Except.error.injEq] at h
      exact h ▸ preparedInputs_error hself hp
    | ok out =>
      rw [prepareInputs_of_ok hp] at h
      cases h

/-! ## Every reachable state -/

theorem prepareInputs_state_of_error {check : Bool} {self : Groth16Verifier nrInputs}
    {err : Groth16Error} (h : (prepareInputs rt check self).1 = .error err) :
    (prepareInputs rt check self).2 = self := by
  cases hp : preparedInputs rt check self with
  | error err' => rw [prepareInputs_of_error hp]
  | ok out =>
    rw [prepareInputs_of_ok hp] at h
    cases h

/-- What holds in every state that calls lead to from a constructed verifier. -/
theorem constructed_runs {self : Groth16Verifier nrInputs} (h : Constructed rt self)
    (calls : List Call) :
    Consistent (runCalls rt self calls) ∧
      (∀ call : Call,
        (call.run rt (runCalls rt self calls)).1 ≠ .error .bsb22InconsistentCommitmentState ∧
        (call.run rt (runCalls rt self calls)).1 ≠ .error .invalidPublicInputsLength) ∧
      (∀ call : Call, (call.run rt (runCalls rt self calls)).1 = (call.run rt self).1) ∧
      (∀ check err, (prepareInputs rt check (runCalls rt self calls)).1 = .error err →
        (prepareInputs rt check (runCalls rt self calls)).2 = runCalls rt self calls) ∧
      ∀ call : Call, ∃ prepared, (call.run rt (runCalls rt self calls)).2 =
        { runCalls rt self calls with preparedPublicInputs := prepared } := by
  have hsame : SameBut self (runCalls rt self calls) := runCalls_sameBut self calls
  have hstate := hsame.consistent h.consistent
  refine ⟨hstate, ?_, hsame.run_eq, fun check err => prepareInputs_state_of_error,
    Call.run_sameBut _⟩
  intro call
  constructor
  · intro herr
    have := Call.run_error hstate herr
    simp [CallError] at this
  · intro herr
    have := Call.run_error hstate herr
    simp [CallError] at this

/-- A run of three calls on the small verifier. -/
theorem constructed_runs_small :
    Consistent (runCalls referenceRuntime smallVerifier
        [.verify, .prepareInputs false, .verifyUnchecked]) ∧
      (verify referenceRuntime (runCalls referenceRuntime smallVerifier
        [.verify, .prepareInputs false, .verifyUnchecked])).1 =
        (verify referenceRuntime smallVerifier).1 := by
  have hcons : Constructed referenceRuntime smallVerifier := .new smallVerifier_new
  have h := constructed_runs hcons
    [.verify, .prepareInputs false, .verifyUnchecked]
  exact ⟨h.1, h.2.2.1 .verify⟩

end Groth16Solana
