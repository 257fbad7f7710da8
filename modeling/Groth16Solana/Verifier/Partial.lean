import Groth16Solana.Verifier.HashToFieldSpec
import Groth16Solana.Verifier.Runs

/-! # A runtime that fails more often

A syscall may fail for reasons of its own. The verifier takes such a failure for a refusal: with the
same hashes, a runtime that answers less than another one accepts less, and what it accepts the other
one accepts. -/

set_option autoImplicit false

namespace Groth16Solana
open Foundations

/-- Every result of the first runtime is one of the second, and the hashes are the same. -/
structure Runtime.Le (rt rt' : Runtime) : Prop where
  bsb22 : rt.bsb22 = rt'.bsb22
  addition : ∀ input out, rt.altBn128G1Addition input = some out →
    rt'.altBn128G1Addition input = some out
  multiplication : ∀ input out, rt.altBn128G1Multiplication input = some out →
    rt'.altBn128G1Multiplication input = some out
  pairing : ∀ input out, rt.altBn128Pairing input = some out → rt'.altBn128Pairing input = some out
  sha256 : rt.sha256 = rt'.sha256
  fr : rt.fr = rt'.fr

theorem Runtime.Le.refl (rt : Runtime) : rt.Le rt :=
  ⟨rfl, fun _ _ h => h, fun _ _ h => h, fun _ _ h => h, rfl, rfl⟩

section
variable {rt rt' : Runtime} (h : rt.Le rt') {n : ℕ}
include h

/-! ## The hashes -/

theorem expandMessageXmd_eq_of_le {msgLen dstLen : ℕ} (msg : Bytes msgLen) (dst : Bytes dstLen) :
    expandMessageXmdSha256L48 rt msg dst = expandMessageXmdSha256L48 rt' msg dst := by
  unfold expandMessageXmdSha256L48
  rw [h.sha256]

theorem commitmentHash_eq_of_le (commitment : Bytes 64) :
    commitmentHash rt commitment = commitmentHash rt' commitment := by
  obtain ⟨raw, hraw⟩ := Option.isSome_iff_exists.mp
    (expandMessageXmd_isSome rt commitment bsb22Dst admitted_commitment)
  have hraw' := (expandMessageXmd_eq_of_le h commitment bsb22Dst).symm.trans hraw
  have hreduce : reduceBeL48 rt raw = reduceBeL48 rt' raw := by
    unfold reduceBeL48
    rw [h.fr]
  apply Vector.toList_inj.mp
  rw [commitmentHash, commitmentHash, toList_hashToFieldBn254Fr rt _ _ _ hraw,
    toList_hashToFieldBn254Fr rt' _ _ _ hraw', hreduce]

/-! ## The accumulator -/

theorem g1Add_le (point acc : Bytes 64) : OkLe (g1Add rt point acc) (g1Add rt' point acc) :=
  (OkLe.okOr (h.addition _) _).mapErr _

theorem g1MulAdd_le (point : Bytes 64) (scalar : Bytes 32) (acc : Bytes 64) :
    OkLe (g1MulAdd rt point scalar acc) (g1MulAdd rt' point scalar acc) := by
  apply OkLe.bind
  · exact (OkLe.okOr (h.multiplication _) _).mapErr _
  · intro mulRes
    exact g1Add_le h mulRes acc

theorem accumulateInputs_le (check : Bool) (vkIc : List (Bytes 64)) (inputs : List (Bytes 32)) (i : ℕ)
    (acc : Bytes 64) :
    OkLe (accumulateInputs rt check vkIc i inputs acc)
      (accumulateInputs rt' check vkIc i inputs acc) := by
  induction inputs generalizing i acc with
  | nil => exact OkLe.refl _
  | cons input inputs ih =>
    rw [accumulateInputs_cons, accumulateInputs_cons]
    split
    · exact OkLe.error _ _
    · apply OkLe.bind (OkLe.refl _)
      intro ic
      apply OkLe.bind (g1MulAdd_le h ic input acc)
      intro acc'
      exact ih (i + 1) acc'

theorem addCommitment_le (self : Groth16Verifier n) (acc : Bytes 64) :
    OkLe (addCommitment rt self acc) (addCommitment rt' self acc) := by
  rw [addCommitment, addCommitment]
  split
  · exact OkLe.error _ _
  · cases self.proofCommitment with
    | none => exact OkLe.refl _
    | some commitment =>
      dsimp only
      rw [commitmentHash_eq_of_le h]
      apply OkLe.bind (OkLe.refl _)
      intro ic
      apply OkLe.bind (g1MulAdd_le h ic _ acc)
      intro acc'
      exact (g1Add_le h commitment acc').mapErr _

theorem preparedInputs_le (check : Bool) (self : Groth16Verifier n) :
    OkLe (preparedInputs rt check self) (preparedInputs rt' check self) := by
  apply OkLe.bind (OkLe.refl _)
  intro first
  apply OkLe.bind (accumulateInputs_le h check _ _ 0 first)
  intro acc
  rw [h.bsb22]
  split
  · exact addCommitment_le h self acc
  · exact OkLe.refl _

/-! ## The calls -/

theorem checkPairing_le (err : Groth16Error) (input : List UInt8) :
    OkLe (checkPairing rt err input) (checkPairing rt' err input) := by
  apply OkLe.bind
  · exact (OkLe.okOr (h.pairing input) _).mapErr _
  · intro pairingRes
    exact OkLe.refl _

theorem verifyPrepared_le (self : Groth16Verifier n) :
    OkLe (verifyPrepared rt self) (verifyPrepared rt' self) := by
  apply OkLe.bind (checkPairing_le h _ _)
  intro _
  rw [h.bsb22]
  split
  · unfold verifyCommitmentPok
    split
    · exact checkPairing_le h _ _
    · exact OkLe.refl _
    · exact OkLe.refl _
  · exact OkLe.refl _

theorem verifyCommon_le (check : Bool) (self : Groth16Verifier n) :
    OkLe (verifyCommon rt check self).1 (verifyCommon rt' check self).1 := by
  intro _ hok
  obtain ⟨out, hprepared, hverify⟩ := verifyCommon_eq_ok_iff.mp hok
  exact verifyCommon_eq_ok_iff.mpr
    ⟨out, preparedInputs_le h check self out hprepared, verifyPrepared_le h _ () hverify⟩

theorem prepareInputs_le (check : Bool) (self : Groth16Verifier n) :
    OkLe (prepareInputs rt check self).1 (prepareInputs rt' check self).1 := by
  cases hprepared : preparedInputs rt check self with
  | error err =>
    rw [prepareInputs_of_error hprepared]
    exact OkLe.error _ _
  | ok out =>
    rw [prepareInputs_of_ok hprepared,
      prepareInputs_of_ok (preparedInputs_le h check self out hprepared)]
    exact OkLe.refl _

theorem Call.run_le (self : Groth16Verifier n) (call : Call) :
    OkLe (call.run rt self).1 (call.run rt' self).1 := by
  cases call with
  | prepareInputs check => exact prepareInputs_le h check self
  | verify => exact verifyCommon_le h true self
  | verifyUnchecked => exact verifyCommon_le h false self

/-- The histories on both sides may be different ones. -/
theorem runCalls_le (self : Groth16Verifier n) (calls calls' : List Call) (call : Call) :
    OkLe (call.run rt (runCalls rt self calls)).1 (call.run rt' (runCalls rt' self calls')).1 := by
  have hself : SameBut self (runCalls rt self calls) := runCalls_sameBut self calls
  have hself' : SameBut self (runCalls rt' self calls') := runCalls_sameBut self calls'
  rw [hself.run_eq call, hself'.run_eq call]
  exact Call.run_le h self call

end

end Groth16Solana
