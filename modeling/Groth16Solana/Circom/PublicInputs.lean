import Groth16Solana.Circom.BigUint
import Groth16Solana.Foundations.Search

/-! # Converting public inputs (`proof_parser.rs`)

A panic is `none`. An integer of more than 32 bytes keeps its first 32 bytes, which are another
integer. -/

set_option autoImplicit false

namespace Groth16Solana
open Foundations

/-- One turn of the loop: the padding, and `bytes[..32].try_into().unwrap()`. -/
def convertSignal (signalBigint : ℕ) : Option (Bytes 32) := do
  let bytes := toBytesBe signalBigint
  let bytes := if bytes.length < 32 then List.replicate (32 - bytes.length) 0 ++ bytes else bytes
  let bytes ← getTo bytes 32
  if h : bytes.length = 32 then some (Bytes.ofList bytes h) else none

def convertPublicInputs (n : ℕ) (pubInputs : List ℕ) : Option (Vector (Bytes 32) n) := do
  let publicInputsVec ← pubInputs.mapM convertSignal
  if h : publicInputsVec.length = n then some ⟨publicInputsVec.toArray, h⟩ else none

/-! ## One integer -/

/-- The loop never panics, and keeps the integer just when it has 32 bytes. -/
theorem convertSignal_eq (n : ℕ) :
    ∃ bytes, convertSignal n = some bytes ∧ (beNat bytes.toList = n ↔ n < 256 ^ 32) := by
  have hlen := toBytesBe_length_le_iff n
  have hvalue := beNat_toBytesBe n
  simp only [convertSignal]
  generalize toBytesBe n = bytes at *
  by_cases hshort : bytes.length < 32
  · have hpad : (List.replicate (32 - bytes.length) (0 : UInt8) ++ bytes).length = 32 := by
      rw [List.length_append, List.length_replicate]
      omega
    have htake : (List.replicate (32 - bytes.length) (0 : UInt8) ++ bytes).take 32 =
        List.replicate (32 - bytes.length) 0 ++ bytes := List.take_of_length_le hpad.le
    have hn : n < 256 ^ 32 := hlen.mp hshort.le
    refine ⟨Bytes.ofList _ hpad, ?_, ?_⟩
    · rw [if_pos hshort, getTo_eq hpad.ge, htake, Option.bind_eq_bind, Option.bind_some, dif_pos hpad]
    · rw [Bytes.toList_ofList, beNat_append, beNat_replicate_zero, Nat.zero_mul, Nat.zero_add, hvalue]
      exact iff_of_true rfl hn
  · have hge : 32 ≤ bytes.length := Nat.not_lt.mp hshort
    have htake : (bytes.take 32).length = 32 := List.length_take_of_le hge
    refine ⟨Bytes.ofList _ htake, ?_, ?_⟩
    · rw [if_neg hshort, getTo_eq hge, Option.bind_eq_bind, Option.bind_some, dif_pos htake]
    · rw [Bytes.toList_ofList]
      constructor
      · intro heq
        rw [← heq]
        exact beNat_lt_of_length htake
      · intro hn
        rw [List.take_of_length_le (hlen.mpr hn), hvalue]

/-! ## The list -/

theorem mapM_convertSignal (pubInputs : List ℕ) :
    ∃ out, pubInputs.mapM convertSignal = some out ∧ out.length = pubInputs.length ∧
      (out.map (fun bytes => beNat bytes.toList) = pubInputs ↔ ∀ n ∈ pubInputs, n < 256 ^ 32) := by
  induction pubInputs with
  | nil => exact ⟨[], rfl, rfl, by simp⟩
  | cons n pubInputs ih =>
    obtain ⟨bytes, hbytes, hexact⟩ := convertSignal_eq n
    obtain ⟨out, hout, hlen, hrest⟩ := ih
    refine ⟨bytes :: out, ?_, ?_, ?_⟩
    · rw [List.mapM_cons, hbytes, hout]
      rfl
    · rw [List.length_cons, List.length_cons, hlen]
    · rw [List.map_cons, List.cons.injEq, hexact, hrest, List.forall_mem_cons]

/-- The conversion panics or keeps every value just when it gets the wrong number of inputs or all of
them have at most 32 bytes. -/
theorem convertPublicInputs_exact_iff (n : ℕ) (pubInputs : List ℕ) :
    (∀ out, convertPublicInputs n pubInputs = some out →
      out.toList.map (fun bytes => beNat bytes.toList) = pubInputs) ↔
      pubInputs.length ≠ n ∨ ∀ value ∈ pubInputs, value < 2 ^ 256 := by
  obtain ⟨out, hout, hlen, hexact⟩ := mapM_convertSignal pubInputs
  have hbound : (∀ value ∈ pubInputs, value < 2 ^ 256) ↔ ∀ value ∈ pubInputs, value < 256 ^ 32 := Iff.rfl
  rw [hbound, ← hexact]
  by_cases h : out.length = n
  · subst h
    have hsome : convertPublicInputs out.length pubInputs = some ⟨out.toArray, rfl⟩ := by
      simp [convertPublicInputs, hout]
    rw [hsome]
    constructor
    · intro h
      exact Or.inr (h _ rfl)
    · rintro (hne | hvalues) out' hout'
      · exact absurd hlen.symm hne
      · obtain rfl := Option.some.inj hout'
        exact hvalues
  · have hnone : convertPublicInputs n pubInputs = none := by
      simp [convertPublicInputs, hout, h]
    rw [hnone]
    simp only [reduceCtorEq, false_implies, implies_true, true_iff]
    exact Or.inl (by omega)

/-- The least integer of 33 bytes is converted to `2^248`. -/
theorem convertPublicInputs_truncates :
    ∃ out, convertPublicInputs 1 [2 ^ 256] = some out ∧
      out.toList.map (fun bytes => beNat bytes.toList) = [2 ^ 248] ∧ [2 ^ 248] ≠ [2 ^ 256] := by
  refine ⟨#v[beBytes 32 (2 ^ 248)], ?_, ?_, ?_⟩
  · decide +kernel
  · decide +kernel
  · decide

end Groth16Solana
