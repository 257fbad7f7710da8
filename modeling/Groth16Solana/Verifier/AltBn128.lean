import Groth16Solana.Foundations.Pairing
import Groth16Solana.Bn254.Curve
import Groth16Solana.Verifier.Groth16

/-! # What the verifier assumes of the alt_bn128 syscalls

`AltBn128` states the three syscalls over the group G1 of the curve, a group `G2` and a pairing into
`GT`: byte strings are decoded or refused, results are encoded canonically, and the pairing call
reports whether its product is one. Nothing is said about the points that other byte strings than
the canonical ones decode to. -/

set_option autoImplicit false

namespace Groth16Solana
open Foundations

section Decoding
variable {G2 : Type} (decodeG1 : Bytes 64 → Option G1) (decodeG2 : Bytes 128 → Option G2)

def decodePairs : List (Bytes 64 × Bytes 128) → Option (List (G1 × G2))
  | [] => some []
  | (a, b) :: pairs => do
    let P ← decodeG1 a
    let Q ← decodeG2 b
    let points ← decodePairs pairs
    return (P, Q) :: points

end Decoding

open Classical in
structure AltBn128 (rt : Runtime) (G2 GT : Type) [AddCommGroup G2] [CommGroup GT] where
  decodeG1 : Bytes 64 → Option G1
  decodeG2 : Bytes 128 → Option G2
  e : Pairing G1 G2 GT
  decodeG1_encodeG1 : ∀ P, decodeG1 (encodeG1 P) = some P
  addition : ∀ (a b : Bytes 64) (input : Bytes 128), input.toList = a.toList ++ b.toList →
    rt.altBn128G1Addition input = do
      let P ← decodeG1 a
      let Q ← decodeG1 b
      return encodeG1 (P + Q)
  multiplication : ∀ (a : Bytes 64) (scalar : Bytes 32) (input : Bytes 96),
    input.toList = a.toList ++ scalar.toList →
    rt.altBn128G1Multiplication input = do
      let P ← decodeG1 a
      return encodeG1 (beNat scalar.toList • P)
  pairing : ∀ pairs : List (Bytes 64 × Bytes 128),
    rt.altBn128Pairing (pairBytes pairs) = do
      let points ← decodePairs decodeG1 decodeG2 pairs
      return beBytes 32 (if e.product points = 1 then 1 else 0)

namespace AltBn128

variable {rt : Runtime} {G2 GT : Type} [AddCommGroup G2] [CommGroup GT] (S : AltBn128 rt G2 GT)

/-! ## Group operations -/

theorem g1Add_eq (point acc : Bytes 64) :
    g1Add rt point acc = (do
      let P ← okOr .preparingInputsG1AdditionFailed (S.decodeG1 point)
      let Q ← okOr .preparingInputsG1AdditionFailed (S.decodeG1 acc)
      return encodeG1 (P + Q)) := by
  rw [g1Add, g1AdditionBe, S.addition point acc _ (toList_addInput point acc)]
  cases hP : S.decodeG1 point with
  | none => rfl
  | some P =>
    cases hQ : S.decodeG1 acc with
    | none => rfl
    | some Q => rfl

theorem g1MulAdd_eq (point acc : Bytes 64) (scalar : Bytes 32) :
    g1MulAdd rt point scalar acc = (do
      let P ← okOr .preparingInputsG1MulFailed (S.decodeG1 point)
      let Q ← okOr .preparingInputsG1AdditionFailed (S.decodeG1 acc)
      return encodeG1 (beNat scalar.toList • P + Q)) := by
  rw [g1MulAdd, g1MultiplicationBe, S.multiplication point scalar _ (toList_mulInput point scalar)]
  cases hP : S.decodeG1 point with
  | none => rfl
  | some P =>
    have hadd := S.g1Add_eq (encodeG1 (beNat scalar.toList • P)) acc
    rw [S.decodeG1_encodeG1] at hadd
    exact hadd

theorem g1Add_eq_ok_iff {point acc out : Bytes 64} :
    g1Add rt point acc = .ok out ↔
      ∃ P Q, S.decodeG1 point = some P ∧ S.decodeG1 acc = some Q ∧ out = encodeG1 (P + Q) := by
  rw [S.g1Add_eq]
  cases hP : S.decodeG1 point with
  | none => simp
  | some P =>
    cases hQ : S.decodeG1 acc with
    | none => simp
    | some Q => simp [pure, Except.pure, eq_comm]

theorem g1MulAdd_eq_ok_iff {point acc out : Bytes 64} {scalar : Bytes 32} :
    g1MulAdd rt point scalar acc = .ok out ↔
      ∃ P Q, S.decodeG1 point = some P ∧ S.decodeG1 acc = some Q ∧
        out = encodeG1 (beNat scalar.toList • P + Q) := by
  rw [S.g1MulAdd_eq]
  cases hP : S.decodeG1 point with
  | none => simp
  | some P =>
    cases hQ : S.decodeG1 acc with
    | none => simp
    | some Q => simp [pure, Except.pure, eq_comm]

/-! ## Pairing calls -/

/-- A pairing check passes when all points decode and the product is one. -/
theorem checkPairing_eq_ok_iff {err : Groth16Error} {pairs : List (Bytes 64 × Bytes 128)} :
    checkPairing rt err (pairBytes pairs) = .ok () ↔
      ∃ points, decodePairs S.decodeG1 S.decodeG2 pairs = some points ∧ S.e.product points = 1 := by
  rw [checkPairing, pairingBe, bind_eq_ok]
  simp only [mapErr_eq_ok, okOr_eq_ok, S.pairing pairs, Option.bind_eq_bind,
    Option.bind_eq_some_iff, Option.pure_def, Option.some.injEq]
  constructor
  · rintro ⟨res, ⟨points, hpoints, rfl⟩, hres⟩
    refine ⟨points, hpoints, ?_⟩
    by_contra hne
    rw [if_neg hne, if_pos (by decide)] at hres
    exact absurd hres (by simp)
  · rintro ⟨points, hpoints, hone⟩
    refine ⟨_, ⟨points, hpoints, rfl⟩, ?_⟩
    rw [if_pos hone, if_neg (by decide)]
    rfl

end AltBn128

end Groth16Solana
