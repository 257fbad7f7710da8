import Groth16Solana.Bn254.Curve

/-! # The arkworks decoder behind the syscalls

64 zero bytes are the identity. Otherwise the two top bits of the second coordinate are flags: the
lower one marks the identity, the upper one (the sign of `y`) is ignored for uncompressed points,
both together are refused, and the coordinates must be canonical and on the curve. -/

set_option autoImplicit false

namespace Groth16Solana
open Foundations

def arkDecodeG1 (g1 : Bytes 64) : Option G1 :=
  let x := beNat (g1.toList.take 32)
  let flags := beNat (g1.toList.drop 32) / 2 ^ 254
  let y := beNat (g1.toList.drop 32) % 2 ^ 254
  if g1 = Bytes.zero 64 then some 0
  else if flags = 3 ∨ fqModulus ≤ x ∨ fqModulus ≤ y then none
  else if flags = 1 then some 0
  else if h : (y : Fq) ^ 2 = (x : Fq) ^ 3 + curveB then
    some (.some (x : Fq) (y : Fq) (nonsingular_iff.mpr h))
  else none

theorem arkDecodeG1_zero : arkDecodeG1 (Bytes.zero 64) = some 0 := by
  simp only [arkDecodeG1, if_true]

theorem arkDecodeG1_joinG1 {x y : ℕ} (h : OnCurve x y) :
    arkDecodeG1 (joinG1 x y) = some (.some (x : Fq) (y : Fq) h.nonsingular) := by
  have hb := fqModulus_lt_bytes
  have hy254 : y < 2 ^ 254 := h.y_lt.trans fqModulus_lt
  have hx : beNat ((joinG1 x y).toList.take 32) = x := by
    rw [toList_joinG1, List.take_left' (beList_length 32 x), beNat_beList_of_lt (h.x_lt.trans hb)]
  have hy : beNat ((joinG1 x y).toList.drop 32) = y := by
    rw [toList_joinG1, List.drop_left' (beList_length 32 x), beNat_beList_of_lt (h.y_lt.trans hb)]
  have hflags : y / 2 ^ 254 = 0 := Nat.div_eq_of_lt hy254
  have hxp := h.x_lt
  have hyp := h.y_lt
  unfold arkDecodeG1
  simp only [hx, hy, hflags, Nat.mod_eq_of_lt hy254]
  rw [if_neg (joinG1_ne_zero h), if_neg (by omega), if_neg (by decide),
    dif_pos (nonsingular_iff.mp h.nonsingular)]

theorem arkDecodeG1_encodeG1 (P : G1) : arkDecodeG1 (encodeG1 P) = some P := by
  cases P with
  | zero => exact arkDecodeG1_zero
  | some x y hxy =>
    have h := onCurve_val hxy
    rw [encodeG1, arkDecodeG1_joinG1 h]
    simp only [ZMod.natCast_zmod_val]

end Groth16Solana
