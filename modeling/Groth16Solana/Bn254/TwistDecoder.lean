import Groth16Solana.Bn254.Decoder
import Groth16Solana.Bn254.Twist

/-! # The arkworks decoder of G2

Four coordinates, of `x` and then of `y`, each with `c1` first. The flags stand in the top bits of the
first coordinate of `y`. The sign is ignored, as in G1, and a point must lie in the subgroup. -/

set_option autoImplicit false

namespace Groth16Solana
open Foundations

/-- G2 as a group. -/
abbrev G2Group : Type := (nsmulAddMonoidHom frModulus : Twist →+ Twist).ker

def InG2.point {P : Twist} (h : InG2 P) : G2Group := ⟨P, h⟩

/-- The integer of the 32 bytes of the `i`-th coordinate. -/
def coordinateAt {n : ℕ} (bytes : Bytes n) (i : ℕ) : ℕ := beNat ((bytes.toList.drop (32 * i)).take 32)

def fq2 (c0 c1 : ℕ) : Fq2 := ⟨(c0 : Fq), (c1 : Fq)⟩

def arkDecodeG2 (g2 : Bytes 128) : Option G2Group :=
  let flags := coordinateAt g2 2 / 2 ^ 254
  let y1 := coordinateAt g2 2 % 2 ^ 254
  let x := fq2 (coordinateAt g2 1) (coordinateAt g2 0)
  let y := fq2 (coordinateAt g2 3) y1
  if g2 = Bytes.zero 128 then some 0
  else if flags = 3 ∨ fqModulus ≤ coordinateAt g2 0 ∨ fqModulus ≤ coordinateAt g2 1 ∨
      fqModulus ≤ y1 ∨ fqModulus ≤ coordinateAt g2 3 then none
  else if flags = 1 then some 0
  else if h : y ^ 2 = x ^ 3 + twistB then
    if hin : InG2 (.some x y (twist_nonsingular h)) then some hin.point else none
  else none

theorem coordinateAt_zero (i : ℕ) (hi : 32 * i + 32 ≤ 128) :
    coordinateAt (Bytes.zero 128) i = 0 := by
  have hmin : min 32 (128 - 32 * i) = 32 := by omega
  rw [coordinateAt, Bytes.toList_zero, List.drop_replicate, List.take_replicate, hmin,
    beNat_replicate_zero]

/-- Bytes whose coordinates are those of a point decode to it, with the sign or without. -/
theorem arkDecodeG2_of_point {g2 : Bytes 128} {x0 x1 y0 y1 sign : ℕ}
    (hx1 : coordinateAt g2 0 = x1) (hx0 : coordinateAt g2 1 = x0)
    (hy1 : coordinateAt g2 2 = 2 ^ 254 * sign + y1) (hy0 : coordinateAt g2 3 = y0)
    (hsign : sign = 0 ∨ sign = 2) (hlt : x0 < fqModulus ∧ x1 < fqModulus ∧ y0 < fqModulus ∧ y1 < fqModulus)
    (h : fq2 y0 y1 ^ 2 = fq2 x0 x1 ^ 3 + twistB)
    (hin : InG2 (.some (fq2 x0 x1) (fq2 y0 y1) (twist_nonsingular h))) :
    arkDecodeG2 g2 = some hin.point := by
  obtain ⟨hx0lt, hx1lt, hy0lt, hy1lt⟩ := hlt
  have hbits := fqModulus_lt
  have hflags : (2 ^ 254 * sign + y1) / 2 ^ 254 = sign := by omega
  have hy : (2 ^ 254 * sign + y1) % 2 ^ 254 = y1 := by omega
  have hne : g2 ≠ Bytes.zero 128 := by
    rintro rfl
    rw [coordinateAt_zero _ (by decide)] at hx1 hx0 hy1 hy0
    obtain rfl : y1 = 0 := by omega
    subst hx1 hx0 hy0
    have hzero : ¬ fq2 0 0 ^ 2 = fq2 0 0 ^ 3 + twistB := by decide +kernel
    exact hzero h
  unfold arkDecodeG2
  simp only [hx1, hx0, hy1, hy0, hflags, hy]
  rw [if_neg hne, if_neg (by omega), if_neg (by omega), dif_pos h, dif_pos hin]

/-- The same in G1. -/
theorem arkDecodeG1_of_point {g1 : Bytes 64} {x y sign : ℕ} (hx : coordinateAt g1 0 = x)
    (hy : coordinateAt g1 1 = 2 ^ 254 * sign + y) (hsign : sign = 0 ∨ sign = 2) (h : OnCurve x y) :
    arkDecodeG1 g1 = some (.some (x : Fq) (y : Fq) h.nonsingular) := by
  have hbits := fqModulus_lt
  have hxlt := h.x_lt
  have hylt := h.y_lt
  have hflags : (2 ^ 254 * sign + y) / 2 ^ 254 = sign := by omega
  have hmod : (2 ^ 254 * sign + y) % 2 ^ 254 = y := by omega
  have hne : g1 ≠ Bytes.zero 64 := by
    rintro rfl
    have hzero : coordinateAt (Bytes.zero 64) 1 = 0 := by decide
    have hpos := h.y_pos
    omega
  have hx' : beNat (g1.toList.take 32) = x := hx
  have hy' : beNat (g1.toList.drop 32) = 2 ^ 254 * sign + y := by
    rw [← hy, coordinateAt, List.take_of_length_le (by simp)]
  unfold arkDecodeG1
  simp only [hx', hy', hflags, hmod]
  rw [if_neg hne, if_neg (by omega), if_neg (by omega), dif_pos (nonsingular_iff.mp h.nonsingular)]

/-! ## Points and their bytes -/

theorem coordinateAt_of_append {n : ℕ} {bytes : Bytes n} (i : ℕ) {before block after : List UInt8}
    (h : bytes.toList = before ++ (block ++ after)) (hbefore : before.length = 32 * i)
    (hblock : block.length = 32) : coordinateAt bytes i = beNat block := by
  rw [coordinateAt, h, List.drop_left' hbefore, List.take_left' hblock]

/-- The coordinates are those of a point of G2. -/
structure OnTwist (x y : ℕ × ℕ) : Prop where
  x_lt : x.1 < fqModulus ∧ x.2 < fqModulus
  y_lt : y.1 < fqModulus ∧ y.2 < fqModulus
  equation : fq2Of y ^ 2 = fq2Of x ^ 3 + twistB
  inG2 : InG2 (.some (fq2Of x) (fq2Of y) (twist_nonsingular equation))

/-- The four coordinates of a point of G2, with the sign or without. -/
theorem arkDecodeG2_of_blocks {bytes : Bytes 128} {x y : ℕ × ℕ} {block : List UInt8} {sign : ℕ}
    (hbytes : bytes.toList = beList 32 x.2 ++ beList 32 x.1 ++ (block ++ beList 32 y.1))
    (hblock : block.length = 32) (hy1 : beNat block = 2 ^ 254 * sign + y.2)
    (hsign : sign = 0 ∨ sign = 2) (h : OnTwist x y) : arkDecodeG2 bytes = some h.inG2.point := by
  have hp := fqModulus_lt_bytes
  have h0 : bytes.toList = [] ++ (beList 32 x.2 ++ (beList 32 x.1 ++ (block ++ beList 32 y.1))) := by
    rw [hbytes, List.append_assoc, List.nil_append]
  have h1 : bytes.toList = beList 32 x.2 ++ (beList 32 x.1 ++ (block ++ beList 32 y.1)) := h0
  have h3 : bytes.toList = (beList 32 x.2 ++ beList 32 x.1 ++ block) ++ (beList 32 y.1 ++ []) := by
    rw [hbytes, List.append_nil, List.append_assoc _ block]
  have hx1 := coordinateAt_of_append 0 h0 rfl (beList_length 32 x.2)
  have hx0 := coordinateAt_of_append 1 h1 (beList_length 32 x.2) (beList_length 32 x.1)
  have hflagged := coordinateAt_of_append 2 hbytes (by simp) hblock
  have hy0 := coordinateAt_of_append 3 h3 (by simp [hblock]) (beList_length 32 y.1)
  rw [beNat_beList_of_lt (h.x_lt.2.trans hp)] at hx1
  rw [beNat_beList_of_lt (h.x_lt.1.trans hp)] at hx0
  rw [beNat_beList_of_lt (h.y_lt.1.trans hp)] at hy0
  exact arkDecodeG2_of_point hx1 hx0 (hflagged.trans hy1) hy0 hsign
    ⟨h.x_lt.1, h.x_lt.2, h.y_lt.1, h.y_lt.2⟩ h.equation h.inG2

def encodeTwist : Twist → Bytes 128
  | .zero => Bytes.zero 128
  | .some x y _ => joinG2 (x.re.val, x.im.val) (y.re.val, y.im.val)

def encodeG2 (Q : G2Group) : Bytes 128 := encodeTwist Q.1

theorem arkDecodeG2_zero : arkDecodeG2 (Bytes.zero 128) = some 0 := by rw [arkDecodeG2, if_pos rfl]

theorem arkDecodeG2_encodeG2 (Q : G2Group) : arkDecodeG2 (encodeG2 Q) = some Q := by
  obtain ⟨P, hP⟩ := Q
  cases P with
  | zero => exact arkDecodeG2_zero
  | some x y hxy =>
    have hx : fq2Of (x.re.val, x.im.val) = x := by simp [fq2Of]
    have hy : fq2Of (y.re.val, y.im.val) = y := by simp [fq2Of]
    have hequation : fq2Of (y.re.val, y.im.val) ^ 2 = fq2Of (x.re.val, x.im.val) ^ 3 + twistB := by
      rw [hx, hy]
      exact Mordell.equation_iff.mp hxy.1
    have hpoint : WeierstrassCurve.Affine.Point.some _ _ (twist_nonsingular hequation) =
        .some x y hxy := by
      simp only [hx, hy]
    have hin : InG2 (.some _ _ (twist_nonsingular hequation)) := by
      rw [hpoint]
      exact hP
    have h : OnTwist (x.re.val, x.im.val) (y.re.val, y.im.val) :=
      ⟨⟨x.re.val_lt, x.im.val_lt⟩, ⟨y.re.val_lt, y.im.val_lt⟩, hequation, hin⟩
    have hvalue : beNat (beList 32 y.im.val) = 2 ^ 254 * 0 + y.im.val := by
      rw [beNat_beList_of_lt (y.im.val_lt.trans fqModulus_lt_bytes), Nat.mul_zero, Nat.zero_add]
    have hdecode : arkDecodeG2 (joinG2 (x.re.val, x.im.val) (y.re.val, y.im.val)) = some h.inG2.point :=
      arkDecodeG2_of_blocks rfl (beList_length 32 y.im.val) hvalue (Or.inl rfl) h
    exact hdecode.trans (congrArg some (Subtype.ext hpoint))

end Groth16Solana
