import Mathlib
import Groth16Solana.Foundations.BigEndian
import Groth16Solana.Foundations.PointCount
import Groth16Solana.Bn254.Moduli

/-! # The group G1 and its byte encoding

G1 is the whole curve `y² = x³ + 3` over `Fq`. Its order is `frModulus`: the generator `(1, 2)` has
that order by a ladder the kernel runs, and the curve has no room for a larger group. A point is
stored as its two coordinates, 32 big-endian bytes each, and the identity as 64 zero bytes. -/

set_option autoImplicit false

namespace Groth16Solana
open Foundations

abbrev Fq := ZMod fqModulus

abbrev curveB : Fq := 3

abbrev G1 := (mordell curveB).Point

theorem fq_two_ne_zero : (2 : Fq) ≠ 0 := by decide +kernel

theorem negThree_pow_ne_one : (-3 : Fq) ^ ((fqModulus - 1) / 3) ≠ 1 := by
  have hcast : (-3 : Fq) = ((fqModulus - 3 : ℕ) : Fq) := by decide +kernel
  rw [hcast, ne_eq, natCast_pow_eq_one_iff fqModulus_prime.one_lt,
    ← powMod_eq fqModulus 254 _ _ (by decide +kernel)]
  decide +kernel

/-- `-3` is not a cube: its power `(p - 1) / 3` is not one. -/
theorem noZeroY : Mordell.NoZeroY (3 : Fq) := by
  intro x hx
  have hcube : x ^ 3 = -3 := eq_neg_of_add_eq_zero_left hx
  have hx0 : x ≠ 0 := by
    rintro rfl
    exact absurd hcube (by decide +kernel)
  have hfermat : x ^ (fqModulus - 1) = 1 := ZMod.pow_card_sub_one_eq_one hx0
  have hsplit : fqModulus - 1 = 3 * ((fqModulus - 1) / 3) := by decide +kernel
  rw [hsplit, pow_mul, hcube] at hfermat
  exact negThree_pow_ne_one hfermat

theorem nonsingular_iff {x y : Fq} : (mordell curveB).Nonsingular x y ↔ y ^ 2 = x ^ 3 + curveB :=
  Mordell.nonsingular_iff fq_two_ne_zero noZeroY

theorem nonsingular_generator : (mordell (3 : Fq)).Nonsingular 1 2 :=
  nonsingular_iff.mpr (by norm_num)

def g1Generator : G1 := .some 1 2 nonsingular_generator

/-- The `k` low bits of `n`, most significant first. -/
def bitsBelow : ℕ → ℕ → List Bool
  | 0, _ => []
  | k + 1, n => n.testBit k :: bitsBelow k n

/-- The scalar `r - 1` below its leading bit. -/
def orderBits : List Bool := bitsBelow 253 (frModulus - 1)

theorem readBits_orderBits : Mordell.readBits 1 orderBits + 1 = frModulus := by decide +kernel

/-- The ladder for `r - 1` ends at the inverse of the generator. -/
theorem ladder_generator :
    (Mordell.ladder (1 : Fq) 2 orderBits ⟨1, 2, 1⟩).any
      (fun T => T.X = 1 * T.Z ∧ T.Y = -2 * T.Z) = true := by
  decide +kernel

theorem frModulus_nsmul_generator : frModulus • g1Generator = 0 := by
  obtain ⟨T, hrun, hT⟩ := (Option.any_eq_true _ _).mp ladder_generator
  obtain ⟨hX, hY⟩ := of_decide_eq_true hT
  have h := Mordell.succ_nsmul_eq_zero fq_two_ne_zero nonsingular_generator _ hrun hX hY
  rwa [readBits_orderBits] at h

theorem card_g1 : Nat.card G1 = frModulus := by
  refine Mordell.card_eq_of_order frModulus_prime fq_two_ne_zero noZeroY ?_ nonsingular_generator
    frModulus_nsmul_generator
  rw [ZMod.card]
  decide +kernel

theorem frModulus_nsmul (P : G1) : frModulus • P = 0 := by
  rw [← card_g1]
  exact card_nsmul_eq_zero'

theorem addOrderOf_eq {P : G1} (hP : P ≠ 0) : addOrderOf P = frModulus :=
  addOrderOf_eq_prime (frModulus_nsmul P) hP

/-- Multiples of a point depend on the scalar modulo the group order. -/
theorem nsmul_mod (n : ℕ) (P : G1) : (n % frModulus) • P = n • P := by
  conv_rhs => rw [← Nat.mod_add_div n frModulus, add_nsmul, mul_nsmul, frModulus_nsmul, nsmul_zero, add_zero]

theorem nsmul_eq_iff {n m : ℕ} {P : G1} (hP : P ≠ 0) :
    n • P = m • P ↔ n % frModulus = m % frModulus := by
  rw [nsmul_eq_nsmul_iff_modEq, addOrderOf_eq hP, Nat.ModEq]

/-! ## Encoding -/

/-- `BE32(x) || BE32(y)`. -/
def joinG1 (x y : ℕ) : Bytes 64 := Bytes.ofList (beList 32 x ++ beList 32 y) (by simp)

def encodeG1 : G1 → Bytes 64
  | .zero => Bytes.zero 64
  | .some x y _ => joinG1 x.val y.val

/-- The integer coordinates of a point on the curve. -/
structure OnCurve (x y : ℕ) : Prop where
  x_lt : x < fqModulus
  y_lt : y < fqModulus
  equation : y ^ 2 % fqModulus = (x ^ 3 + 3) % fqModulus

/-- The canonical encodings: 64 zero bytes, or the coordinates of a point on the curve. -/
def CanonicalG1 (g1 : Bytes 64) : Prop :=
  g1 = Bytes.zero 64 ∨ ∃ x y, OnCurve x y ∧ g1 = joinG1 x y

@[simp] theorem toList_joinG1 (x y : ℕ) : (joinG1 x y).toList = beList 32 x ++ beList 32 y := rfl

@[simp] theorem encodeG1_zero : encodeG1 0 = Bytes.zero 64 := rfl

theorem fqModulus_lt_bytes : fqModulus < 256 ^ 32 := by decide +kernel

theorem joinG1_inj {x y x' y' : ℕ} (hx : x < fqModulus) (hy : y < fqModulus) (hx' : x' < fqModulus)
    (hy' : y' < fqModulus) (h : joinG1 x y = joinG1 x' y') : x = x' ∧ y = y' := by
  have hb := fqModulus_lt_bytes
  have hl := congrArg Vector.toList h
  rw [toList_joinG1, toList_joinG1] at hl
  obtain ⟨h₁, h₂⟩ := List.append_inj hl (by simp)
  exact ⟨beList_inj (hx.trans hb) (hx'.trans hb) h₁, beList_inj (hy.trans hb) (hy'.trans hb) h₂⟩

theorem OnCurve.nonsingular {x y : ℕ} (h : OnCurve x y) :
    (mordell (3 : Fq)).Nonsingular (x : Fq) (y : Fq) := by
  rw [nonsingular_iff, curveB]
  exact_mod_cast (ZMod.natCast_eq_natCast_iff' _ _ _).mpr h.equation

theorem onCurve_val {x y : Fq} (h : (mordell (3 : Fq)).Nonsingular x y) : OnCurve x.val y.val := by
  refine ⟨x.val_lt, y.val_lt, (ZMod.natCast_eq_natCast_iff' _ _ _).mp ?_⟩
  push_cast [ZMod.natCast_zmod_val]
  exact nonsingular_iff.mp h

theorem OnCurve.y_pos {x y : ℕ} (h : OnCurve x y) : 0 < y := by
  refine Nat.pos_of_ne_zero ?_
  rintro rfl
  exact Mordell.y_ne_zero noZeroY h.nonsingular.1 (by simp)

theorem encodeG1_of_onCurve {x y : ℕ} (h : OnCurve x y) :
    encodeG1 (.some (x : Fq) (y : Fq) h.nonsingular) = joinG1 x y := by
  rw [encodeG1, ZMod.val_natCast_of_lt h.x_lt, ZMod.val_natCast_of_lt h.y_lt]

theorem canonicalG1_iff {g1 : Bytes 64} : CanonicalG1 g1 ↔ ∃ P, encodeG1 P = g1 := by
  constructor
  · rintro (rfl | ⟨x, y, h, rfl⟩)
    · exact ⟨0, encodeG1_zero⟩
    · exact ⟨_, encodeG1_of_onCurve h⟩
  · rintro ⟨P, rfl⟩
    cases P with
    | zero => exact Or.inl rfl
    | some x y h => exact Or.inr ⟨_, _, onCurve_val h, rfl⟩

theorem joinG1_ne_zero {x y : ℕ} (h : OnCurve x y) : joinG1 x y ≠ Bytes.zero 64 := by
  intro e
  have hp := h.y_pos
  have hzero : Bytes.zero 64 = joinG1 0 0 := by decide
  obtain ⟨-, hy⟩ := joinG1_inj h.x_lt h.y_lt fqModulus_prime.pos fqModulus_prime.pos (e.trans hzero)
  omega

theorem encodeG1_injective : Function.Injective encodeG1 := by
  rintro (_ | ⟨x, y, h⟩) (_ | ⟨x', y', h'⟩) e
  · rfl
  · exact absurd e.symm (joinG1_ne_zero (onCurve_val h'))
  · exact absurd e (joinG1_ne_zero (onCurve_val h))
  · obtain ⟨hx, hy⟩ := joinG1_inj x.val_lt y.val_lt x'.val_lt y'.val_lt e
    obtain rfl := ZMod.val_injective _ hx
    obtain rfl := ZMod.val_injective _ hy
    rfl

theorem encodeG1_neg {x y : ℕ} (h : OnCurve x y) :
    encodeG1 (-.some (x : Fq) (y : Fq) h.nonsingular) = joinG1 x (fqModulus - y) := by
  have hy : (-(y : Fq)).val = fqModulus - y := by
    have hne : (y : Fq) ≠ 0 := Mordell.y_ne_zero noZeroY h.nonsingular.1
    rw [ZMod.neg_val, if_neg hne, ZMod.val_natCast_of_lt h.y_lt]
  rw [WeierstrassCurve.Affine.Point.neg_some]
  simp only [encodeG1, Mordell.negY_eq, hy, ZMod.val_natCast_of_lt h.x_lt]

end Groth16Solana
