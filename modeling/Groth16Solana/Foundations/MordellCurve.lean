import Mathlib.AlgebraicGeometry.EllipticCurve.Affine.Point
import Mathlib.Tactic.FieldSimp
import Mathlib.Tactic.LinearCombination

/-! # The curves `y² = x³ + b`

The group of `y² = x³ + b` over a field in which two is invertible and `-b` is not a cube, so that
no point has `y = 0`: every solution is a nonsingular point and the group has no element of order
two. A double-and-add ladder on homogeneous coordinates computes multiples without inversions. -/

set_option autoImplicit false

namespace Foundations

open WeierstrassCurve.Affine

variable {F : Type} [Field F]

def mordell (b : F) : WeierstrassCurve.Affine F := ⟨0, 0, 0, 0, b⟩

namespace Mordell

variable {b : F}

theorem equation_iff {x y : F} : (mordell b).Equation x y ↔ y ^ 2 = x ^ 3 + b := by
  rw [WeierstrassCurve.Affine.equation_iff]
  simp [mordell]

@[simp] theorem negY_eq (x y : F) : (mordell b).negY x y = -y := by simp [negY, mordell]

/-- `-b` is not a cube: no point of the curve has `y = 0`. -/
def NoZeroY (b : F) : Prop := ∀ x : F, x ^ 3 + b ≠ 0

theorem y_ne_zero (hb : NoZeroY b) {x y : F} (h : (mordell b).Equation x y) : y ≠ 0 := by
  rintro rfl
  rw [equation_iff] at h
  exact hb x (by rw [← h]; ring)

theorem nonsingular_iff (h2 : (2 : F) ≠ 0) (hb : NoZeroY b) {x y : F} :
    (mordell b).Nonsingular x y ↔ y ^ 2 = x ^ 3 + b := by
  rw [WeierstrassCurve.Affine.nonsingular_iff, equation_iff]
  refine and_iff_left_of_imp fun h => Or.inr ?_
  have hy : y ≠ 0 := y_ne_zero hb (equation_iff.mpr h)
  have h2y : y - -y = 2 * y := by ring
  simp only [mordell, zero_mul, sub_zero, ne_eq]
  rw [← sub_eq_zero, h2y]
  exact mul_ne_zero h2 hy

theorem eq_zero_of_eq_neg (h2 : (2 : F) ≠ 0) (hb : NoZeroY b) (P : (mordell b).Point)
    (h : P = -P) : P = 0 := by
  cases P with
  | zero => rfl
  | some x y hxy =>
    exfalso
    rw [Point.neg_some, Point.some.injEq, negY_eq] at h
    have hy : 2 * y = 0 := by linear_combination h.2
    exact (mul_ne_zero h2 (y_ne_zero hb hxy.1)) hy

/-! ## Homogeneous coordinates -/

/-- A triple `(X : Y : Z)` with `Z ≠ 0` that stands for the affine point `(X / Z, Y / Z)`. -/
structure Homogeneous (F : Type) where
  X : F
  Y : F
  Z : F
deriving DecidableEq

/-- The triple is a point of the curve in homogeneous coordinates. -/
def Represents (P : (mordell b).Point) (T : Homogeneous F) : Prop :=
  ∃ (x y : F) (h : (mordell b).Nonsingular x y),
    P = .some x y h ∧ T.Z ≠ 0 ∧ T.X = x * T.Z ∧ T.Y = y * T.Z

def double (T : Homogeneous F) : Homogeneous F :=
  let s := (T.Y + T.Y) * T.Z
  let w := (T.X + T.X + T.X) * T.X
  let t := T.X * T.Y * T.Y * T.Z
  ⟨s * (w * w - 8 * t), w * (12 * t - w * w) - 8 * T.Y * T.Y * T.Y * T.Y * T.Z * T.Z, s * s * s⟩

/-- The sum of a point and the affine point `(a, c)` with another `x` coordinate. -/
def addAffine (T : Homogeneous F) (a c : F) : Homogeneous F :=
  let u := T.Y - c * T.Z
  let v := T.X - a * T.Z
  let d := u * u * T.Z - v * v * (T.X + a * T.Z)
  ⟨v * d, u * (v * v * a * T.Z - d) - c * v * v * v * T.Z, v * v * v * T.Z⟩

variable [DecidableEq F]

/-- The tangent step of the group law. -/
theorem add_self_eq (h2 : (2 : F) ≠ 0) {x y : F} (h : (mordell b).Nonsingular x y) (hy : y ≠ 0) :
    ∃ ℓ, ℓ * (2 * y) = 3 * x * x ∧ ∃ h', Point.some x y h + Point.some x y h =
      Point.some (ℓ * ℓ - 2 * x) (ℓ * (x - (ℓ * ℓ - 2 * x)) - y) h' := by
  have hyy : y - -y ≠ 0 := by
    rw [sub_neg_eq_add, ← two_mul]
    exact mul_ne_zero h2 hy
  have hne : y ≠ (mordell b).negY x y := by
    rw [negY_eq]
    exact fun e => hyy (sub_eq_zero.mpr e)
  have hslope : (mordell b).slope x x y y = _ := slope_of_Y_ne rfl hne
  rw [negY_eq] at hslope
  generalize hℓ : (mordell b).slope x x y y = ℓ at hslope
  have hsum : Point.some x y h + Point.some x y h = _ := Point.add_self_of_Y_ne hne
  have hX : (mordell b).addX x x ((mordell b).slope x x y y) = ℓ * ℓ - 2 * x := by
    rw [hℓ]
    simp only [addX, mordell]
    ring
  have hY : (mordell b).addY x x y ((mordell b).slope x x y y) =
      ℓ * (x - (ℓ * ℓ - 2 * x)) - y := by
    rw [addY, negAddY, hX, hℓ, negY_eq]
    ring
  refine ⟨ℓ, ?_, ?_⟩
  · have e : ℓ * (y - -y) = 3 * x ^ 2 := by
      rw [hslope, div_mul_cancel₀ _ hyy]
      simp [mordell]
    linear_combination e
  · simp only [hX, hY] at hsum
    exact ⟨_, hsum⟩

/-- The chord step of the group law. -/
theorem add_eq {x y a c : F} (h : (mordell b).Nonsingular x y) (h' : (mordell b).Nonsingular a c)
    (hx : x ≠ a) :
    ∃ ℓ, ℓ * (x - a) = y - c ∧ ∃ h'', Point.some x y h + Point.some a c h' =
      Point.some (ℓ * ℓ - x - a) (ℓ * (a - (ℓ * ℓ - x - a)) - c) h'' := by
  have hxa : x - a ≠ 0 := sub_ne_zero.mpr hx
  have hslope : (mordell b).slope x a y c = _ := slope_of_X_ne hx
  generalize hℓ : (mordell b).slope x a y c = ℓ at hslope
  have hmul : ℓ * (x - a) = y - c := by rw [hslope, div_mul_cancel₀ _ hxa]
  have hsum : Point.some x y h + Point.some a c h' = _ := Point.add_of_X_ne hx
  have hX : (mordell b).addX x a ((mordell b).slope x a y c) = ℓ * ℓ - x - a := by
    rw [hℓ]
    simp only [addX, mordell]
    ring
  have hY : (mordell b).addY x a y ((mordell b).slope x a y c) =
      ℓ * (a - (ℓ * ℓ - x - a)) - c := by
    rw [addY, negAddY, hX, hℓ, negY_eq]
    linear_combination hmul
  refine ⟨ℓ, hmul, ?_⟩
  simp only [hX, hY] at hsum
  exact ⟨_, hsum⟩

theorem double_represents (h2 : (2 : F) ≠ 0) {P : (mordell b).Point} {T : Homogeneous F}
    (h : Represents P T) (hY : T.Y ≠ 0) : Represents (P + P) (double T) := by
  obtain ⟨x, y, hxy, rfl, hZ, hX, hYe⟩ := h
  have hy : y ≠ 0 := by
    rintro rfl
    exact hY (by rw [hYe, zero_mul])
  obtain ⟨ℓ, hℓ, h', hsum⟩ := add_self_eq h2 hxy hy
  have hs : (T.Y + T.Y) * T.Z ≠ 0 := mul_ne_zero (two_mul T.Y ▸ mul_ne_zero h2 hY) hZ
  have hw : (T.X + T.X + T.X) * T.X = ℓ * ((T.Y + T.Y) * T.Z) := by
    rw [hX, hYe]
    linear_combination -(T.Z * T.Z) * hℓ
  refine ⟨_, _, h', hsum, mul_ne_zero (mul_ne_zero hs hs) hs, ?_, ?_⟩
  · simp only [double, hw]
    rw [hX, hYe]
    ring
  · simp only [double, hw]
    rw [hX, hYe]
    ring

theorem addAffine_represents {P : (mordell b).Point} {T : Homogeneous F} {a c : F}
    (h : Represents P T) (h' : (mordell b).Nonsingular a c) (hne : T.X - a * T.Z ≠ 0) :
    Represents (P + .some a c h') (addAffine T a c) := by
  obtain ⟨x, y, hxy, rfl, hZ, hX, hY⟩ := h
  have hx : x ≠ a := by
    rintro rfl
    exact hne (sub_eq_zero.mpr hX)
  obtain ⟨ℓ, hℓ, h'', hsum⟩ := add_eq hxy h' hx
  have hu : T.Y - c * T.Z = ℓ * (T.X - a * T.Z) := by
    rw [hX, hY]
    linear_combination -T.Z * hℓ
  refine ⟨_, _, h'', hsum, mul_ne_zero (mul_ne_zero (mul_ne_zero hne hne) hne) hZ, ?_, ?_⟩
  · simp only [addAffine, hu]
    rw [hX]
    ring
  · simp only [addAffine, hu]
    rw [hX]
    ring

/-! ## Double and add -/

/-- One step of the ladder: double, then add the base point on a set bit; `none` when a formula
does not apply. -/
def ladderStep (a c : F) (T : Homogeneous F) (bit : Bool) : Option (Homogeneous F) :=
  if T.Y = 0 then none
  else if bit then
    if (double T).X - a * (double T).Z = 0 then none else some (addAffine (double T) a c)
  else some (double T)

/-- The ladder over the bits of the scalar below its leading one, most significant first. -/
def ladder (a c : F) : List Bool → Homogeneous F → Option (Homogeneous F)
  | [], T => some T
  | bit :: bits, T => (ladderStep a c T bit).bind (ladder a c bits)

def readBits (n : ℕ) (bits : List Bool) : ℕ := bits.foldl (fun n bit => 2 * n + bit.toNat) n

theorem ladderStep_represents (h2 : (2 : F) ≠ 0) {a c : F} (hac : (mordell b).Nonsingular a c)
    {n : ℕ} {T T' : Homogeneous F} {bit : Bool} (h : Represents (n • Point.some a c hac) T)
    (hstep : ladderStep a c T bit = some T') :
    Represents ((2 * n + bit.toNat) • Point.some a c hac) T' := by
  unfold ladderStep at hstep
  by_cases hY : T.Y = 0
  · simp [hY] at hstep
  · have hd := double_represents h2 h hY
    rw [← add_nsmul, ← two_mul] at hd
    rw [if_neg hY] at hstep
    cases bit with
    | false =>
      rw [if_neg (by decide), Option.some.injEq] at hstep
      subst hstep
      simpa using hd
    | true =>
      rw [if_pos rfl] at hstep
      by_cases hX : (double T).X - a * (double T).Z = 0
      · simp [hX] at hstep
      · rw [if_neg hX, Option.some.injEq] at hstep
        subst hstep
        have ha := addAffine_represents hd hac hX
        rwa [Bool.toNat_true, add_nsmul, one_nsmul]

/-- A ladder that runs to its end computes the multiple its bits spell. -/
theorem ladder_represents (h2 : (2 : F) ≠ 0) {a c : F} (hac : (mordell b).Nonsingular a c)
    (bits : List Bool) {n : ℕ} {T T' : Homogeneous F}
    (h : Represents (n • Point.some a c hac) T) (hrun : ladder a c bits T = some T') :
    Represents (readBits n bits • Point.some a c hac) T' := by
  induction bits generalizing n T with
  | nil =>
    rw [ladder, Option.some.injEq] at hrun
    exact hrun ▸ h
  | cons bit bits ih =>
    obtain ⟨T₁, hstep, hrest⟩ := Option.bind_eq_some_iff.mp hrun
    exact ih (ladderStep_represents h2 hac h hstep) hrest

theorem represents_base {a c : F} (hac : (mordell b).Nonsingular a c) :
    Represents (1 • Point.some a c hac) ⟨a, c, 1⟩ := by
  refine ⟨a, c, hac, one_nsmul _, one_ne_zero, ?_, ?_⟩ <;> simp

/-- A multiple that the ladder finds at the negated base point is one short of the order. -/
theorem succ_nsmul_eq_zero (h2 : (2 : F) ≠ 0) {a c : F} (hac : (mordell b).Nonsingular a c)
    (bits : List Bool) {T : Homogeneous F} (hrun : ladder a c bits ⟨a, c, 1⟩ = some T)
    (hX : T.X = a * T.Z) (hY : T.Y = -c * T.Z) :
    (readBits 1 bits + 1) • Point.some a c hac = 0 := by
  obtain ⟨x, y, hxy, hP, hZ, hTX, hTY⟩ := ladder_represents h2 hac bits (represents_base hac) hrun
  have hx : x = a := mul_right_cancel₀ hZ (hTX.symm.trans hX)
  have hy : y = -c := mul_right_cancel₀ hZ (hTY.symm.trans hY)
  subst hx hy
  rw [add_nsmul, one_nsmul, hP]
  exact Point.add_of_Y_eq rfl (by rw [negY_eq])

end Mordell

end Foundations
