import Mathlib.Algebra.Order.BigOperators.Group.Finset
import Mathlib.GroupTheory.Perm.Cycle.Type
import Groth16Solana.Foundations.MordellCurve

/-! # The order of a curve group without Hasse's bound

A curve `y² = x³ + b` over `q` elements has at most `2 * q + 1` points. An element of prime order
`r` with `2 * q + 1 < 3 * r` then leaves the orders `r` and `2 * r`, and the second one needs an
element of order two. -/

set_option autoImplicit false

namespace Foundations

/-- A group with fewer than three times `r` elements, an element of prime order `r` and none of
order two has exactly `r` elements. -/
theorem card_eq_of_addOrderOf_prime {A : Type} [AddCommGroup A] [Finite A] {r : ℕ} (hr : r.Prime)
    (g : A) (hg : addOrderOf g = r) (htwo : ∀ a : A, a + a = 0 → a = 0)
    (hcard : Nat.card A < 3 * r) : Nat.card A = r := by
  obtain ⟨k, hk⟩ : r ∣ Nat.card A := hg ▸ addOrderOf_dvd_natCard g
  have hpos : 0 < Nat.card A := Nat.card_pos
  have hr0 : 0 < r := hr.pos
  have hk3 : k < 3 := by
    rw [hk, Nat.mul_comm] at hcard
    exact Nat.lt_of_mul_lt_mul_right hcard
  have hk0 : k ≠ 0 := by
    rintro rfl
    omega
  have hk2 : k ≠ 2 := by
    rintro rfl
    obtain ⟨a, ha⟩ := exists_prime_addOrderOf_dvd_card' 2 (hk ▸ Dvd.intro_left r rfl)
    have h2a : a + a = 0 := by
      rw [← two_nsmul, ← ha]
      exact addOrderOf_nsmul_eq_zero a
    rw [htwo a h2a, addOrderOf_zero] at ha
    omega
  have hk1 : k = 1 := by omega
  rw [hk, hk1, Nat.mul_one]

namespace Mordell

open WeierstrassCurve.Affine

section Coordinates
variable {F : Type} [Field F] {b : F}

def coordinates : (mordell b).Point → Option (F × F)
  | .zero => none
  | .some x y _ => some (x, y)

theorem coordinates_injective : Function.Injective (coordinates (b := b)) := by
  rintro (_ | ⟨x, y, h⟩) (_ | ⟨x', y', h'⟩) e
  · rfl
  · simp [coordinates] at e
  · simp [coordinates] at e
  · simp only [coordinates, Option.some.injEq, Prod.mk.injEq] at e
    obtain ⟨rfl, rfl⟩ := e
    rfl

instance [Finite F] : Finite (mordell b).Point := Finite.of_injective _ coordinates_injective

end Coordinates

variable {F : Type} [Field F] [DecidableEq F] [Fintype F] {b : F}

def solutions (b : F) : Finset (F × F) := Finset.univ.filter fun xy => xy.2 ^ 2 = xy.1 ^ 3 + b

/-- At most two solutions share an `x` coordinate. -/
theorem card_fibre_le (b x : F) : ((solutions b).filter fun xy => xy.1 = x).card ≤ 2 := by
  by_cases h : ∃ y, (x, y) ∈ solutions b
  · obtain ⟨y, hy⟩ := h
    have hsub : ((solutions b).filter fun xy => xy.1 = x) ⊆ {(x, y), (x, -y)} := by
      rintro ⟨x', y'⟩ hxy
      simp only [solutions, Finset.mem_filter, Finset.mem_univ, true_and] at hxy hy
      obtain ⟨hxy, rfl⟩ := hxy
      have hsq : y' ^ 2 = y ^ 2 := by rw [hxy, hy]
      simpa using sq_eq_sq_iff_eq_or_eq_neg.mp hsq
    exact (Finset.card_le_card hsub).trans Finset.card_le_two
  · have hempty : ((solutions b).filter fun xy => xy.1 = x) = ∅ := by
      refine Finset.filter_eq_empty_iff.mpr ?_
      rintro ⟨x', y'⟩ hxy rfl
      exact h ⟨y', hxy⟩
    simp [hempty]

theorem card_solutions_le (b : F) : (solutions b).card ≤ 2 * Fintype.card F := by
  have h := Finset.card_le_mul_card_image (f := Prod.fst) (solutions b) 2
    (fun x _ => card_fibre_le b x)
  exact h.trans (Nat.mul_le_mul_left 2 (Finset.card_le_univ _))

theorem coordinates_mem (P : (mordell b).Point) :
    coordinates P ∈ Finset.insertNone (solutions b) := by
  rw [Finset.mem_insertNone]
  intro xy hxy
  cases P with
  | zero => simp [coordinates] at hxy
  | some x y h =>
    simp only [coordinates, Option.mem_def, Option.some.injEq] at hxy
    subst hxy
    simpa [solutions] using equation_iff.mp h.1

theorem card_le (b : F) : Nat.card (mordell b).Point ≤ 2 * Fintype.card F + 1 := by
  have hle : Nat.card (mordell b).Point ≤ Nat.card (Finset.insertNone (solutions b)) :=
    Nat.card_le_card_of_injective (fun P => ⟨coordinates P, coordinates_mem P⟩)
      fun P Q h => coordinates_injective (congrArg Subtype.val h)
  have hcard := Nat.card_eq_fintype_card (α := Finset.insertNone (solutions b))
  rw [Fintype.card_coe, Finset.card_insertNone] at hcard
  have := card_solutions_le b
  omega

theorem card_eq_of_order {r : ℕ} (hr : r.Prime) (h2 : (2 : F) ≠ 0) (hb : NoZeroY b)
    (hlt : 2 * Fintype.card F + 1 < 3 * r) {a c : F} (hac : (mordell b).Nonsingular a c)
    (hG : r • Point.some a c hac = 0) : Nat.card (mordell b).Point = r := by
  have : Fact r.Prime := ⟨hr⟩
  refine card_eq_of_addOrderOf_prime hr (Point.some a c hac)
    (addOrderOf_eq_prime hG (Point.some_ne_zero hac)) (fun P hP => ?_) ((card_le b).trans_lt hlt)
  exact eq_zero_of_eq_neg h2 hb P (eq_neg_of_add_eq_zero_left hP)

end Mordell

end Foundations
