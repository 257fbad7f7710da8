import Mathlib.Algebra.Group.Hom.Instances
import Mathlib.Algebra.Group.TypeTags.Hom

/-! # Bilinear pairings

A pairing of two additive groups into a multiplicative one, and what an accepted product of
pairings says: a pair with a negated first argument stands on the other side of an equation. -/

set_option autoImplicit false

namespace Foundations

/-- A bilinear pairing into the multiplicative group `GT`. -/
abbrev Pairing (G1 G2 GT : Type) [AddCommGroup G1] [AddCommGroup G2] [CommGroup GT] :=
  G1 →+ G2 →+ Additive GT

namespace Pairing

variable {G1 G2 GT : Type} [AddCommGroup G1] [AddCommGroup G2] [CommGroup GT]
variable (e : Pairing G1 G2 GT)

/-- The value of the pairing in the multiplicative group. -/
def pair (P : G1) (Q : G2) : GT := (e P Q).toMul

@[simp] theorem pair_zero_left (Q : G2) : e.pair 0 Q = 1 := by simp [pair]

@[simp] theorem pair_neg_left (P : G1) (Q : G2) : e.pair (-P) Q = (e.pair P Q)⁻¹ := by simp [pair]

def product (pairs : List (G1 × G2)) : GT := (pairs.map fun p => e.pair p.1 p.2).prod

/-- Four pairs of which the first is negated: the product is one exactly when the first pair equals
the other three. -/
theorem product_neg_eq_one_iff (A L C α : G1) (B γ δ β : G2) :
    e.product [(-A, B), (L, γ), (C, δ), (α, β)] = 1 ↔
      e.pair A B = e.pair α β * e.pair L γ * e.pair C δ := by
  simp only [product, List.map_cons, List.map_nil, List.prod_cons, List.prod_nil, mul_one,
    pair_neg_left]
  have hmove : e.pair L γ * (e.pair C δ * e.pair α β) = e.pair α β * e.pair L γ * e.pair C δ := by
    rw [← mul_assoc, mul_comm, ← mul_assoc]
  rw [inv_mul_eq_one, hmove]

/-! ## Sums and multiples -/

@[simp] theorem pair_zero_right (P : G1) : e.pair P 0 = 1 := by simp [pair]

theorem pair_add_left (P P' : G1) (Q : G2) : e.pair (P + P') Q = e.pair P Q * e.pair P' Q := by
  simp [pair]

theorem pair_add_right (P : G1) (Q Q' : G2) : e.pair P (Q + Q') = e.pair P Q * e.pair P Q' := by
  simp [pair]

theorem pair_nsmul_left (k : ℕ) (P : G1) (Q : G2) : e.pair (k • P) Q = e.pair P Q ^ k := by
  simp [pair]

theorem pair_nsmul_right (k : ℕ) (P : G1) (Q : G2) : e.pair P (k • Q) = e.pair P Q ^ k := by
  simp [pair]

/-- A multiple moves from one side to the other. -/
theorem pair_nsmul_comm (k : ℕ) (P : G1) (Q : G2) : e.pair (k • P) Q = e.pair P (k • Q) := by
  rw [pair_nsmul_left, pair_nsmul_right]

/-- The pairing with `Q` tells the points of the first group apart. -/
def Separates (Q : G2) : Prop := ∀ P, e.pair P Q = 1 → P = 0

theorem Separates.injective {Q : G2} (hQ : e.Separates Q) {P P' : G1}
    (h : e.pair P Q = e.pair P' Q) : P = P' := by
  have hone : e.pair (P + -P') Q = 1 := by
    rw [pair_add_left, pair_neg_left, h, mul_inv_cancel]
  have hzero := hQ _ hone
  rwa [← sub_eq_add_neg, sub_eq_zero] at hzero

/-- The pairing behind a homomorphism of the second group. -/
def through {H : Type} [AddCommGroup H] (e : Pairing G1 H GT) (φ : G2 →+ H) : Pairing G1 G2 GT :=
  AddMonoidHom.mk' (fun P => (e P).comp φ) (by
    intro P P'
    rw [map_add]
    rfl)

theorem pair_through {H : Type} [AddCommGroup H] (e : Pairing G1 H GT) (φ : G2 →+ H) (P : G1)
    (Q : G2) : (e.through φ).pair P Q = e.pair P (φ Q) := rfl

end Pairing

end Foundations
