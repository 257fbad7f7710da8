import Groth16Solana.Bn254.Curve

/-! # The twist and its subgroup G2

`Fq2` is `Fq` with a square root `u` of `-1`, which `p ≡ 3 (mod 4)` does not have in `Fq`. The twist is
`y² = x³ + 3 / (9 + u)`, and G2 is its subgroup of order `frModulus`. -/

set_option autoImplicit false

namespace Groth16Solana
open Foundations

theorem fq_sq_ne (x : Fq) : x ^ 2 ≠ -1 + 0 * x := by
  intro h
  rw [zero_mul, add_zero] at h
  exact ZMod.mod_four_ne_three_of_sq_eq_neg_one h (by decide +kernel)

instance : Fact (∀ x : Fq, x ^ 2 ≠ -1 + 0 * x) := ⟨fq_sq_ne⟩

/-- `c0 + c1 * u`, with `c0` and `c1` as `re` and `im`. -/
abbrev Fq2 := QuadraticAlgebra Fq (-1) 0

def twistB : Fq2 :=
  ⟨19485874751759354771024239261021720505790618469301721065564631296452457478373,
    266929791119991161246907387137283842545076965332900288569378510910307636690⟩

example : twistB * ⟨9, 1⟩ = 3 := by decide +kernel

abbrev Twist := (mordell twistB).Point

theorem twist_nonsingular {x y : Fq2} (h : y ^ 2 = x ^ 3 + twistB) :
    (mordell twistB).Nonsingular x y := by
  have hdisc : (mordell twistB).Δ ≠ 0 := by decide +kernel
  exact (WeierstrassCurve.Affine.equation_iff_nonsingular_of_Δ_ne_zero hdisc).mp
    (Mordell.equation_iff.mpr h)

/-- The `frModulus`-torsion of the twist. -/
def InG2 (P : Twist) : Prop := frModulus • P = 0

instance : DecidablePred InG2 := fun P => inferInstanceAs (Decidable (frModulus • P = 0))

def g2X : Fq2 :=
  ⟨10857046999023057135944570762232829481370756359578518086990519993285655852781,
    11559732032986387107991004021392285783925812861821192530917403151452391805634⟩

def g2Y : Fq2 :=
  ⟨8495653923123431417604973247489272438418190587263600148770280649306958101930,
    4082367875863433681332203403145435568316851327593401208105741076214120093531⟩

theorem g2_equation : g2Y ^ 2 = g2X ^ 3 + twistB := by decide +kernel

def g2Generator : Twist := .some g2X g2Y (twist_nonsingular g2_equation)

/-- The ladder for `r - 1` ends at the inverse of the generator. -/
theorem ladder_g2Generator :
    (Mordell.ladder g2X g2Y orderBits ⟨g2X, g2Y, 1⟩).any
      (fun T => T.X = g2X * T.Z ∧ T.Y = -g2Y * T.Z) = true := by
  decide +kernel

theorem inG2_generator : InG2 g2Generator := by
  have h2 : (2 : Fq2) ≠ 0 := by decide +kernel
  obtain ⟨T, hrun, hT⟩ := (Option.any_eq_true _ _).mp ladder_g2Generator
  obtain ⟨hX, hY⟩ := of_decide_eq_true hT
  have h := Mordell.succ_nsmul_eq_zero h2 (twist_nonsingular g2_equation) _ hrun hX hY
  rwa [readBits_orderBits] at h

/-- The element with the given components. -/
def fq2Of (c : ℕ × ℕ) : Fq2 := ⟨(c.1 : Fq), (c.2 : Fq)⟩

/-- The four coordinates of a point of G2, `c1` before `c0`. -/
def joinG2 (x y : ℕ × ℕ) : Bytes 128 :=
  Bytes.ofList (beList 32 x.2 ++ beList 32 x.1 ++ (beList 32 y.2 ++ beList 32 y.1)) (by simp)

end Groth16Solana
