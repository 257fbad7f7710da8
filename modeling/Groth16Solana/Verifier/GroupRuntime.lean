import Mathlib.Algebra.Module.ZMod
import Mathlib.LinearAlgebra.Basis.VectorSpace
import Mathlib.LinearAlgebra.Dual.Lemmas
import Groth16Solana.Bn254.TwistDecoder
import Groth16Solana.Verifier.Reference

/-! # A runtime over the two groups

The reference runtime with G2 for its second group and the arkworks decoder for both. The pairing goes
through a functional of G2, which is one at the generator. -/

set_option autoImplicit false

namespace Groth16Solana
open Foundations

/-! ## Any second group -/

section
variable {G2 GT : Type} [AddCommGroup G2] [CommGroup GT] (decodeG2 : Bytes 128 → Option G2)
  (e : Pairing G1 G2 GT)

open Classical in
noncomputable def groupRuntime : Runtime :=
  { referenceRuntime with
    altBn128Pairing := fun input =>
      if input.length % 192 ≠ 0 then none
      else do
        let points ← decodePairs arkDecodeG1 decodeG2 (readPairs (input.length / 192) input)
        return beBytes 32 (if e.product points = 1 then 1 else 0) }

open Classical in
theorem groupRuntime_pairing (pairs : List (Bytes 64 × Bytes 128)) :
    (groupRuntime decodeG2 e).altBn128Pairing (pairBytes pairs) = (do
      let points ← decodePairs arkDecodeG1 decodeG2 pairs
      return beBytes 32 (if e.product points = 1 then 1 else 0)) := by
  have hlen := pairBytes_length pairs
  have hmod : (pairBytes pairs).length % 192 = 0 := by omega
  have hdiv : (pairBytes pairs).length / 192 = pairs.length := by omega
  simp only [groupRuntime, hmod, hdiv, readPairs_pairBytes, ne_eq, not_true_eq_false, if_false]

noncomputable def groupSyscalls : AltBn128 (groupRuntime decodeG2 e) G2 GT where
  decodeG1 := arkDecodeG1
  decodeG2 := decodeG2
  e := e
  decodeG1_encodeG1 := arkDecodeG1_encodeG1
  addition := referenceSyscalls.addition
  multiplication := referenceSyscalls.multiplication
  pairing := groupRuntime_pairing decodeG2 e

end

/-! ## A functional of G2 -/

def g2Base : G2Group := inG2_generator.point

theorem g2Base_ne_zero : g2Base ≠ 0 := by
  intro h
  have hpoint : g2Generator = 0 := congrArg Subtype.val h
  exact WeierstrassCurve.Affine.Point.some_ne_zero _ hpoint

theorem exists_functional {K V : Type} [Field K] [AddCommGroup V] [Module K V] {v : V} (hv : v ≠ 0) :
    ∃ φ : V →+ K, φ v = 1 := by
  obtain ⟨φ, hφ⟩ := Module.Projective.exists_dual_eq_one K hv
  exact ⟨φ.toAddMonoidHom, hφ⟩

theorem exists_g2Functional : ∃ φ : G2Group →+ ZMod frModulus, φ g2Base = 1 := by
  have htorsion : ∀ Q : G2Group, frModulus • Q = 0 := by
    intro Q
    apply Subtype.ext
    exact Q.property
  let module : Module (ZMod frModulus) G2Group := AddCommGroup.zmodModule htorsion
  exact exists_functional g2Base_ne_zero

noncomputable def g2Functional : G2Group →+ ZMod frModulus := exists_g2Functional.choose

theorem g2Functional_g2Base : g2Functional g2Base = 1 := exists_g2Functional.choose_spec

noncomputable def g2Pairing : Pairing G1 G2Group (Multiplicative G1) :=
  scalarPairing.through g2Functional

theorem g2Pairing_g2Base (P : G1) : g2Pairing.pair P g2Base = Multiplicative.ofAdd P := by
  rw [g2Pairing, Pairing.pair_through, g2Functional_g2Base, scalarPairing_one]

/-- The syscalls decode their points as arkworks does. -/
structure ArkDecoders {rt : Runtime} {GT : Type} [CommGroup GT] (S : AltBn128 rt G2Group GT) : Prop where
  decodeG1 : S.decodeG1 = arkDecodeG1
  decodeG2 : S.decodeG2 = arkDecodeG2

noncomputable def arkSyscalls : AltBn128 (groupRuntime arkDecodeG2 g2Pairing) G2Group (Multiplicative G1) :=
  groupSyscalls arkDecodeG2 g2Pairing

theorem arkDecoders_arkSyscalls : ArkDecoders arkSyscalls := ⟨rfl, rfl⟩

end Groth16Solana
