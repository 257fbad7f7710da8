import Groth16Solana.Foundations.Words
import Groth16Solana.Bn254.Decoder

/-! # Negating proof bytes

`negate_g1_be` subtracts the second coordinate from the modulus in four words. On the encoding of a
point the result encodes its inverse, the identity included. -/

set_option autoImplicit false

namespace Groth16Solana
open Foundations

/-- The constant `FQ`: the base field modulus, most significant limb first. -/
def fqLimbs : List UInt64 :=
  [0x30644e72e131a029, 0xb85045b68181585d, 0x97816a916871ca8d, 0x3c208c16d87cfd47]

/-- `neg_y`: the limbs of `p - y`, from the bytes of `y`. -/
def negLimbs (g1 : Bytes 64) : List UInt64 :=
  (subWords fqLimbs (beWords 4 (g1.toList.drop 32))).1

theorem negLimbs_length (g1 : Bytes 64) : (negLimbs g1).length = 4 :=
  (subWords_spec fqLimbs _ (beWords_length 4 _).symm).1

def negateG1Be (g1 : Bytes 64) : Bytes 64 :=
  -- the identity is its own inverse
  if g1 = Bytes.zero 64 then Bytes.zero 64
  else Bytes.ofList (g1.toList.take 32 ++ wordBytes (negLimbs g1)) (by simp [negLimbs_length])

/-! ## The bytes of the negation -/

theorem wordsNat_fqLimbs : wordsNat fqLimbs = fqModulus := by decide +kernel

@[simp] theorem negateG1Be_zero : negateG1Be (Bytes.zero 64) = Bytes.zero 64 := if_pos rfl

/-- Away from the identity the second coordinate becomes `p - y` modulo `2^256`. -/
theorem toList_negateG1Be {g1 : Bytes 64} (h : g1 ≠ Bytes.zero 64) :
    (negateG1Be g1).toList = g1.toList.take 32 ++
      beList 32 ((fqModulus + 2 ^ 256 - beNat (g1.toList.drop 32)) % 2 ^ 256) := by
  have hwords : wordsNat (beWords 4 (g1.toList.drop 32)) = beNat (g1.toList.drop 32) :=
    wordsNat_beWords 4 _ (by simp)
  have hsub := wordsNat_subWords fqLimbs _ (beWords_length 4 (g1.toList.drop 32)).symm
  rw [wordsNat_fqLimbs, hwords] at hsub
  rw [negateG1Be, if_neg h, Bytes.toList_ofList, wordBytes_eq_beList, negLimbs_length, negLimbs, hsub]
  rfl

theorem negateG1Be_joinG1 {x y : ℕ} (h : OnCurve x y) :
    negateG1Be (joinG1 x y) = joinG1 x (fqModulus - y) := by
  have hy := h.y_lt
  have hlt := fqModulus_lt_bytes
  have hpos := h.y_pos
  have hval : beNat (beList 32 y) = y := beNat_beList_of_lt (hy.trans hlt)
  refine Vector.toList_inj.mp ?_
  rw [toList_negateG1Be (joinG1_ne_zero h), toList_joinG1, toList_joinG1,
    List.take_left' (beList_length 32 x), List.drop_left' (beList_length 32 x), hval]
  have hsub : fqModulus + 2 ^ 256 - y = fqModulus - y + 2 ^ 256 := by omega
  rw [hsub, Nat.add_mod_right, Nat.mod_eq_of_lt (by omega)]

/-- On encodings the function is the inverse of the group. -/
theorem negateG1Be_encodeG1 (P : G1) : negateG1Be (encodeG1 P) = encodeG1 (-P) := by
  cases P with
  | zero => exact negateG1Be_zero
  | some x y hxy =>
    have h := onCurve_val hxy
    have hP : (.some x y hxy : G1) = .some (x.val : Fq) (y.val : Fq) h.nonsingular := by
      simp only [ZMod.natCast_zmod_val]
    rw [hP, encodeG1_of_onCurve h, negateG1Be_joinG1 h, encodeG1_neg h]

/-- Every limb of the subtraction passes on a borrow of at most one. -/
theorem borrow_le_one (g1 : Bytes 64) (limb : ℕ) :
    (subWords (fqLimbs.drop limb) ((beWords 4 (g1.toList.drop 32)).drop limb)).2.toNat ≤ 1 := by
  have hlen : (fqLimbs.drop limb).length = ((beWords 4 (g1.toList.drop 32)).drop limb).length := by
    rw [List.length_drop, List.length_drop, beWords_length]
    rfl
  exact (subWords_spec _ _ hlen).2.1

/-- The subtraction is exact modulo `2^256`, and on the encodings of points it is the inverse of the
group, which undoes itself. -/
theorem negateG1Be_exact (g1 : Bytes 64) :
    (g1 ≠ Bytes.zero 64 →
      (negateG1Be g1).toList.take 32 = g1.toList.take 32 ∧
      (negateG1Be g1).toList.drop 32 =
        beList 32 (((fqModulus : ℤ) - beNat (g1.toList.drop 32)) % 2 ^ 256).toNat ∧
      ∀ limb, (subWords (fqLimbs.drop limb) ((beWords 4 (g1.toList.drop 32)).drop limb)).2.toNat ≤ 1) ∧
    (g1 = Bytes.zero 64 → negateG1Be g1 = Bytes.zero 64) ∧
    (CanonicalG1 g1 →
      CanonicalG1 (negateG1Be g1) ∧
      (∃ P, arkDecodeG1 g1 = some P ∧ arkDecodeG1 (negateG1Be g1) = some (-P)) ∧
      negateG1Be (negateG1Be g1) = g1) := by
  refine ⟨?_, ?_, ?_⟩
  · intro hne
    have hbytes := toList_negateG1Be hne
    have hlen : (g1.toList.take 32).length = 32 := by simp
    have hy : beNat (g1.toList.drop 32) < 2 ^ 256 := beNat_lt_of_length (n := 32) (by simp)
    refine ⟨?_, ?_, borrow_le_one g1⟩
    · rw [hbytes, List.take_left' hlen]
    · rw [hbytes, List.drop_left' hlen]
      congr 1
      omega
  · rintro rfl
    exact negateG1Be_zero
  · intro hcanonical
    obtain ⟨P, rfl⟩ := canonicalG1_iff.mp hcanonical
    refine ⟨?_, ⟨P, arkDecodeG1_encodeG1 P, ?_⟩, ?_⟩
    · rw [negateG1Be_encodeG1]
      exact canonicalG1_iff.mpr ⟨-P, rfl⟩
    · rw [negateG1Be_encodeG1, arkDecodeG1_encodeG1]
    · rw [negateG1Be_encodeG1, negateG1Be_encodeG1, neg_neg]

end Groth16Solana
