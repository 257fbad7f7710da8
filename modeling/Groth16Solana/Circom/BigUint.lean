import Mathlib.Data.Nat.Digits.Lemmas
import Groth16Solana.Foundations.BigEndian

/-! # Unbounded integers as bytes

A `BigUint` is a natural number. Its byte strings are as short as they can be, but zero has one byte. -/

set_option autoImplicit false

namespace Groth16Solana
open Foundations

/-- `BigUint::to_bytes_le`. -/
def toBytesLe (n : ℕ) : List UInt8 := if n = 0 then [0] else (Nat.digits 256 n).map UInt8.ofNat

/-- `BigUint::to_bytes_be`. -/
def toBytesBe (n : ℕ) : List UInt8 := (toBytesLe n).reverse

/-- `bytes.resize(size, 0)`, which cuts as well as it pads. -/
def resize (bytes : List UInt8) (size : ℕ) : List UInt8 :=
  bytes.take size ++ List.replicate (size - bytes.length) 0

theorem leNat_toBytesLe (n : ℕ) : leNat (toBytesLe n) = n := by
  by_cases hn : n = 0
  · subst hn
    rfl
  · have hdigits : ((Nat.digits 256 n).map UInt8.ofNat).map UInt8.toNat = Nat.digits 256 n := by
      rw [List.map_map]
      refine (List.map_congr_left fun d hd => ?_).trans (List.map_id _)
      have hlt := Nat.digits_lt_base (by decide) hd
      simp
      omega
    rw [toBytesLe, if_neg hn, leNat, hdigits, Nat.ofDigits_digits]

theorem toBytesLe_length_le_iff (n : ℕ) : (toBytesLe n).length ≤ 32 ↔ n < 256 ^ 32 := by
  by_cases hn : n = 0
  · subst hn
    decide
  · rw [toBytesLe, if_neg hn, List.length_map]
    exact Nat.digits_length_le_iff (by decide : 1 < 256) n

theorem beNat_toBytesBe (n : ℕ) : beNat (toBytesBe n) = n := by
  rw [beNat, toBytesBe, List.reverse_reverse, leNat_toBytesLe]

theorem toBytesBe_length_le_iff (n : ℕ) : (toBytesBe n).length ≤ 32 ↔ n < 256 ^ 32 := by
  rw [toBytesBe, List.length_reverse, toBytesLe_length_le_iff]

/-- Resizing keeps the value modulo the new size. -/
theorem leList_leNat_eq_resize (size : ℕ) (bytes : List UInt8) :
    leList size (leNat bytes) = resize bytes size := by
  induction bytes generalizing size with
  | nil =>
    have hzero := congrArg List.reverse (beList_zero size)
    rw [beList, List.reverse_reverse, List.reverse_replicate] at hzero
    simpa [resize] using hzero
  | cons b bytes ih =>
    cases size with
    | zero => simp [leList, resize]
    | succ size =>
      have hb : b.toNat < 256 := b.toNat_lt
      have hq : (b.toNat + 256 * leNat bytes) / 256 = leNat bytes := by omega
      have hr : UInt8.ofNat (b.toNat + 256 * leNat bytes) = b := by
        apply UInt8.toNat_inj.mp
        rw [UInt8.toNat_ofNat']
        omega
      rw [leNat_cons, leList, hq, hr, ih]
      simp [resize]

theorem resize_toBytesLe (n size : ℕ) : resize (toBytesLe n) size = leList size n := by
  rw [← leList_leNat_eq_resize, leNat_toBytesLe]

end Groth16Solana
