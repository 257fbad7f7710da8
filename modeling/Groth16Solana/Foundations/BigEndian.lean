import Mathlib.Data.Nat.Digits.Defs
import Mathlib.Tactic.Ring
import Groth16Solana.Foundations.Bytes

/-! # Base-256 integers

The value of a byte string in both byte orders, the fixed-width encoder of each, and the fact
that the lexicographic order on equally long big-endian strings is the numeric order. -/

set_option autoImplicit false

namespace Foundations

/-- The integer whose least significant byte comes first. -/
def leNat (l : List UInt8) : ℕ := Nat.ofDigits 256 (l.map UInt8.toNat)

/-- The integer whose most significant byte comes first. -/
def beNat (l : List UInt8) : ℕ := leNat l.reverse

/-- The low `8 * n` bits of `v` as `n` bytes, least significant first. -/
def leList : ℕ → ℕ → List UInt8
  | 0, _ => []
  | n + 1, v => UInt8.ofNat v :: leList n (v / 256)

/-- The low `8 * n` bits of `v` as `n` bytes, most significant first. -/
def beList (n v : ℕ) : List UInt8 := (leList n v).reverse

@[simp] theorem leList_length (n v : ℕ) : (leList n v).length = n := by
  induction n generalizing v with
  | zero => rfl
  | succ n ih => rw [leList, List.length_cons, ih]

@[simp] theorem beList_length (n v : ℕ) : (beList n v).length = n := by simp [beList]

/-- `v.to_le_bytes()` for an `n`-byte integer type. -/
def leBytes (n v : ℕ) : Bytes n := Bytes.ofList (leList n v) (leList_length n v)

/-- `v.to_be_bytes()` for an `n`-byte integer type. -/
def beBytes (n v : ℕ) : Bytes n := Bytes.ofList (beList n v) (beList_length n v)

@[simp] theorem toList_leBytes (n v : ℕ) : (leBytes n v).toList = leList n v := rfl

@[simp] theorem toList_beBytes (n v : ℕ) : (beBytes n v).toList = beList n v := rfl

/-! ## Values -/

@[simp] theorem leNat_nil : leNat [] = 0 := rfl

@[simp] theorem leNat_cons (b : UInt8) (l : List UInt8) :
    leNat (b :: l) = b.toNat + 256 * leNat l := by
  simp [leNat, Nat.ofDigits_cons]

theorem leNat_append (l l' : List UInt8) :
    leNat (l ++ l') = leNat l + 256 ^ l.length * leNat l' := by
  simp [leNat, Nat.ofDigits_append]

theorem leNat_lt (l : List UInt8) : leNat l < 256 ^ l.length := by
  have h := Nat.ofDigits_lt_base_pow_length (b := 256) (l := l.map UInt8.toNat) (by omega) (by
    intro x hx
    obtain ⟨b, -, rfl⟩ := List.mem_map.mp hx
    exact b.toNat_lt)
  simpa [leNat] using h

@[simp] theorem beNat_nil : beNat [] = 0 := rfl

theorem beNat_cons (b : UInt8) (l : List UInt8) :
    beNat (b :: l) = b.toNat * 256 ^ l.length + beNat l := by
  rw [beNat, List.reverse_cons, leNat_append]
  simp [beNat, Nat.mul_comm, Nat.add_comm]

theorem beNat_append (l l' : List UInt8) :
    beNat (l ++ l') = beNat l * 256 ^ l'.length + beNat l' := by
  rw [beNat, List.reverse_append, leNat_append, List.length_reverse]
  simp [beNat, Nat.mul_comm, Nat.add_comm]

theorem beNat_lt (l : List UInt8) : beNat l < 256 ^ l.length := by
  simpa [beNat] using leNat_lt l.reverse

theorem beNat_lt_of_length {l : List UInt8} {n : ℕ} (h : l.length = n) : beNat l < 256 ^ n :=
  h ▸ beNat_lt l

@[simp] theorem beNat_replicate_zero (n : ℕ) : beNat (List.replicate n 0) = 0 := by
  simp [beNat, leNat, Nat.ofDigits_replicate_zero]

/-! ## Encoding and decoding -/

theorem leNat_leList (n v : ℕ) : leNat (leList n v) = v % 256 ^ n := by
  induction n generalizing v with
  | zero => simp [leList, Nat.mod_one]
  | succ n ih =>
    rw [leList, leNat_cons, ih, pow_succ', Nat.mod_mul]
    simp

theorem beNat_beList (n v : ℕ) : beNat (beList n v) = v % 256 ^ n := by
  simp [beNat, beList, leNat_leList]

theorem beNat_beList_of_lt {n v : ℕ} (h : v < 256 ^ n) : beNat (beList n v) = v := by
  rw [beNat_beList, Nat.mod_eq_of_lt h]

theorem leList_leNat (l : List UInt8) : leList l.length (leNat l) = l := by
  induction l with
  | nil => rfl
  | cons b l ih =>
    have hb : b.toNat < 256 := b.toNat_lt
    have hq : (b.toNat + 256 * leNat l) / 256 = leNat l := by omega
    have hr : UInt8.ofNat (b.toNat + 256 * leNat l) = b := by
      apply UInt8.toNat_inj.mp
      rw [UInt8.toNat_ofNat']
      omega
    rw [List.length_cons, leNat_cons, leList, hq, hr, ih]

theorem beList_beNat (l : List UInt8) : beList l.length (beNat l) = l := by
  have h := leList_leNat l.reverse
  rw [List.length_reverse] at h
  rw [beList, beNat, h, List.reverse_reverse]

theorem beList_of_beNat {l : List UInt8} {n v : ℕ} (hl : l.length = n) (hv : beNat l = v) :
    beList n v = l := by
  subst hl hv
  exact beList_beNat l

theorem beNat_inj {l l' : List UInt8} (hl : l.length = l'.length) (h : beNat l = beNat l') :
    l = l' := by
  rw [← beList_beNat l, hl, h, beList_beNat]

theorem leList_append (n m v : ℕ) : leList (n + m) v = leList n v ++ leList m (v / 256 ^ n) := by
  induction n generalizing v with
  | zero => simp [leList]
  | succ n ih =>
    rw [Nat.succ_add, leList, ih, leList, List.cons_append, Nat.div_div_eq_div_mul, pow_succ']

theorem beList_append (n m v : ℕ) : beList (m + n) v = beList m (v / 256 ^ n) ++ beList n v := by
  rw [beList, Nat.add_comm, leList_append, List.reverse_append, beList, beList]

@[simp] theorem beList_zero (n : ℕ) : beList n 0 = List.replicate n 0 :=
  beList_of_beNat (by simp) (by simp)

theorem beList_inj {n v w : ℕ} (hv : v < 256 ^ n) (hw : w < 256 ^ n)
    (h : beList n v = beList n w) : v = w := by
  have e := congrArg beNat h
  rwa [beNat_beList_of_lt hv, beNat_beList_of_lt hw] at e

/-! ## Order -/

/-- The array order of Rust on equally long byte arrays is the order of the big-endian integers. -/
theorem lt_iff_beNat_lt {l l' : List UInt8} (h : l.length = l'.length) :
    l < l' ↔ beNat l < beNat l' := by
  induction l generalizing l' with
  | nil =>
    cases l' with
    | nil => simp
    | cons b' l' => simp at h
  | cons b l ih =>
    cases l' with
    | nil => simp at h
    | cons b' l' =>
      simp only [List.length_cons, Nat.add_right_cancel_iff] at h
      have hl := beNat_lt l
      have hl' := beNat_lt_of_length h.symm
      rw [List.cons_lt_cons_iff, ih h, beNat_cons, beNat_cons, ← h]
      rcases lt_trichotomy b.toNat b'.toNat with hb | hb | hb
      · have hle : (b.toNat + 1) * 256 ^ l.length ≤ b'.toNat * 256 ^ l.length :=
          Nat.mul_le_mul_right _ hb
        have hb' : b < b' := UInt8.lt_iff_toNat_lt.mpr hb
        simp only [hb', true_or, true_iff]
        rw [Nat.add_mul] at hle
        omega
      · have hb' : b = b' := UInt8.toNat_inj.mp hb
        subst hb'
        simp
      · have hle : (b'.toNat + 1) * 256 ^ l.length ≤ b.toNat * 256 ^ l.length :=
          Nat.mul_le_mul_right _ hb
        have hnlt : ¬ b < b' := by rw [UInt8.lt_iff_toNat_lt]; omega
        have hne : b ≠ b' := by rintro rfl; omega
        simp only [hnlt, hne, false_and, or_self, false_iff]
        rw [Nat.add_mul] at hle
        omega

end Foundations
