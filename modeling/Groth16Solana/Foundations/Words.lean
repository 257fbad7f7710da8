import Groth16Solana.Foundations.BigEndian

/-! # Big-endian integers in 64-bit words

Word lists stand most significant word first, as the byte strings they are read from. Subtraction
runs from the last word to the first with a borrow, each word in two overflowing steps. -/

set_option autoImplicit false

namespace Foundations

def wordsNat : List UInt64 → ℕ
  | [] => 0
  | w :: ws => w.toNat * 2 ^ (64 * ws.length) + wordsNat ws

/-- `u64::from_be_bytes` on each of the first `k` chunks of eight bytes. -/
def beWords : ℕ → List UInt8 → List UInt64
  | 0, _ => []
  | k + 1, l => UInt64.ofNat (beNat (l.take 8)) :: beWords k (l.drop 8)

def wordBytes (ws : List UInt64) : List UInt8 := ws.flatMap fun w => beList 8 w.toNat

@[simp] theorem beWords_length (k : ℕ) (l : List UInt8) : (beWords k l).length = k := by
  induction k generalizing l with
  | zero => rfl
  | succ k ih => rw [beWords, List.length_cons, ih]

@[simp] theorem wordBytes_nil : wordBytes [] = [] := rfl

@[simp] theorem wordBytes_cons (w : UInt64) (ws : List UInt64) :
    wordBytes (w :: ws) = beList 8 w.toNat ++ wordBytes ws := rfl

@[simp] theorem wordBytes_length (ws : List UInt64) : (wordBytes ws).length = 8 * ws.length := by
  induction ws with
  | nil => rfl
  | cons w ws ih =>
    rw [wordBytes_cons, List.length_append, ih, beList_length, List.length_cons]
    omega

theorem pow_bytes_eq (k : ℕ) : 256 ^ (8 * k) = 2 ^ (64 * k) := by
  rw [pow_mul, pow_mul]
  norm_num only

theorem wordsNat_lt (ws : List UInt64) : wordsNat ws < 2 ^ (64 * ws.length) := by
  induction ws with
  | nil => simp [wordsNat]
  | cons w ws ih =>
    have hw : (w.toNat + 1) * 2 ^ (64 * ws.length) ≤ 2 ^ 64 * 2 ^ (64 * ws.length) :=
      Nat.mul_le_mul_right _ w.toNat_lt
    rw [Nat.add_mul, ← pow_add] at hw
    have he : 64 + 64 * ws.length = 64 * (w :: ws).length := by rw [List.length_cons]; omega
    rw [he] at hw
    rw [wordsNat]
    omega

theorem beNat_wordBytes (ws : List UInt64) : beNat (wordBytes ws) = wordsNat ws := by
  induction ws with
  | nil => rfl
  | cons w ws ih =>
    have hw : beNat (beList 8 w.toNat) = w.toNat := beNat_beList_of_lt w.toNat_lt
    rw [wordBytes_cons, beNat_append, ih, hw, wordBytes_length, wordsNat, pow_bytes_eq]

theorem wordsNat_beWords (k : ℕ) (l : List UInt8) (h : l.length = 8 * k) :
    wordsNat (beWords k l) = beNat l := by
  induction k generalizing l with
  | zero =>
    obtain rfl : l = [] := List.eq_nil_of_length_eq_zero h
    rfl
  | succ k ih =>
    have hdrop : (l.drop 8).length = 8 * k := by rw [List.length_drop, h]; omega
    have htake : (l.take 8).length = 8 := by rw [List.length_take, h]; omega
    have hlt : beNat (l.take 8) < 2 ^ 64 := beNat_lt_of_length htake
    have hsplit := beNat_append (l.take 8) (l.drop 8)
    rw [List.take_append_drop, hdrop, pow_bytes_eq] at hsplit
    rw [beWords, wordsNat, ih _ hdrop, beWords_length, UInt64.toNat_ofNat_of_lt' hlt, hsplit]

/-- The words of a value below `2 ^ (64 * k)` write its big-endian bytes. -/
theorem wordBytes_eq_beList (ws : List UInt64) :
    wordBytes ws = beList (8 * ws.length) (wordsNat ws) :=
  (beList_of_beNat (wordBytes_length ws) (beNat_wordBytes ws)).symm

/-! ## Subtraction with borrow -/

/-- `a.overflowing_sub(b)`. -/
def overflowingSub (a b : UInt64) : UInt64 × Bool := (a - b, decide (a < b))

/-- One word of the difference and the borrow it passes on. -/
def subWord (a b borrow : UInt64) : UInt64 × UInt64 :=
  let (diff, b1) := overflowingSub a b
  let (diff, b2) := overflowingSub diff borrow
  (diff, b1.toUInt64 + b2.toUInt64)

/-- The words of the difference and the last borrow. -/
def subWords : List UInt64 → List UInt64 → List UInt64 × UInt64
  | a :: as, b :: bs =>
    let (diffs, borrow) := subWords as bs
    let (diff, borrow) := subWord a b borrow
    (diff :: diffs, borrow)
  | _, _ => ([], 0)

theorem toNat_borrow (b1 b2 : Bool) :
    (b1.toUInt64 + b2.toUInt64).toNat = b1.toNat + b2.toNat := by
  cases b1 <;> cases b2 <;> rfl

theorem overflowingSub_spec (a b : UInt64) :
    (overflowingSub a b).1.toNat + b.toNat = a.toNat + 2 ^ 64 * (overflowingSub a b).2.toNat := by
  have ha := a.toNat_lt
  have hb := b.toNat_lt
  simp only [overflowingSub, UInt64.toNat_sub]
  by_cases h : a < b
  · have hlt := UInt64.lt_iff_toNat_lt.mp h
    simp only [h, decide_true, Bool.toNat_true]
    omega
  · have hle := Nat.not_lt.mp (fun hlt => h (UInt64.lt_iff_toNat_lt.mpr hlt))
    simp only [h, decide_false, Bool.toNat_false]
    omega

/-- A borrow of at most one is passed on as a borrow of at most one. -/
theorem subWord_spec (a b borrow : UInt64) (h : borrow.toNat ≤ 1) :
    (subWord a b borrow).2.toNat ≤ 1 ∧
      (subWord a b borrow).1.toNat + b.toNat + borrow.toNat =
        a.toNat + 2 ^ 64 * (subWord a b borrow).2.toNat := by
  have h₁ := overflowingSub_spec a b
  have h₂ := overflowingSub_spec (overflowingSub a b).1 borrow
  have hb := b.toNat_lt
  have hd := (overflowingSub a b).1.toNat_lt
  have hd' := (overflowingSub (overflowingSub a b).1 borrow).1.toNat_lt
  simp only [subWord, toNat_borrow]
  generalize overflowingSub a b = first at *
  generalize overflowingSub first.1 borrow = second at *
  have hf := first.2.toNat_le
  have hs := second.2.toNat_le
  -- the two steps do not overflow both: the first would leave too large a word
  omega

theorem subWords_spec (as bs : List UInt64) (h : as.length = bs.length) :
    (subWords as bs).1.length = as.length ∧ (subWords as bs).2.toNat ≤ 1 ∧
      wordsNat (subWords as bs).1 + wordsNat bs =
        wordsNat as + 2 ^ (64 * as.length) * (subWords as bs).2.toNat := by
  induction as generalizing bs with
  | nil =>
    obtain rfl : bs = [] := List.eq_nil_of_length_eq_zero h.symm
    simp [subWords, wordsNat]
  | cons a as ih =>
    cases bs with
    | nil => simp at h
    | cons b bs =>
      have hlen : as.length = bs.length := by simpa using h
      obtain ⟨hl, hborrow, hval⟩ := ih bs hlen
      obtain ⟨hborrow', hword⟩ := subWord_spec a b _ hborrow
      simp only [subWords]
      generalize subWords as bs = rest at *
      generalize subWord a b rest.2 = word at *
      refine ⟨by simp [hl], hborrow', ?_⟩
      have he : 64 * (a :: as).length = 64 + 64 * as.length := by rw [List.length_cons]; omega
      have hscaled := congrArg (· * 2 ^ (64 * as.length)) hword
      simp only [Nat.add_mul] at hscaled
      rw [wordsNat, wordsNat, wordsNat, hl, ← hlen, he, pow_add]
      have hcomm : 2 ^ 64 * word.2.toNat * 2 ^ (64 * as.length) =
          2 ^ 64 * 2 ^ (64 * as.length) * word.2.toNat := by ring
      rw [hcomm] at hscaled
      have hcomm' : rest.2.toNat * 2 ^ (64 * as.length) = 2 ^ (64 * as.length) * rest.2.toNat :=
        Nat.mul_comm _ _
      omega

theorem wordsNat_subWords (as bs : List UInt64) (h : as.length = bs.length) :
    wordsNat (subWords as bs).1 =
      (wordsNat as + 2 ^ (64 * as.length) - wordsNat bs) % 2 ^ (64 * as.length) := by
  obtain ⟨hl, hborrow, hval⟩ := subWords_spec as bs h
  have hd := wordsNat_lt (subWords as bs).1
  have hb := wordsNat_lt bs
  rw [hl] at hd
  rw [← h] at hb
  generalize 2 ^ (64 * as.length) = radix at *
  have hcases : (subWords as bs).2.toNat = 0 ∨ (subWords as bs).2.toNat = 1 := by omega
  obtain h0 | h1 := hcases
  · rw [h0, Nat.mul_zero, Nat.add_zero] at hval
    have he : wordsNat as + radix - wordsNat bs = wordsNat (subWords as bs).1 + radix := by omega
    rw [he, Nat.add_mod_right, Nat.mod_eq_of_lt hd]
  · rw [h1, Nat.mul_one] at hval
    have he : wordsNat as + radix - wordsNat bs = wordsNat (subWords as bs).1 := by omega
    rw [he, Nat.mod_eq_of_lt hd]

end Foundations
