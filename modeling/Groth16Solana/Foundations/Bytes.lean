import Mathlib.Data.Nat.Notation

/-! # Fixed-length byte buffers

A Rust `[u8; n]` is a `Vector` of bytes. `copyFromSlice` is the in-place
`buf[lo..hi].copy_from_slice(src)`, whose run-time checks are its proof argument; the operations
with a question mark make their checks when they run, with `none` for a panic. -/

set_option autoImplicit false

namespace Foundations

theorem forall_mem_toList {α : Type} {n : ℕ} {xs : Vector α n} {p : α → Prop} :
    (∀ x ∈ xs.toList, p x) ↔ ∀ i : Fin n, p (xs.get i) := by
  constructor
  · intro h i
    change p xs[i]
    exact h _ (by simp)
  · intro h x hx
    obtain ⟨i, hi, rfl⟩ := Vector.mem_iff_getElem.mp (Vector.mem_toList_iff.mp hx)
    exact h ⟨i, hi⟩

/-- `[u8; n]`. -/
abbrev Bytes (n : ℕ) := Vector UInt8 n

namespace Bytes

variable {n m : ℕ}

def ofList (l : List UInt8) (h : l.length = n) : Bytes n := ⟨l.toArray, h⟩

@[simp] theorem toList_ofList (l : List UInt8) (h : l.length = n) : (ofList l h).toList = l := rfl

/-- `[0u8; n]`. -/
def zero (n : ℕ) : Bytes n := Vector.replicate n 0

@[simp] theorem toList_zero (n : ℕ) : (zero n).toList = List.replicate n 0 := rfl

/-- `buf[lo..hi].copy_from_slice(src)`: the range ends inside the buffer and is as long as the
source, or the program panics. -/
def copyFromSlice (buf : Bytes n) (lo hi : ℕ) (src : Bytes m)
    (h : lo + m = hi ∧ hi ≤ n := by decide) : Bytes n :=
  ofList (buf.toList.take lo ++ src.toList ++ buf.toList.drop hi) (by
    simp only [List.length_append, List.length_take, List.length_drop, Vector.length_toList]
    omega)

theorem toList_copyFromSlice (buf : Bytes n) (lo hi : ℕ) (src : Bytes m) (h : lo + m = hi ∧ hi ≤ n) :
    (copyFromSlice buf lo hi src h).toList =
      buf.toList.take lo ++ src.toList ++ buf.toList.drop hi := rfl

/-- Writing right after the filled part of a zeroed buffer extends the filled part. -/
theorem toList_copyFromSlice_zero {buf : Bytes n} {filled : List UInt8} {k : ℕ}
    (hbuf : buf.toList = filled ++ List.replicate k 0) (lo hi : ℕ) (src : Bytes m)
    (hlo : filled.length = lo) (h : lo + m = hi ∧ hi ≤ n) :
    (copyFromSlice buf lo hi src h).toList = (filled ++ src.toList) ++ List.replicate (k - m) 0 := by
  obtain ⟨rfl, -⟩ := h
  subst hlo
  rw [toList_copyFromSlice, hbuf, List.take_left, List.drop_length_add_append, List.drop_replicate]

/-! ## Checked operations -/

/-- `buf[lo..hi].copy_from_slice(src)` with its checks made at run time. -/
def copyFromSlice? (buf : Bytes n) (lo hi : ℕ) (src : List UInt8) : Option (Bytes n) :=
  if h : lo + src.length = hi ∧ hi ≤ n then some (copyFromSlice buf lo hi (ofList src rfl) h)
  else none

/-- `buf[index] = byte`. -/
def setByte? (buf : Bytes n) (index : ℕ) (byte : UInt8) : Option (Bytes n) :=
  copyFromSlice? buf index (index + 1) [byte]

/-- `&buf[..hi]`. -/
def sliceTo? (buf : Bytes n) (hi : ℕ) : Option (List UInt8) :=
  if hi ≤ n then some (buf.toList.take hi) else none

/-- A write at the end of a known prefix extends the prefix, whatever the buffer held beyond it. -/
theorem copyFromSlice?_prefix {buf : Bytes n} {lo hi : ℕ} {known : List UInt8}
    (src : List UInt8) (hbuf : buf.toList.take lo = known) (hlo : known.length = lo)
    (hhi : lo + src.length = hi) (hn : hi ≤ n) :
    ∃ buf', copyFromSlice? buf lo hi src = some buf' ∧ buf'.toList.take hi = known ++ src := by
  have hlen : (known ++ src).length = hi := by rw [List.length_append, hlo, hhi]
  refine ⟨copyFromSlice buf lo hi (ofList src rfl) ⟨hhi, hn⟩, dif_pos ⟨hhi, hn⟩, ?_⟩
  rw [toList_copyFromSlice, hbuf, toList_ofList]
  exact List.take_left' hlen

/-- A write over the whole buffer. -/
theorem copyFromSlice?_whole {buf out : Bytes n} {src : List UInt8} :
    copyFromSlice? buf 0 n src = some out ↔ out.toList = src := by
  by_cases hlen : src.length = n
  · have hstart : buf.toList.take 0 = [] := List.take_zero
    obtain ⟨out', hout', htake⟩ := copyFromSlice?_prefix src hstart rfl ((Nat.zero_add _).trans hlen)
      (Nat.le_refl n)
    rw [List.take_of_length_le (by simp), List.nil_append] at htake
    rw [hout', Option.some_inj, ← htake, Vector.toList_inj, eq_comm]
  · rw [copyFromSlice?, dif_neg (by omega)]
    refine iff_of_false (by simp) ?_
    rintro rfl
    exact hlen (by simp)

theorem setByte?_prefix {buf : Bytes n} {lo : ℕ} {known : List UInt8} (byte : UInt8)
    (hbuf : buf.toList.take lo = known) (hlo : known.length = lo) (hn : lo + 1 ≤ n) :
    ∃ buf', setByte? buf lo byte = some buf' ∧ buf'.toList.take (lo + 1) = known ++ [byte] :=
  copyFromSlice?_prefix [byte] hbuf hlo rfl hn

theorem sliceTo?_eq {buf : Bytes n} {hi : ℕ} (h : hi ≤ n) :
    sliceTo? buf hi = some (buf.toList.take hi) := if_pos h

end Bytes

end Foundations
