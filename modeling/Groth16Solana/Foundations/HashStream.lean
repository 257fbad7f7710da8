import Groth16Solana.Foundations.Sha256

/-! # SHA-256 in parts

A hash in progress keeps the state after the whole blocks and the bytes behind them. Its digest is
that of the message the parts make, however the message was cut. -/

set_option autoImplicit false

namespace Foundations

namespace Sha256

/-! ## Blocks -/

theorem words_append (k : ℕ) (xs ys : List UInt8) (h : 4 * k ≤ xs.length) :
    words k (xs ++ ys) = words k xs := by
  induction k generalizing xs with
  | zero => rfl
  | succ k ih =>
    have htake : (xs ++ ys).take 4 = xs.take 4 := List.take_append_of_le_length (by omega)
    have hdrop : (xs ++ ys).drop 4 = xs.drop 4 ++ ys := List.drop_append_of_le_length (by omega)
    have hlen : 4 * k ≤ (xs.drop 4).length := by
      rw [List.length_drop]
      omega
    rw [words, words, htake, hdrop, ih (xs.drop 4) hlen]

theorem compressBlocks_append (k : ℕ) (v : Working) (xs ys : List UInt8) (h : 64 * k ≤ xs.length) :
    compressBlocks k v (xs ++ ys) = compressBlocks k v xs := by
  induction k generalizing v xs with
  | zero => rfl
  | succ k ih =>
    have hwords : words 16 (xs ++ ys) = words 16 xs := words_append 16 xs ys (by omega)
    have hdrop : (xs ++ ys).drop 64 = xs.drop 64 ++ ys := List.drop_append_of_le_length (by omega)
    have hlen : 64 * k ≤ (xs.drop 64).length := by
      rw [List.length_drop]
      omega
    rw [compressBlocks, compressBlocks, hwords, hdrop, ih _ (xs.drop 64) hlen]

theorem compressBlocks_add (j k : ℕ) (v : Working) (bytes : List UInt8) :
    compressBlocks (j + k) v bytes =
      compressBlocks k (compressBlocks j v bytes) (bytes.drop (64 * j)) := by
  induction j generalizing v bytes with
  | zero => rw [Nat.zero_add, Nat.mul_zero, List.drop_zero, compressBlocks]
  | succ j ih =>
    have hcount : j + 1 + k = j + k + 1 := by omega
    have hbytes : 64 + 64 * j = 64 * (j + 1) := by omega
    rw [hcount, compressBlocks, ih, List.drop_drop, hbytes, compressBlocks]

/-- Whole blocks in front are compressed first. -/
theorem compressBlocks_split (j k : ℕ) (v : Working) {front : List UInt8} (behind : List UInt8)
    (hfront : front.length = 64 * j) :
    compressBlocks (j + k) v (front ++ behind) =
      compressBlocks k (compressBlocks j v front) behind := by
  rw [compressBlocks_add, compressBlocks_append j v front behind hfront.ge, ← hfront, List.drop_left]

/-! ## Updates -/

/-- A hash in progress, with the number of bytes it has seen. -/
structure Hasher where
  state : Working
  buffer : List UInt8
  length : ℕ

def Hasher.new : Hasher := ⟨initial, [], 0⟩

def Hasher.update (self : Hasher) (chunk : List UInt8) : Hasher :=
  let bytes := self.buffer ++ chunk
  let blocks := bytes.length / 64
  ⟨compressBlocks blocks self.state bytes, bytes.drop (64 * blocks), self.length + chunk.length⟩

/-- What stands behind a message of the given length. -/
def padding (length : ℕ) : List UInt8 :=
  [0x80] ++ List.replicate ((119 - length % 64) % 64) 0 ++ beList 8 (8 * length)

def Hasher.finalize (self : Hasher) : Bytes 32 :=
  let last := self.buffer ++ padding self.length
  digest (compressBlocks (last.length / 64) self.state last)

/-- The hash has seen `message`: the state is that of its whole blocks. -/
structure Hasher.Saw (hasher : Hasher) (message : List UInt8) : Prop where
  blocks : ∃ front k, message = front ++ hasher.buffer ∧ front.length = 64 * k ∧
    hasher.state = compressBlocks k initial front
  short : hasher.buffer.length < 64
  length : hasher.length = message.length

theorem Hasher.saw_new : Hasher.new.Saw [] where
  blocks := ⟨[], 0, rfl, rfl, rfl⟩
  short := by decide
  length := rfl

theorem Hasher.Saw.update {hasher : Hasher} {message : List UInt8} (h : hasher.Saw message)
    (chunk : List UInt8) : (hasher.update chunk).Saw (message ++ chunk) := by
  obtain ⟨front, k, hmessage, hfront, hstate⟩ := h.blocks
  have hle : 64 * ((hasher.buffer ++ chunk).length / 64) ≤ (hasher.buffer ++ chunk).length :=
    Nat.mul_div_le _ 64
  generalize hbytes : hasher.buffer ++ chunk = bytes at hle
  have hwhole : (bytes.take (64 * (bytes.length / 64))).length = 64 * (bytes.length / 64) :=
    List.length_take_of_le hle
  constructor
  · refine ⟨front ++ bytes.take (64 * (bytes.length / 64)), k + bytes.length / 64, ?_, ?_, ?_⟩
    · show message ++ chunk =
        _ ++ (hasher.buffer ++ chunk).drop (64 * ((hasher.buffer ++ chunk).length / 64))
      rw [hbytes, List.append_assoc, List.take_append_drop, ← hbytes, hmessage, List.append_assoc]
    · rw [List.length_append, hfront, hwhole, Nat.mul_add]
    · show compressBlocks ((hasher.buffer ++ chunk).length / 64) hasher.state
        (hasher.buffer ++ chunk) = _
      rw [hbytes, compressBlocks_split k _ _ _ hfront, ← hstate]
      have hsplit := compressBlocks_append (bytes.length / 64) hasher.state
        (bytes.take (64 * (bytes.length / 64))) (bytes.drop (64 * (bytes.length / 64))) hwhole.ge
      rw [← hsplit, List.take_append_drop]
  · show ((hasher.buffer ++ chunk).drop (64 * ((hasher.buffer ++ chunk).length / 64))).length < 64
    rw [hbytes, List.length_drop]
    omega
  · show hasher.length + chunk.length = _
    rw [h.length, List.length_append]

theorem Hasher.Saw.finalize {hasher : Hasher} {message : List UInt8} (h : hasher.Saw message) :
    hasher.finalize = sha256 message := by
  obtain ⟨front, k, hmessage, hfront, hstate⟩ := h.blocks
  have hpad : pad message = front ++ (hasher.buffer ++ padding hasher.length) := by
    rw [h.length, padding, ← List.append_assoc, ← hmessage, pad]
    simp only [List.append_assoc]
  have hblocks : (pad message).length / 64 =
      k + (hasher.buffer ++ padding hasher.length).length / 64 := by
    rw [hpad, List.length_append, hfront]
    omega
  rw [Hasher.finalize, sha256, hblocks, hpad, compressBlocks_split k _ _ _ hfront, ← hstate]

/-- Hashing a message in parts. -/
theorem Hasher.saw_foldl (chunks : List (List UInt8)) {hasher : Hasher} {message : List UInt8}
    (h : hasher.Saw message) :
    (chunks.foldl Hasher.update hasher).Saw (message ++ chunks.flatten) := by
  induction chunks generalizing hasher message with
  | nil =>
    rw [List.flatten_nil, List.append_nil]
    exact h
  | cons chunk chunks ih =>
    rw [List.foldl_cons, List.flatten_cons, ← List.append_assoc]
    exact ih (h.update chunk)

end Sha256

end Foundations
