import Groth16Solana.Foundations.BigEndian

/-! # `expand_message_xmd` of RFC 9380

The expander over any hash function, for any output length. `xmdBlock` is the chain of hash values
`b_0, b_1, ..`; the expansion is the first bytes of `b_1 || b_2 || ..`. -/

set_option autoImplicit false

namespace Foundations

section Xmd
variable {hashSize : ℕ} (hash : List UInt8 → Bytes hashSize) (blockSize len : ℕ) (msg dst : List UInt8)

/-- `DST_prime`. -/
def xmdDstPrime : List UInt8 := dst ++ beList 1 dst.length

/-- `msg_prime`. -/
def xmdMsgPrime : List UInt8 :=
  List.replicate blockSize 0 ++ msg ++ beList 2 len ++ beList 1 0 ++ xmdDstPrime dst

/-- `strxor`. -/
def strxor (a b : List UInt8) : List UInt8 := List.zipWith (fun x y => x ^^^ y) a b

/-- `b_i`. -/
def xmdBlock : ℕ → List UInt8
  | 0 => (hash (xmdMsgPrime blockSize len msg dst)).toList
  | 1 => (hash (xmdBlock 0 ++ beList 1 1 ++ xmdDstPrime dst)).toList
  | i + 2 => (hash (strxor (xmdBlock 0) (xmdBlock (i + 1)) ++ beList 1 (i + 2) ++ xmdDstPrime dst)).toList

theorem xmdBlock_zero : xmdBlock hash blockSize len msg dst 0 =
    (hash (List.replicate blockSize 0 ++ msg ++ beList 2 len ++ [0] ++ xmdDstPrime dst)).toList := by
  have hzero : beList 1 0 = [0] := rfl
  rw [xmdBlock, xmdMsgPrime, hzero]

theorem xmdBlock_one : xmdBlock hash blockSize len msg dst 1 =
    (hash (xmdBlock hash blockSize len msg dst 0 ++ [1] ++ xmdDstPrime dst)).toList := by
  have hone : beList 1 1 = [1] := rfl
  simp only [xmdBlock, hone]

theorem xmdBlock_two : xmdBlock hash blockSize len msg dst 2 =
    (hash (strxor (xmdBlock hash blockSize len msg dst 0) (xmdBlock hash blockSize len msg dst 1) ++ [2] ++
      xmdDstPrime dst)).toList := by
  have htwo : beList 1 2 = [2] := rfl
  simp only [xmdBlock, zero_add, htwo]

/-- `expand_message_xmd(msg, DST, len_in_bytes)` with `ell = ceil(len_in_bytes / b_in_bytes)`. -/
def xmdExpand : List UInt8 :=
  let ell := (len + hashSize - 1) / hashSize
  ((List.range ell).flatMap fun i => xmdBlock hash blockSize len msg dst (i + 1)).take len

/-- An output that two blocks cover. -/
theorem xmdExpand_of_two_blocks (h : (len + hashSize - 1) / hashSize = 2) :
    xmdExpand hash blockSize len msg dst =
      (xmdBlock hash blockSize len msg dst 1 ++ xmdBlock hash blockSize len msg dst 2).take len := by
  have hrange : List.range 2 = [0, 1] := rfl
  simp only [xmdExpand, h, hrange, List.flatMap_cons, List.flatMap_nil, List.append_nil]

end Xmd

end Foundations
