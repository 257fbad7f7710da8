import Groth16Solana.Foundations.BigEndian

/-! # SHA-256

FIPS 180-4 on byte lists, with 32-bit words as naturals below `2 ^ 32`, so that the kernel computes
a digest with its own arithmetic. -/

set_option autoImplicit false

namespace Foundations

namespace Sha256

def roundConstants : List ℕ :=
  [0x428a2f98, 0x71374491, 0xb5c0fbcf, 0xe9b5dba5, 0x3956c25b, 0x59f111f1, 0x923f82a4, 0xab1c5ed5,
   0xd807aa98, 0x12835b01, 0x243185be, 0x550c7dc3, 0x72be5d74, 0x80deb1fe, 0x9bdc06a7, 0xc19bf174,
   0xe49b69c1, 0xefbe4786, 0x0fc19dc6, 0x240ca1cc, 0x2de92c6f, 0x4a7484aa, 0x5cb0a9dc, 0x76f988da,
   0x983e5152, 0xa831c66d, 0xb00327c8, 0xbf597fc7, 0xc6e00bf3, 0xd5a79147, 0x06ca6351, 0x14292967,
   0x27b70a85, 0x2e1b2138, 0x4d2c6dfc, 0x53380d13, 0x650a7354, 0x766a0abb, 0x81c2c92e, 0x92722c85,
   0xa2bfe8a1, 0xa81a664b, 0xc24b8b70, 0xc76c51a3, 0xd192e819, 0xd6990624, 0xf40e3585, 0x106aa070,
   0x19a4c116, 0x1e376c08, 0x2748774c, 0x34b0bcb5, 0x391c0cb3, 0x4ed8aa4a, 0x5b9cca4f, 0x682e6ff3,
   0x748f82ee, 0x78a5636f, 0x84c87814, 0x8cc70208, 0x90befffa, 0xa4506ceb, 0xbef9a3f7, 0xc67178f2]

def rotr (n x : ℕ) : ℕ := x >>> n ||| (x <<< (32 - n)) % 2 ^ 32

/-- The working variables `a` to `h`. -/
structure Working where
  a : ℕ
  b : ℕ
  c : ℕ
  d : ℕ
  e : ℕ
  f : ℕ
  g : ℕ
  h : ℕ

def initial : Working :=
  ⟨0x6a09e667, 0xbb67ae85, 0x3c6ef372, 0xa54ff53a,
    0x510e527f, 0x9b05688c, 0x1f83d9ab, 0x5be0cd19⟩

/-- One further word of the message schedule, from the words before it, latest first. -/
def scheduleWord (ws : List ℕ) : ℕ :=
  let w2 := ws.getD 1 0
  let w7 := ws.getD 6 0
  let w15 := ws.getD 14 0
  let w16 := ws.getD 15 0
  let s0 := rotr 7 w15 ^^^ rotr 18 w15 ^^^ w15 >>> 3
  let s1 := rotr 17 w2 ^^^ rotr 19 w2 ^^^ w2 >>> 10
  (s1 + w7 + s0 + w16) % 2 ^ 32

def extend : ℕ → List ℕ → List ℕ
  | 0, ws => ws
  | k + 1, ws => extend k (scheduleWord ws :: ws)

def schedule (block : List ℕ) : List ℕ := (extend 48 block.reverse).reverse

def round (v : Working) (kw : ℕ × ℕ) : Working :=
  let s1 := rotr 6 v.e ^^^ rotr 11 v.e ^^^ rotr 25 v.e
  let ch := (v.e &&& v.f) ^^^ ((v.e ^^^ 0xffffffff) &&& v.g)
  let t1 := v.h + s1 + ch + kw.1 + kw.2
  let s0 := rotr 2 v.a ^^^ rotr 13 v.a ^^^ rotr 22 v.a
  let maj := (v.a &&& v.b) ^^^ (v.a &&& v.c) ^^^ (v.b &&& v.c)
  ⟨(t1 + s0 + maj) % 2 ^ 32, v.a, v.b, v.c, (v.d + t1) % 2 ^ 32, v.e, v.f, v.g⟩

def compress (v : Working) (block : List ℕ) : Working :=
  let v' := (roundConstants.zip (schedule block)).foldl round v
  let add (x y : ℕ) : ℕ := (x + y) % 2 ^ 32
  ⟨add v.a v'.a, add v.b v'.b, add v.c v'.c, add v.d v'.d, add v.e v'.e, add v.f v'.f, add v.g v'.g,
    add v.h v'.h⟩

def pad (message : List UInt8) : List UInt8 :=
  let zeros := (119 - message.length % 64) % 64
  message ++ [0x80] ++ List.replicate zeros 0 ++ beList 8 (8 * message.length)

/-- The first `k` big-endian 32-bit words. -/
def words : ℕ → List UInt8 → List ℕ
  | 0, _ => []
  | k + 1, bytes => beNat (bytes.take 4) :: words k (bytes.drop 4)

def compressBlocks : ℕ → Working → List UInt8 → Working
  | 0, v, _ => v
  | k + 1, v, bytes => compressBlocks k (compress v (words 16 bytes)) (bytes.drop 64)

def digest (v : Working) : Bytes 32 :=
  beBytes 32 (((((((v.a * 2 ^ 32 + v.b) * 2 ^ 32 + v.c) * 2 ^ 32 + v.d) * 2 ^ 32 + v.e) * 2 ^ 32 +
    v.f) * 2 ^ 32 + v.g) * 2 ^ 32 + v.h)

end Sha256

open Sha256 in
def sha256 (message : List UInt8) : Bytes 32 :=
  let padded := pad message
  digest (compressBlocks (padded.length / 64) initial padded)

end Foundations
