import Groth16Solana.Bn254.Twist
import Groth16Solana.Foundations.Outcome
import Groth16Solana.Verifier.Errors

/-! # Affine points of arkworks

What `proof_parser.rs` uses of arkworks: the decoder of a field element, `Valid::check`, negation, and
the uncompressed serializer, which ORs its flags into the last byte of `y`. -/

set_option autoImplicit false

namespace Groth16Solana
open Foundations

structure ArkAffine (F : Type) where
  x : F
  y : F
  infinity : Bool
deriving DecidableEq

namespace ArkAffine

variable {F : Type}

def identity [Zero F] : ArkAffine F := ⟨0, 0, true⟩

def newUnchecked (x y : F) : ArkAffine F := ⟨x, y, false⟩

def neg [Neg F] (self : ArkAffine F) : ArkAffine F := { self with y := -self.y }

end ArkAffine

abbrev G1Affine := ArkAffine Fq

abbrev G2Affine := ArkAffine Fq2

/-- `check()` in G1, which has no point outside the subgroup. -/
def G1Affine.isValid (self : G1Affine) : Bool :=
  self.infinity || decide (self.y ^ 2 = self.x ^ 3 + curveB)

/-- `check()` in G2: on the curve and in the subgroup. -/
def G2Affine.isValid (self : G2Affine) : Bool :=
  self.infinity ||
    if h : self.y ^ 2 = self.x ^ 3 + twistB then decide (InG2 (.some self.x self.y (twist_nonsingular h)))
    else false

def checkPoint (isValid : Bool) : Except Groth16Error Unit :=
  if isValid then .ok () else .error (.arkworksSerializationError .invalidData)

/-! ## Field elements -/

/-- `Fq::deserialize_uncompressed`, which expects no flag in the top bit. -/
def fqDeserialize (bytes : Bytes 32) : Except Groth16Error Fq :=
  if 2 ^ 255 ≤ leNat bytes.toList then .error (.arkworksSerializationError .unexpectedFlags)
  else if leNat bytes.toList < fqModulus then .ok (leNat bytes.toList : Fq)
  else .error (.arkworksSerializationError .invalidData)

/-- `Fq::serialize_with_mode`. -/
def fqSerialize (x : Fq) : Bytes 32 := leBytes 32 x.val

def fqLe (x y : Fq) : Bool := decide (x.val ≤ y.val)

/-- The order of `Fq2`: by `c1`, then by `c0`. -/
def fq2Le (x y : Fq2) : Bool :=
  decide (x.im.val < y.im.val ∨ (x.im.val = y.im.val ∧ x.re.val ≤ y.re.val))

/-! ## Points -/

inductive SWFlags where
  | yIsPositive
  | pointAtInfinity
  | yIsNegative
deriving DecidableEq

def SWFlags.u8Bitmask : SWFlags → UInt8
  | .yIsPositive => 0
  | .pointAtInfinity => 0x40
  | .yIsNegative => 0x80

/-- `to_flags()`. -/
def toFlags {F : Type} [Neg F] (le : F → F → Bool) (self : ArkAffine F) : SWFlags :=
  if self.infinity then .pointAtInfinity
  else if le self.y (-self.y) then .yIsPositive
  else .yIsNegative

/-- The last byte takes the flags. -/
def fqSerializeWithFlags (x : Fq) (flags : SWFlags) : Bytes 32 :=
  Bytes.ofList ((fqSerialize x).toList.modify 31 (· ||| flags.u8Bitmask)) (by simp)

def fq2Serialize (x : Fq2) : Bytes 64 := fqSerialize x.re ++ fqSerialize x.im

def fq2SerializeWithFlags (x : Fq2) (flags : SWFlags) : Bytes 64 :=
  fqSerialize x.re ++ fqSerializeWithFlags x.im flags

/-- `serialize_with_mode(_, Compress::No)` in G1. -/
def G1Affine.serialize (self : G1Affine) : Bytes 64 :=
  let flags := toFlags fqLe self
  if self.infinity then fqSerialize 0 ++ fqSerializeWithFlags 0 flags
  else fqSerialize self.x ++ fqSerializeWithFlags self.y flags

/-- `serialize_with_mode(_, Compress::No)` in G2. -/
def G2Affine.serialize (self : G2Affine) : Bytes 128 :=
  let flags := toFlags fq2Le self
  if self.infinity then fq2Serialize 0 ++ fq2SerializeWithFlags 0 flags
  else fq2Serialize self.x ++ fq2SerializeWithFlags self.y flags

/-! ## Byte order -/

/-- The first `count` chunks of `size` bytes, each in reverse. -/
def reverseChunks (size : ℕ) : ℕ → List UInt8 → List UInt8
  | 0, _ => []
  | count + 1, bytes => (bytes.take size).reverse ++ reverseChunks size count (bytes.drop size)

theorem reverseChunks_length {size count : ℕ} {bytes : List UInt8}
    (h : bytes.length = count * size) :
    (reverseChunks size count bytes).length = count * size := by
  induction count generalizing bytes with
  | zero => rw [reverseChunks, List.length_nil, Nat.zero_mul]
  | succ count ih =>
    rw [Nat.succ_mul] at h
    rw [reverseChunks, List.length_append, List.length_reverse, List.length_take, ih (by
      rw [List.length_drop]
      omega), Nat.succ_mul]
    omega

/-- `convert_endianness::<size, {count * size}>`. -/
def convertEndianness (size count : ℕ) (bytes : Bytes (count * size)) : Bytes (count * size) :=
  Bytes.ofList (reverseChunks size count bytes.toList) (reverseChunks_length (by simp))

end Groth16Solana
