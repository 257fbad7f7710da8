import Groth16Solana.Foundations.Cursor
import Groth16Solana.Verifier.Groth16

/-! # Parsing gnark's `vk.bin` (`vk/gnark.rs`)

`parse_gnark_vk_bytes` reads fixed-size fields, the K array and the two trailing BSB22 sections, in
three readers here. -/

set_option autoImplicit false

namespace Groth16Solana
open Foundations

structure Groth16VerifyingkeyOwned where
  nrPubinputs : ℕ
  vkAlphaG1 : Bytes 64
  vkBetaG2 : Bytes 128
  vkGammaG2 : Bytes 128
  vkDeltaG2 : Bytes 128
  vkIc : List (Bytes 64)
  vkCommitment : Option CommitmentVerifyingKey
deriving DecidableEq

def Groth16VerifyingkeyOwned.asBorrowed (self : Groth16VerifyingkeyOwned) : Groth16Verifyingkey :=
  { nrPubinputs := self.nrPubinputs
    vkAlphaG1 := self.vkAlphaG1
    vkBetaG2 := self.vkBetaG2
    vkGammaG2 := self.vkGammaG2
    vkDeltaG2 := self.vkDeltaG2
    vkIc := self.vkIc
    vkCommitment := self.vkCommitment }

/-! ## The cursor -/

abbrev GnarkReader := Reader Groth16Error

def take (n : ℕ) : GnarkReader (Bytes n) := takeBytes .bsb22InvalidVerifyingKeyBinary n

def skip (n : ℕ) : GnarkReader Unit := do
  let _ ← take n

def take64 : GnarkReader (Bytes 64) := take 64

def take128 : GnarkReader (Bytes 128) := take 128

def u32 : GnarkReader ℕ := takeU32 .bsb22InvalidVerifyingKeyBinary

/-! ## The parser -/

/-- The fixed-size fields: alpha, beta, gamma and delta. -/
def readHead : GnarkReader (Bytes 64 × Bytes 128 × Bytes 128 × Bytes 128) := do
  let vkAlphaG1 ← take64
  skip 64
  let vkBetaG2 ← take128
  let vkGammaG2 ← take128
  skip 64
  let vkDeltaG2 ← take128
  return (vkAlphaG1, vkBetaG2, vkGammaG2, vkDeltaG2)

/-- `nbK` and the K array, which is allocated only after the check that the buffer holds it. -/
def readRows : GnarkReader (ℕ × List (Bytes 64)) := do
  let nbK ← u32
  refuse .bsb22InvalidVerifyingKeyBinary (nbK = 0)
  let left ← remaining
  refuse .bsb22InvalidVerifyingKeyBinary (left / 64 < nbK)
  let vkIc ← takeMany take64 nbK
  return (nbK, vkIc)

/-- One turn of the loop over the committed-wire lists. -/
def readCommittedWires : GnarkReader Unit := do
  let innerLen ← u32
  refuse .bsb22CommittedPublicInputsUnsupported (innerLen ≠ 0)

def readCommitment : GnarkReader (Option CommitmentVerifyingKey) := do
  let outerLen ← u32
  refuse .bsb22UnsupportedMultiCommitment (1 < outerLen)
  let _ ← takeMany readCommittedWires outerLen
  let nbCommitments ← u32
  refuse .bsb22UnsupportedMultiCommitment (1 < nbCommitments)
  refuse .bsb22InvalidVerifyingKeyBinary (nbCommitments ≠ outerLen)
  if nbCommitments = 1 then do
    let g2 ← take128
    let gSigmaNegG2 ← take128
    return some { g2, gSigmaNegG2 }
  else return none

/-- What `parse_gnark_vk_bytes` has read when it reaches its end check. -/
structure GnarkFields where
  vkAlphaG1 : Bytes 64
  vkBetaG2 : Bytes 128
  vkGammaG2 : Bytes 128
  vkDeltaG2 : Bytes 128
  nbK : ℕ
  vkIc : List (Bytes 64)
  vkCommitment : Option CommitmentVerifyingKey

def readFields : GnarkReader GnarkFields := do
  let (vkAlphaG1, vkBetaG2, vkGammaG2, vkDeltaG2) ← readHead
  let (nbK, vkIc) ← readRows
  let vkCommitment ← readCommitment
  return { vkAlphaG1, vkBetaG2, vkGammaG2, vkDeltaG2, nbK, vkIc, vkCommitment }

/-- The public inputs of a key with `nbK` rows. -/
def nrPubinputsOf (nbK : ℕ) (committed : Bool) : Except Groth16Error ℕ :=
  if committed then
    if nbK < 2 then .error .bsb22InvalidVerifyingKeyBinary else .ok (nbK - 2)
  else .ok (nbK - 1)

def parseGnarkVkBytes (bytes : List UInt8) : Except Groth16Error Groth16VerifyingkeyOwned := do
  let (fields, cursor) ← readFields.run (Cursor.new bytes)
  if cursor.pos ≠ bytes.length then .error .bsb22InvalidVerifyingKeyBinary
  else do
    let nrPubinputs ← nrPubinputsOf fields.nbK fields.vkCommitment.isSome
    return {
      nrPubinputs
      vkAlphaG1 := fields.vkAlphaG1
      vkBetaG2 := fields.vkBetaG2
      vkGammaG2 := fields.vkGammaG2
      vkDeltaG2 := fields.vkDeltaG2
      vkIc := fields.vkIc
      vkCommitment := fields.vkCommitment }

end Groth16Solana
