import Groth16Solana.Circom.ArkPoint
import Groth16Solana.Circom.BigUint

/-! # Converting a circom proof (`proof_parser.rs`) -/

set_option autoImplicit false

namespace Groth16Solana
open Foundations

/-! ## circom-prover's proof -/

structure CircomG1 where
  x : ℕ
  y : ℕ
  z : ℕ
deriving DecidableEq

/-- The pairs are `[c0, c1]`. -/
structure CircomG2 where
  x : ℕ × ℕ
  y : ℕ × ℕ
  z : ℕ × ℕ
deriving DecidableEq

structure CircomProof where
  a : CircomG1
  b : CircomG2
  c : CircomG1
deriving DecidableEq

/-! ## The conversion -/

abbrev ProofBytes := Bytes 64 × Bytes 128 × Bytes 64

def convertCoordinate (coordinateLe : List UInt8) : Except Groth16Error Fq := do
  let coordinatePadded ← okOr .proofConversionError
    (Bytes.copyFromSlice? (Bytes.zero 32) 0 coordinateLe.length coordinateLe)
  fqDeserialize coordinatePadded

def convertG1 (point : CircomG1) : Except Groth16Error G1Affine := do
  let x ← convertCoordinate (toBytesLe point.x)
  let y ← convertCoordinate (toBytesLe point.y)
  let affine : G1Affine := if x = 0 ∧ y = 0 then ArkAffine.identity else ArkAffine.newUnchecked x y
  checkPoint affine.isValid
  return affine

def convertG2 (point : CircomG2) : Except Groth16Error G2Affine := do
  let x0 ← convertCoordinate (toBytesLe point.x.1)
  let x1 ← convertCoordinate (toBytesLe point.x.2)
  let y0 ← convertCoordinate (toBytesLe point.y.1)
  let y1 ← convertCoordinate (toBytesLe point.y.2)
  let x : Fq2 := ⟨x0, x1⟩
  let y : Fq2 := ⟨y0, y1⟩
  let affine : G2Affine := if x = 0 ∧ y = 0 then ArkAffine.identity else ArkAffine.newUnchecked x y
  checkPoint affine.isValid
  return affine

/-- `A` is serialized coordinate by coordinate. -/
def serializeProofA (proofANeg : G1Affine) : Bytes 64 :=
  let proofASerialized := (Bytes.zero 65).copyFromSlice 0 32 (fqSerialize proofANeg.x)
  let proofASerialized := proofASerialized.copyFromSlice 32 64 (fqSerialize proofANeg.y)
  convertEndianness 32 2 (proofASerialized.take 64)

/-- `B` is serialized as a point. -/
def serializeProofB (proofBPoint : G2Affine) : Bytes 128 :=
  let proofBSerialized := (Bytes.zero 129).copyFromSlice 0 128 (G2Affine.serialize proofBPoint)
  convertEndianness 64 2 (proofBSerialized.take 128)

/-- `C` is serialized as a point. -/
def serializeProofC (proofCPoint : G1Affine) : Bytes 64 :=
  let proofCSerialized := (Bytes.zero 65).copyFromSlice 0 64 (G1Affine.serialize proofCPoint)
  convertEndianness 32 2 (proofCSerialized.take 64)

def convertProof (circomProof : CircomProof) : Except Groth16Error ProofBytes := do
  let proofAPoint ← convertG1 circomProof.a
  let proofANeg := proofAPoint.neg
  let proofBPoint ← convertG2 circomProof.b
  let proofCPoint ← convertG1 circomProof.c
  return (serializeProofA proofANeg, serializeProofB proofBPoint, serializeProofC proofCPoint)

end Groth16Solana
