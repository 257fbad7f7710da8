import Groth16Solana.Foundations.Bytes
import Groth16Solana.Foundations.Outcome
import Groth16Solana.Verifier.Errors

/-! # The calls the crate makes outside itself

`Runtime` collects what the verification path takes from its surroundings: the `bsb22` feature of
the build, the alt_bn128 and SHA-256 syscalls, and the stored-limb arithmetic of arkworks' `Fr`.
The wrappers below are those of `syscalls.rs`; both target variants turn a failed call into the
same error. -/

set_option autoImplicit false

namespace Groth16Solana
open Foundations

/-- `ark_ff::BigInt<4>`: four `u64` limbs, least significant first. -/
abbrev BigInt4 := Vector UInt64 4

/-- `ark_bn254::Fr` on its stored limbs: `Fr::new(n)`, `a * b` and `a + b`. -/
structure ArkFr where
  new : BigInt4 → BigInt4
  mul : BigInt4 → BigInt4 → BigInt4
  add : BigInt4 → BigInt4 → BigInt4

structure Runtime where
  /-- The crate is built with `cfg(feature = "bsb22")`. -/
  bsb22 : Bool
  /-- `sol_alt_bn128_group_op` with `G1_ADD_BE`; `none` for a nonzero return code. -/
  altBn128G1Addition : Bytes 128 → Option (Bytes 64)
  /-- `sol_alt_bn128_group_op` with `G1_MUL_BE`. -/
  altBn128G1Multiplication : Bytes 96 → Option (Bytes 64)
  /-- `sol_alt_bn128_group_op` with `PAIRING_BE`. -/
  altBn128Pairing : List UInt8 → Option (Bytes 32)
  /-- `sol_sha256` on one slice. -/
  sha256 : List UInt8 → Bytes 32
  fr : ArkFr

variable (rt : Runtime)

def g1AdditionBe (input : Bytes 128) : Except Groth16Error (Bytes 64) :=
  okOr .preparingInputsG1AdditionFailed (rt.altBn128G1Addition input)

def g1MultiplicationBe (input : Bytes 96) : Except Groth16Error (Bytes 64) :=
  okOr .preparingInputsG1MulFailed (rt.altBn128G1Multiplication input)

def pairingBe (input : List UInt8) : Except Groth16Error (Bytes 32) :=
  okOr .proofVerificationFailed (rt.altBn128Pairing input)

end Groth16Solana
