/-! # `Groth16Error`

The error enum of the crate, with the variants of every feature. -/

set_option autoImplicit false

namespace Groth16Solana

/-- The variants of arkworks' `SerializationError` that the conversion of a proof meets. -/
inductive SerializationError where
  | invalidData
  | unexpectedFlags
deriving DecidableEq, Repr

inductive Groth16Error where
  | proofVerificationFailed
  | preparingInputsG1AdditionFailed
  | preparingInputsG1MulFailed
  | invalidPublicInputsLength
  | decompressingG1Failed
  | decompressingG2Failed
  | publicInputGreaterThanFieldSize
  /-- With the error of arkworks in place of its text. -/
  | arkworksSerializationError (err : SerializationError)
  | proofConversionError
  | missingCommitmentKey
  | commitmentPokVerificationFailed
  | bsb22UnsupportedMultiCommitment
  | bsb22InvalidVerifyingKeyBinary
  | unexpectedCommitmentKey
  | bsb22CommittedPublicInputsUnsupported
  | bsb22VkFileIoFailed
  | bsb22InvalidCommitmentPoint
  | bsb22InconsistentCommitmentState
  | forgeableProductionVk
deriving DecidableEq, Repr

end Groth16Solana
