import Groth16Solana.Verifier.Groth16
import Groth16Solana.Verifier.Negation

/-! # The on-chain program (`tests/program/src/lib.rs`)

One instruction verifies one proof. The first byte of the instruction data selects one of eight
verifying keys and the layout of the rest; a `Failure` is what the client sees of a refused
instruction. -/

set_option autoImplicit false

namespace Groth16Solana

/-- `u32::from(error)`. -/
def Groth16Error.code : Groth16Error → UInt32
  | .proofVerificationFailed => 1
  | .preparingInputsG1AdditionFailed => 2
  | .preparingInputsG1MulFailed => 3
  | .invalidPublicInputsLength => 6
  | .decompressingG1Failed => 7
  | .decompressingG2Failed => 8
  | .publicInputGreaterThanFieldSize => 9
  | .arkworksSerializationError _ => 10
  | .proofConversionError => 11
  | .missingCommitmentKey => 12
  | .commitmentPokVerificationFailed => 13
  | .bsb22UnsupportedMultiCommitment => 15
  | .bsb22InvalidVerifyingKeyBinary => 16
  | .unexpectedCommitmentKey => 17
  | .bsb22CommittedPublicInputsUnsupported => 18
  | .bsb22VkFileIoFailed => 19
  | .bsb22InvalidCommitmentPoint => 20
  | .bsb22InconsistentCommitmentState => 21
  | .forgeableProductionVk => 22

namespace Program
open Foundations

inductive ProgramError where
  | invalidInstructionData
  | custom (code : UInt32)
deriving DecidableEq

/-- The lines of `msg!`, with what each of them prints. -/
inductive Message where
  /-- `unknown variant selector: {}` -/
  | unknownVariantSelector (selector : UInt8)
  /-- `invalid public input len: got {}, want {}` -/
  | invalidPublicInputLen (got want : ℕ)
  /-- `Groth16Verifier::new failed: {:?}` -/
  | newFailed (err : Groth16Error)
  /-- `new_with_commitment failed: {:?}` -/
  | newWithCommitmentFailed (err : Groth16Error)
  /-- `verify failed: {:?}` -/
  | verifyFailed (err : Groth16Error)
deriving DecidableEq

/-- The error an instruction ends with and the line logged before it. -/
structure Failure where
  error : ProgramError
  message : Option Message
deriving DecidableEq

/-- `ProgramError::InvalidInstructionData` without a line in the log. -/
def Failure.invalidData : Failure := ⟨.invalidInstructionData, none⟩

/-- `map_err` with the line that the closure logs. -/
def logged {α : Type} (message : Groth16Error → Message) :
    Except Groth16Error α → Except Failure α
  | .ok a => .ok a
  | .error err => .error ⟨.custom err.code, some (message err)⟩

/-- The baked verifying keys. -/
structure Keys where
  vkPlain1 : Groth16Verifyingkey
  vkPlain2 : Groth16Verifyingkey
  vkPlain4 : Groth16Verifyingkey
  vkPlain8 : Groth16Verifyingkey
  vkBsb221 : Groth16Verifyingkey
  vkBsb222 : Groth16Verifyingkey
  vkBsb224 : Groth16Verifyingkey
  vkBsb228 : Groth16Verifyingkey

/-! ## Payload lengths -/

def proofLen : ℕ := 64 + 128 + 64

def commitmentLen : ℕ := 64 + 64

def plainPayloadLen (nrInputs : ℕ) : ℕ := proofLen + nrInputs * 32

def bsb22PayloadLen (nrInputs : ℕ) : ℕ := proofLen + commitmentLen + nrInputs * 32

/-! ## Splitting the payload -/

/-- `data.split_at_checked(K)`. -/
def splitAtChecked (K : ℕ) (data : List UInt8) : Option (List UInt8 × List UInt8) :=
  if K ≤ data.length then some (data.splitAt K) else none

/-- `head.try_into()` of a slice into an array of `K` bytes. -/
def tryIntoArray (K : ℕ) (head : List UInt8) : Option (Bytes K) :=
  if h : head.length = K then some (Bytes.ofList head h) else none

def take (K : ℕ) (data : List UInt8) : Except Failure (Bytes K × List UInt8) := do
  let (head, rest) ← okOr .invalidData (splitAtChecked K data)
  let head ← okOr .invalidData (tryIntoArray K head)
  return (head, rest)

/-- The loop over `out.iter_mut().zip(data.chunks_exact(32))`. -/
def copyChunks : List (Bytes 32) → List UInt8 → List (Bytes 32)
  | [], _ => []
  | dst :: out, data =>
    if h : 32 ≤ data.length then
      dst.copyFromSlice 0 32 (Bytes.ofList (data.take 32) (List.length_take_of_le h)) ::
        copyChunks out (data.drop 32)
    else dst :: out

theorem length_copyChunks (out : List (Bytes 32)) (data : List UInt8) :
    (copyChunks out data).length = out.length := by
  induction out generalizing data with
  | nil => rfl
  | cons dst out ih =>
    rw [copyChunks]
    split
    · rw [List.length_cons, List.length_cons, ih]
    · rfl

def parsePublicInputs (N : ℕ) (data : List UInt8) : Except Failure (Vector (Bytes 32) N) :=
  if data.length ≠ N * 32 then
    .error ⟨.invalidInstructionData, some (.invalidPublicInputLen data.length (N * 32))⟩
  else
    let out : Vector (Bytes 32) N := Vector.replicate N (Bytes.zero 32)
    .ok ⟨(copyChunks out.toList data).toArray, by simp [length_copyChunks]⟩

/-! ## The instruction -/

section
variable (rt : Runtime)

def verify (N : ℕ) (payload : List UInt8) (vk : Groth16Verifyingkey) : Except Failure Unit := do
  let (proofA, payload) ← take 64 payload
  let (proofB, payload) ← take 128 payload
  let (proofC, payload) ← take 64 payload
  let publicInputs ← parsePublicInputs N payload
  let verifier ← logged .newFailed (Groth16Verifier.new proofA proofB proofC publicInputs vk)
  logged .verifyFailed (Groth16Solana.verify rt verifier).1

def verifyWithBsb22Commitment (N : ℕ) (payload : List UInt8) (vk : Groth16Verifyingkey) :
    Except Failure Unit := do
  let (proofA, payload) ← take 64 payload
  let (proofB, payload) ← take 128 payload
  let (proofC, payload) ← take 64 payload
  let (commitment, payload) ← take 64 payload
  let (pok, payload) ← take 64 payload
  let publicInputs ← parsePublicInputs N payload
  let verifier ← logged .newWithCommitmentFailed
    (Groth16Verifier.newWithCommitment proofA proofB proofC commitment pok publicInputs vk)
  logged .verifyFailed (Groth16Solana.verify rt verifier).1

def processInstruction (keys : Keys) (instructionData : List UInt8) : Except Failure Unit :=
  match instructionData with
  | [] => .error .invalidData
  | selector :: payload =>
    match selector.toNat with
    | 0 => verify rt 1 payload keys.vkPlain1
    | 1 => verify rt 2 payload keys.vkPlain2
    | 2 => verify rt 4 payload keys.vkPlain4
    | 3 => verify rt 8 payload keys.vkPlain8
    | 4 => verifyWithBsb22Commitment rt 1 payload keys.vkBsb221
    | 5 => verifyWithBsb22Commitment rt 2 payload keys.vkBsb222
    | 6 => verifyWithBsb22Commitment rt 4 payload keys.vkBsb224
    | 7 => verifyWithBsb22Commitment rt 8 payload keys.vkBsb228
    | _ => .error ⟨.invalidInstructionData, some (.unknownVariantSelector selector)⟩

end

/-! ## Building instruction data -/

/-- A `Fixture`; only the first point of the proof has a length in its type. -/
structure Fixture where
  selector : UInt8
  nrInputs : ℕ
  proofA : Bytes 64
  proofB : List UInt8
  proofC : List UInt8
  commitment : Option (List UInt8 × List UInt8)
  publicInputs : List UInt8

/-- The instruction data of a fixture, or `none` where the length assertion panics. -/
def buildIxData (f : Fixture) : Option (List UInt8) :=
  let proofANeg := negateG1Be f.proofA
  let payloadLen := match f.commitment with
    | some _ => bsb22PayloadLen f.nrInputs
    | none => plainPayloadLen f.nrInputs
  let data := [f.selector] ++ proofANeg.toList ++ f.proofB ++ f.proofC
  let data := match f.commitment with
    | some (commitment, pok) => data ++ commitment ++ pok
    | none => data
  let data := data ++ f.publicInputs
  if data.length = 1 + payloadLen then some data else none

end Program

end Groth16Solana
