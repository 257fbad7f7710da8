import Groth16Solana.Bn254.Moduli
import Groth16Solana.Verifier.HashToField

/-! # The verifier (`groth16.rs`)

A call on `&mut self` returns its result next to the verifier it leaves behind. The const parameter
`CHECK` is the argument `check`, and `cfg(feature = "bsb22")` is `rt.bsb22`. -/

set_option autoImplicit false

namespace Groth16Solana
open Foundations

structure CommitmentVerifyingKey where
  g2 : Bytes 128
  gSigmaNegG2 : Bytes 128
deriving DecidableEq

structure Groth16Verifyingkey where
  nrPubinputs : ℕ
  vkAlphaG1 : Bytes 64
  vkBetaG2 : Bytes 128
  vkGammaG2 : Bytes 128
  vkDeltaG2 : Bytes 128
  vkIc : List (Bytes 64)
  vkCommitment : Option CommitmentVerifyingKey
deriving DecidableEq

structure Groth16Verifier (nrInputs : ℕ) where
  proofA : Bytes 64
  proofB : Bytes 128
  proofC : Bytes 64
  publicInputs : Vector (Bytes 32) nrInputs
  preparedPublicInputs : Bytes 64
  verifyingkey : Groth16Verifyingkey
  proofCommitment : Option (Bytes 64)
  proofCommitmentPok : Option (Bytes 64)
deriving DecidableEq

variable (rt : Runtime) {nrInputs : ℕ}

/-! ## Group operations -/

def addInput (point acc : Bytes 64) : Bytes 128 :=
  let addInput := Bytes.zero 128
  let addInput := addInput.copyFromSlice 0 64 point
  addInput.copyFromSlice 64 128 acc

theorem toList_addInput (point acc : Bytes 64) :
    (addInput point acc).toList = point.toList ++ acc.toList := by
  have h₀ : (Bytes.zero 128).toList = [] ++ List.replicate 128 0 := rfl
  have h₁ := Bytes.toList_copyFromSlice_zero h₀ 0 64 point (by simp) (by decide)
  have h₂ := Bytes.toList_copyFromSlice_zero h₁ 64 128 acc (by simp) (by decide)
  simpa [addInput] using h₂

def g1Add (point acc : Bytes 64) : Except Groth16Error (Bytes 64) :=
  mapErr .preparingInputsG1AdditionFailed (g1AdditionBe rt (addInput point acc))

def mulInput (point : Bytes 64) (scalar : Bytes 32) : Bytes 96 :=
  let mulInput := Bytes.zero 96
  let mulInput := mulInput.copyFromSlice 0 64 point
  mulInput.copyFromSlice 64 96 scalar

theorem toList_mulInput (point : Bytes 64) (scalar : Bytes 32) :
    (mulInput point scalar).toList = point.toList ++ scalar.toList := by
  have h₀ : (Bytes.zero 96).toList = [] ++ List.replicate 96 0 := rfl
  have h₁ := Bytes.toList_copyFromSlice_zero h₀ 0 64 point (by simp) (by decide)
  have h₂ := Bytes.toList_copyFromSlice_zero h₁ 64 96 scalar (by simp) (by decide)
  simpa [mulInput] using h₂

def g1MulAdd (point : Bytes 64) (scalar : Bytes 32) (acc : Bytes 64) :
    Except Groth16Error (Bytes 64) := do
  let mulRes ← mapErr .preparingInputsG1MulFailed (g1MultiplicationBe rt (mulInput point scalar))
  g1Add rt mulRes acc

def frModulusBe : Bytes 32 :=
  #v[0x30, 0x64, 0x4e, 0x72, 0xe1, 0x31, 0xa0, 0x29, 0xb8, 0x50, 0x45, 0xb6, 0x81, 0x81, 0x58, 0x5d,
     0x28, 0x33, 0xe8, 0x48, 0x79, 0xb9, 0x70, 0x91, 0x43, 0xe1, 0xf5, 0x93, 0xf0, 0x00, 0x00, 0x01]

/-- The array order of Rust is the lexicographic one. -/
def isLessThanBn254FieldSizeBe (bytes : Bytes 32) : Bool :=
  decide (bytes.toList < frModulusBe.toList)

/-! ## Constructors -/

def Groth16Verifier.new (proofA : Bytes 64) (proofB : Bytes 128) (proofC : Bytes 64)
    (publicInputs : Vector (Bytes 32) nrInputs) (verifyingkey : Groth16Verifyingkey) :
    Except Groth16Error (Groth16Verifier nrInputs) :=
  if verifyingkey.vkCommitment.isSome then .error .unexpectedCommitmentKey
  else if publicInputs.size + 1 ≠ verifyingkey.vkIc.length then .error .invalidPublicInputsLength
  else .ok
    { proofA, proofB, proofC, publicInputs, verifyingkey
      preparedPublicInputs := Bytes.zero 64
      proofCommitment := none
      proofCommitmentPok := none }

/-- Compiled only with the `bsb22` feature. -/
def Groth16Verifier.newWithCommitment (proofA : Bytes 64) (proofB : Bytes 128) (proofC : Bytes 64)
    (proofCommitment proofCommitmentPok : Bytes 64) (publicInputs : Vector (Bytes 32) nrInputs)
    (verifyingkey : Groth16Verifyingkey) : Except Groth16Error (Groth16Verifier nrInputs) :=
  if verifyingkey.vkCommitment.isNone then .error .missingCommitmentKey
  else if publicInputs.size + 2 ≠ verifyingkey.vkIc.length then .error .invalidPublicInputsLength
  else .ok
    { proofA, proofB, proofC, publicInputs, verifyingkey
      preparedPublicInputs := Bytes.zero 64
      proofCommitment := some proofCommitment
      proofCommitmentPok := some proofCommitmentPok }

/-! ## Preparing the public inputs -/

/-- The loop over `public_inputs.iter().enumerate()` from index `i` on. -/
def accumulateInputs (check : Bool) (vkIc : List (Bytes 64)) :
    ℕ → List (Bytes 32) → Bytes 64 → Except Groth16Error (Bytes 64)
  | _, [], prepared => .ok prepared
  | i, input :: inputs, prepared => do
    if check && !isLessThanBn254FieldSizeBe input then
      throw .publicInputGreaterThanFieldSize
    let inputIc ← okOr .invalidPublicInputsLength vkIc[i + 1]?
    let prepared ← g1MulAdd rt inputIc input prepared
    accumulateInputs check vkIc (i + 1) inputs prepared

/-- `b"bsb22-commitment"`. -/
def bsb22Dst : Bytes 16 :=
  #v[0x62, 0x73, 0x62, 0x32, 0x32, 0x2d, 0x63, 0x6f, 0x6d, 0x6d, 0x69, 0x74, 0x6d, 0x65, 0x6e, 0x74]

theorem admitted_commitment : Admitted 64 16 := ⟨by decide, by decide⟩

def commitmentHash (commitment : Bytes 64) : Bytes 32 :=
  hashToFieldBn254Fr rt commitment bsb22Dst admitted_commitment

/-- The block under `cfg(feature = "bsb22")`. -/
def addCommitment (self : Groth16Verifier nrInputs) (prepared : Bytes 64) :
    Except Groth16Error (Bytes 64) :=
  if self.verifyingkey.vkCommitment.isSome ≠ self.proofCommitment.isSome then
    .error .bsb22InconsistentCommitmentState
  else
    match self.proofCommitment with
    | none => .ok prepared
    | some commitment => do
      let commitmentHashFe := commitmentHash rt commitment
      let commitmentHashIc ← okOr .invalidPublicInputsLength self.verifyingkey.vkIc[nrInputs + 1]?
      let prepared ← g1MulAdd rt commitmentHashIc commitmentHashFe prepared
      mapErr .bsb22InvalidCommitmentPoint (g1Add rt commitment prepared)

/-- The value `prepare_inputs` computes before it writes it to the verifier. -/
def preparedInputs (check : Bool) (self : Groth16Verifier nrInputs) :
    Except Groth16Error (Bytes 64) := do
  let prepared ← okOr .invalidPublicInputsLength self.verifyingkey.vkIc.head?
  let prepared ← accumulateInputs rt check self.verifyingkey.vkIc 0 self.publicInputs.toList prepared
  if rt.bsb22 then addCommitment rt self prepared else return prepared

def prepareInputs (check : Bool) (self : Groth16Verifier nrInputs) :
    Except Groth16Error Unit × Groth16Verifier nrInputs :=
  match preparedInputs rt check self with
  | .error err => (.error err, self)
  | .ok prepared => (.ok (), { self with preparedPublicInputs := prepared })

/-! ## Verifying -/

/-- The pairing call's input for a list of pairs. -/
def pairBytes (pairs : List (Bytes 64 × Bytes 128)) : List UInt8 :=
  pairs.flatMap fun p => p.1.toList ++ p.2.toList

/-- The buffer of four pairs: `(proof_a, proof_b)`, `(prepared, gamma)`, `(proof_c, delta)` and
`(alpha, beta)`. -/
def pairingInput (self : Groth16Verifier nrInputs) : Bytes 768 :=
  let pairingInput := Bytes.zero 768
  let pairingInput := pairingInput.copyFromSlice 0 64 self.proofA
  let pairingInput := pairingInput.copyFromSlice 64 192 self.proofB
  let pairingInput := pairingInput.copyFromSlice 192 256 self.preparedPublicInputs
  let pairingInput := pairingInput.copyFromSlice 256 384 self.verifyingkey.vkGammaG2
  let pairingInput := pairingInput.copyFromSlice 384 448 self.proofC
  let pairingInput := pairingInput.copyFromSlice 448 576 self.verifyingkey.vkDeltaG2
  let pairingInput := pairingInput.copyFromSlice 576 640 self.verifyingkey.vkAlphaG1
  pairingInput.copyFromSlice 640 768 self.verifyingkey.vkBetaG2

theorem toList_pairingInput (self : Groth16Verifier nrInputs) :
    (pairingInput self).toList =
      pairBytes [(self.proofA, self.proofB),
        (self.preparedPublicInputs, self.verifyingkey.vkGammaG2),
        (self.proofC, self.verifyingkey.vkDeltaG2),
        (self.verifyingkey.vkAlphaG1, self.verifyingkey.vkBetaG2)] := by
  have h₀ : (Bytes.zero 768).toList = [] ++ List.replicate 768 0 := rfl
  have h₁ := Bytes.toList_copyFromSlice_zero h₀ 0 64 self.proofA (by simp) (by decide)
  have h₂ := Bytes.toList_copyFromSlice_zero h₁ 64 192 self.proofB (by simp) (by decide)
  have h₃ := Bytes.toList_copyFromSlice_zero h₂ 192 256 self.preparedPublicInputs (by simp) (by decide)
  have h₄ := Bytes.toList_copyFromSlice_zero h₃ 256 384 self.verifyingkey.vkGammaG2 (by simp) (by decide)
  have h₅ := Bytes.toList_copyFromSlice_zero h₄ 384 448 self.proofC (by simp) (by decide)
  have h₆ := Bytes.toList_copyFromSlice_zero h₅ 448 576 self.verifyingkey.vkDeltaG2 (by simp) (by decide)
  have h₇ := Bytes.toList_copyFromSlice_zero h₆ 576 640 self.verifyingkey.vkAlphaG1 (by simp) (by decide)
  have h₈ := Bytes.toList_copyFromSlice_zero h₇ 640 768 self.verifyingkey.vkBetaG2 (by simp) (by decide)
  simpa [pairingInput, pairBytes] using h₈

def pokInput (commitment pok : Bytes 64) (commitmentKey : CommitmentVerifyingKey) : Bytes 384 :=
  let pokInput := Bytes.zero 384
  let pokInput := pokInput.copyFromSlice 0 64 commitment
  let pokInput := pokInput.copyFromSlice 64 192 commitmentKey.gSigmaNegG2
  let pokInput := pokInput.copyFromSlice 192 256 pok
  pokInput.copyFromSlice 256 384 commitmentKey.g2

theorem toList_pokInput (commitment pok : Bytes 64) (commitmentKey : CommitmentVerifyingKey) :
    (pokInput commitment pok commitmentKey).toList =
      pairBytes [(commitment, commitmentKey.gSigmaNegG2), (pok, commitmentKey.g2)] := by
  have h₀ : (Bytes.zero 384).toList = [] ++ List.replicate 384 0 := rfl
  have h₁ := Bytes.toList_copyFromSlice_zero h₀ 0 64 commitment (by simp) (by decide)
  have h₂ := Bytes.toList_copyFromSlice_zero h₁ 64 192 commitmentKey.gSigmaNegG2 (by simp) (by decide)
  have h₃ := Bytes.toList_copyFromSlice_zero h₂ 192 256 pok (by simp) (by decide)
  have h₄ := Bytes.toList_copyFromSlice_zero h₃ 256 384 commitmentKey.g2 (by simp) (by decide)
  simpa [pokInput, pairBytes] using h₄

/-- The pairing call, whose rejection and whose result other than one are both `err`. -/
def checkPairing (err : Groth16Error) (input : List UInt8) : Except Groth16Error Unit := do
  let pairingRes ← mapErr err (pairingBe rt input)
  if pairingRes[31] ≠ 1 then throw err

def verifyCommitmentPok (self : Groth16Verifier nrInputs) : Except Groth16Error Unit :=
  match self.proofCommitment, self.proofCommitmentPok, self.verifyingkey.vkCommitment with
  | some commitment, some pok, some commitmentKey =>
    checkPairing rt .commitmentPokVerificationFailed (pokInput commitment pok commitmentKey).toList
  | none, none, none => .ok ()
  | _, _, _ => .error .bsb22InconsistentCommitmentState

/-- What `verify_common` does once the inputs are prepared. -/
def verifyPrepared (self : Groth16Verifier nrInputs) : Except Groth16Error Unit := do
  checkPairing rt .proofVerificationFailed (pairingInput self).toList
  if rt.bsb22 then verifyCommitmentPok rt self

def verifyCommon (check : Bool) (self : Groth16Verifier nrInputs) :
    Except Groth16Error Unit × Groth16Verifier nrInputs :=
  match prepareInputs rt check self with
  | (.error err, self) => (.error err, self)
  | (.ok (), self) => (verifyPrepared rt self, self)

def verify (self : Groth16Verifier nrInputs) :
    Except Groth16Error Unit × Groth16Verifier nrInputs :=
  verifyCommon rt true self

def verifyUnchecked (self : Groth16Verifier nrInputs) :
    Except Groth16Error Unit × Groth16Verifier nrInputs :=
  verifyCommon rt false self

end Groth16Solana
