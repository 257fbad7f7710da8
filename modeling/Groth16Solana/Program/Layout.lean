import Groth16Solana.Program.Instruction

/-! # The layout of instruction data

An `Instruction` is a selector with the fields that its variant has. Its bytes are dispatched to the
verifier that they name, and every other byte string is refused before a proof is looked at. -/

set_option autoImplicit false

namespace Groth16Solana.Program
open Foundations

/-! ## Instructions -/

/-- The numbers of public inputs that a key is baked for. -/
inductive Size where
  | one
  | two
  | four
  | eight
deriving DecidableEq

def Size.nrInputs : Size → ℕ
  | .one => 1
  | .two => 2
  | .four => 4
  | .eight => 8

def Size.index : Size → ℕ
  | .one => 0
  | .two => 1
  | .four => 2
  | .eight => 3

inductive Instruction where
  | plain (size : Size) (proofA : Bytes 64) (proofB : Bytes 128) (proofC : Bytes 64)
      (publicInputs : Vector (Bytes 32) size.nrInputs)
  | bsb22 (size : Size) (proofA : Bytes 64) (proofB : Bytes 128) (proofC : Bytes 64)
      (commitment pok : Bytes 64) (publicInputs : Vector (Bytes 32) size.nrInputs)

def Keys.plain (keys : Keys) : Size → Groth16Verifyingkey
  | .one => keys.vkPlain1
  | .two => keys.vkPlain2
  | .four => keys.vkPlain4
  | .eight => keys.vkPlain8

def Keys.bsb22 (keys : Keys) : Size → Groth16Verifyingkey
  | .one => keys.vkBsb221
  | .two => keys.vkBsb222
  | .four => keys.vkBsb224
  | .eight => keys.vkBsb228

def inputBytes (inputs : List (Bytes 32)) : List UInt8 := inputs.flatMap Vector.toList

def proofBytes (proofA : Bytes 64) (proofB : Bytes 128) (proofC : Bytes 64) (rest : List UInt8) :
    List UInt8 :=
  proofA.toList ++ (proofB.toList ++ (proofC.toList ++ rest))

/-- The selector and the fields one after the other. -/
def Instruction.bytes : Instruction → List UInt8
  | .plain size proofA proofB proofC publicInputs =>
    UInt8.ofNat size.index :: proofBytes proofA proofB proofC (inputBytes publicInputs.toList)
  | .bsb22 size proofA proofB proofC commitment pok publicInputs =>
    UInt8.ofNat (4 + size.index) :: proofBytes proofA proofB proofC
      (commitment.toList ++ (pok.toList ++ inputBytes publicInputs.toList))

section
variable (rt : Runtime)

def runPlain {n : ℕ} (vk : Groth16Verifyingkey) (proofA : Bytes 64) (proofB : Bytes 128)
    (proofC : Bytes 64) (publicInputs : Vector (Bytes 32) n) : Except Failure Unit := do
  let verifier ← logged .newFailed (Groth16Verifier.new proofA proofB proofC publicInputs vk)
  logged .verifyFailed (Groth16Solana.verify rt verifier).1

def runBsb22 {n : ℕ} (vk : Groth16Verifyingkey) (proofA : Bytes 64) (proofB : Bytes 128)
    (proofC commitment pok : Bytes 64) (publicInputs : Vector (Bytes 32) n) :
    Except Failure Unit := do
  let verifier ← logged .newWithCommitmentFailed
    (Groth16Verifier.newWithCommitment proofA proofB proofC commitment pok publicInputs vk)
  logged .verifyFailed (Groth16Solana.verify rt verifier).1

/-- The verifier call that an instruction asks for. -/
def Instruction.run (keys : Keys) : Instruction → Except Failure Unit
  | .plain size proofA proofB proofC publicInputs =>
    runPlain rt (keys.plain size) proofA proofB proofC publicInputs
  | .bsb22 size proofA proofB proofC commitment pok publicInputs =>
    runBsb22 rt (keys.bsb22 size) proofA proofB proofC commitment pok publicInputs

end

/-! ## Fields -/

theorem length_inputBytes (inputs : List (Bytes 32)) :
    (inputBytes inputs).length = inputs.length * 32 := by
  induction inputs with
  | nil => rfl
  | cons input inputs ih =>
    rw [inputBytes, List.flatMap_cons, List.length_append, Vector.length_toList, List.length_cons]
    rw [inputBytes] at ih
    omega

theorem tryIntoArray_toList {K : ℕ} (head : Bytes K) : tryIntoArray K head.toList = some head := by
  rw [tryIntoArray, dif_pos head.length_toList]
  exact congrArg some (Vector.toList_inj.mp (Bytes.toList_ofList _ _))

theorem take_append {K : ℕ} (head : Bytes K) (rest : List UInt8) :
    take K (head.toList ++ rest) = .ok (head, rest) := by
  have hlen : K ≤ (head.toList ++ rest).length := by simp
  have hsplit : (head.toList ++ rest).splitAt K = (head.toList, rest) := by
    rw [List.splitAt_eq, List.take_left' (by simp), List.drop_left' (by simp)]
  rw [take, splitAtChecked, if_pos hlen, hsplit, okOr_some, ok_bind]
  simp only [tryIntoArray_toList, okOr_some, ok_bind]
  rfl

theorem take_short {K : ℕ} {data : List UInt8} (h : data.length < K) :
    take K data = .error .invalidData := by
  rw [take, splitAtChecked, if_neg (by omega)]
  rfl

/-- Data that is long enough begins with a field. -/
theorem exists_field {K : ℕ} {data : List UInt8} (h : K ≤ data.length) :
    ∃ (head : Bytes K) (rest : List UInt8), data = head.toList ++ rest :=
  ⟨Bytes.ofList (data.take K) (List.length_take_of_le h), data.drop K,
    (List.take_append_drop K data).symm⟩

theorem take_bind_short {K m : ℕ} {data : List UInt8} {f : Bytes K × List UInt8 → Except Failure Unit}
    (h : data.length < K + m)
    (hf : ∀ head rest, rest.length < m → f (head, rest) = .error .invalidData) :
    (take K data >>= f) = .error .invalidData := by
  by_cases hK : data.length < K
  · rw [take_short hK, error_bind]
  · obtain ⟨head, rest, rfl⟩ := exists_field (Nat.not_lt.mp hK)
    rw [take_append, ok_bind]
    refine hf head rest ?_
    rw [List.length_append, Vector.length_toList] at h
    omega


theorem exists_inputs {N : ℕ} {data : List UInt8} (h : data.length = N * 32) :
    ∃ inputs : Vector (Bytes 32) N, data = inputBytes inputs.toList := by
  induction N generalizing data with
  | zero =>
    rw [Nat.zero_mul, List.length_eq_zero_iff] at h
    exact ⟨#v[], h⟩
  | succ N ih =>
    obtain ⟨head, rest, rfl⟩ := exists_field (show 32 ≤ data.length by omega)
    have hrest : rest.length = N * 32 := by
      rw [List.length_append, Vector.length_toList] at h
      omega
    obtain ⟨inputs, rfl⟩ := ih hrest
    refine ⟨⟨(head :: inputs.toList).toArray, by simp⟩, ?_⟩
    rfl

theorem copyChunks_inputBytes (out inputs : List (Bytes 32)) (h : out.length = inputs.length) :
    copyChunks out (inputBytes inputs) = inputs := by
  induction out generalizing inputs with
  | nil =>
    cases inputs with
    | nil => rfl
    | cons input inputs => cases h
  | cons dst out ih =>
    cases inputs with
    | nil => cases h
    | cons input inputs =>
      have hcons : inputBytes (input :: inputs) = input.toList ++ inputBytes inputs := rfl
      have hlen : 32 ≤ (input.toList ++ inputBytes inputs).length := by simp
      rw [hcons, copyChunks, dif_pos hlen, List.drop_left' (by simp),
        ih inputs (Nat.succ.inj h)]
      congr 1
      refine Vector.toList_inj.mp ?_
      rw [Bytes.toList_copyFromSlice, Bytes.toList_ofList, List.take_zero, List.nil_append,
        List.drop_eq_nil_of_le (by simp), List.append_nil]
      exact List.take_left' (by simp)

theorem parsePublicInputs_inputBytes {N : ℕ} (inputs : Vector (Bytes 32) N) :
    parsePublicInputs N (inputBytes inputs.toList) = .ok inputs := by
  have hlen : (inputBytes inputs.toList).length = N * 32 := by rw [length_inputBytes]; simp
  rw [parsePublicInputs, if_neg (not_not.mpr hlen), Except.ok.injEq]
  refine Vector.toList_inj.mp ?_
  exact copyChunks_inputBytes _ _ (by simp)

/-! ## Payloads -/

section
variable {rt : Runtime}

theorem verify_proofBytes (N : ℕ) (vk : Groth16Verifyingkey) (proofA : Bytes 64) (proofB : Bytes 128)
    (proofC : Bytes 64) (rest : List UInt8) :
    verify rt N (proofBytes proofA proofB proofC rest) vk =
      (parsePublicInputs N rest >>= runPlain rt vk proofA proofB proofC) := by
  simp only [verify, proofBytes, take_append, ok_bind]
  rfl

theorem verifyWithBsb22Commitment_proofBytes (N : ℕ) (vk : Groth16Verifyingkey) (proofA : Bytes 64)
    (proofB : Bytes 128) (proofC commitment pok : Bytes 64) (rest : List UInt8) :
    verifyWithBsb22Commitment rt N
        (proofBytes proofA proofB proofC (commitment.toList ++ (pok.toList ++ rest))) vk =
      (parsePublicInputs N rest >>= runBsb22 rt vk proofA proofB proofC commitment pok) := by
  simp only [verifyWithBsb22Commitment, proofBytes, take_append, ok_bind]
  rfl

theorem verify_short {N : ℕ} {vk : Groth16Verifyingkey} {payload : List UInt8}
    (h : payload.length < proofLen) : verify rt N payload vk = .error .invalidData := by
  rw [proofLen] at h
  apply take_bind_short (m := 128 + 64) (by omega)
  intro proofA payload h
  apply take_bind_short (m := 64) (by omega)
  intro proofB payload h
  apply take_bind_short (m := 0) (by omega)
  intro proofC payload h
  omega

theorem verifyWithBsb22Commitment_short {N : ℕ} {vk : Groth16Verifyingkey} {payload : List UInt8}
    (h : payload.length < proofLen + commitmentLen) :
    verifyWithBsb22Commitment rt N payload vk = .error .invalidData := by
  rw [proofLen, commitmentLen] at h
  apply take_bind_short (m := 128 + 64 + 64 + 64) (by omega)
  intro proofA payload h
  apply take_bind_short (m := 64 + 64 + 64) (by omega)
  intro proofB payload h
  apply take_bind_short (m := 64 + 64) (by omega)
  intro proofC payload h
  apply take_bind_short (m := 64) (by omega)
  intro commitment payload h
  apply take_bind_short (m := 0) (by omega)
  intro pok payload h
  omega

theorem exists_proofBytes {payload : List UInt8} (h : proofLen ≤ payload.length) :
    ∃ (proofA : Bytes 64) (proofB : Bytes 128) (proofC : Bytes 64) (rest : List UInt8),
      payload = proofBytes proofA proofB proofC rest ∧ rest.length + proofLen = payload.length := by
  rw [proofLen] at h ⊢
  obtain ⟨proofA, payload, rfl⟩ := exists_field (show 64 ≤ payload.length by omega)
  rw [List.length_append, Vector.length_toList] at h
  obtain ⟨proofB, payload, rfl⟩ := exists_field (show 128 ≤ payload.length by omega)
  rw [List.length_append, Vector.length_toList] at h
  obtain ⟨proofC, payload, rfl⟩ := exists_field (show 64 ≤ payload.length by omega)
  refine ⟨proofA, proofB, proofC, payload, rfl, ?_⟩
  simp only [List.length_append, Vector.length_toList]
  omega

/-! ## Dispatch -/

theorem selector_cases (selector : UInt8) :
    (∃ size : Size, selector = UInt8.ofNat size.index) ∨
      (∃ size : Size, selector = UInt8.ofNat (4 + size.index)) ∨ 8 ≤ selector.toNat := by
  by_cases h : selector.toNat < 8
  · have hsel : selector = UInt8.ofNat selector.toNat := by simp
    rw [hsel]
    generalize selector.toNat = k at h
    interval_cases k
    · exact Or.inl ⟨.one, rfl⟩
    · exact Or.inl ⟨.two, rfl⟩
    · exact Or.inl ⟨.four, rfl⟩
    · exact Or.inl ⟨.eight, rfl⟩
    · exact Or.inr (Or.inl ⟨.one, rfl⟩)
    · exact Or.inr (Or.inl ⟨.two, rfl⟩)
    · exact Or.inr (Or.inl ⟨.four, rfl⟩)
    · exact Or.inr (Or.inl ⟨.eight, rfl⟩)
  · exact Or.inr (Or.inr (Nat.not_lt.mp h))

theorem processInstruction_plain (keys : Keys) (size : Size) (payload : List UInt8) :
    processInstruction rt keys (UInt8.ofNat size.index :: payload) =
      verify rt size.nrInputs payload (keys.plain size) := by
  cases size with
  | one => rfl
  | two => rfl
  | four => rfl
  | eight => rfl

theorem processInstruction_bsb22 (keys : Keys) (size : Size) (payload : List UInt8) :
    processInstruction rt keys (UInt8.ofNat (4 + size.index) :: payload) =
      verifyWithBsb22Commitment rt size.nrInputs payload (keys.bsb22 size) := by
  cases size with
  | one => rfl
  | two => rfl
  | four => rfl
  | eight => rfl

theorem processInstruction_unknown (keys : Keys) {selector : UInt8} (h : 8 ≤ selector.toNat)
    (payload : List UInt8) :
    processInstruction rt keys (selector :: payload) =
      .error ⟨.invalidInstructionData, some (.unknownVariantSelector selector)⟩ := by
  rw [processInstruction]
  split
  all_goals first | omega | rfl

/-- The bytes of an instruction reach the verifier that they name. -/
theorem processInstruction_bytes (keys : Keys) (i : Instruction) :
    processInstruction rt keys i.bytes = i.run rt keys := by
  cases i with
  | plain size proofA proofB proofC publicInputs =>
    rw [Instruction.bytes, processInstruction_plain, verify_proofBytes,
      parsePublicInputs_inputBytes]
    rfl
  | bsb22 size proofA proofB proofC commitment pok publicInputs =>
    rw [Instruction.bytes, processInstruction_bsb22, verifyWithBsb22Commitment_proofBytes,
      parsePublicInputs_inputBytes]
    rfl

/-! ## Everything else is refused -/

/-- Where the public inputs start and how many there are. -/
def layoutOf (selector : UInt8) : Option (ℕ × ℕ) :=
  match selector.toNat with
  | 0 => some (proofLen, 1)
  | 1 => some (proofLen, 2)
  | 2 => some (proofLen, 4)
  | 3 => some (proofLen, 8)
  | 4 => some (proofLen + commitmentLen, 1)
  | 5 => some (proofLen + commitmentLen, 2)
  | 6 => some (proofLen + commitmentLen, 4)
  | 7 => some (proofLen + commitmentLen, 8)
  | _ => none

/-- How data that is no instruction is refused. -/
def malformed : List UInt8 → Failure
  | [] => .invalidData
  | selector :: payload =>
    match layoutOf selector with
    | none => ⟨.invalidInstructionData, some (.unknownVariantSelector selector)⟩
    | some (start, n) =>
      if payload.length < start then .invalidData
      else ⟨.invalidInstructionData, some (.invalidPublicInputLen (payload.length - start) (n * 32))⟩

theorem malformed_error (data : List UInt8) :
    (malformed data).error = .invalidInstructionData := by
  unfold malformed
  split
  · rfl
  · split
    · rfl
    · split
      · rfl
      · rfl

theorem layoutOf_plain (size : Size) :
    layoutOf (UInt8.ofNat size.index) = some (proofLen, size.nrInputs) := by
  cases size with
  | one => rfl
  | two => rfl
  | four => rfl
  | eight => rfl

theorem layoutOf_bsb22 (size : Size) :
    layoutOf (UInt8.ofNat (4 + size.index)) = some (proofLen + commitmentLen, size.nrInputs) := by
  cases size with
  | one => rfl
  | two => rfl
  | four => rfl
  | eight => rfl

theorem layoutOf_unknown {selector : UInt8} (h : 8 ≤ selector.toNat) : layoutOf selector = none := by
  rw [layoutOf]
  split
  all_goals first | omega | rfl

theorem parsePublicInputs_of_length {N : ℕ} {data : List UInt8} (h : data.length ≠ N * 32) :
    parsePublicInputs N data =
      .error ⟨.invalidInstructionData, some (.invalidPublicInputLen data.length (N * 32))⟩ :=
  if_pos h

theorem malformed_plain {keys : Keys} {size : Size} {payload : List UInt8}
    (h : ∀ i : Instruction, UInt8.ofNat size.index :: payload ≠ i.bytes) :
    verify rt size.nrInputs payload (keys.plain size) =
      .error (malformed (UInt8.ofNat size.index :: payload)) := by
  rw [malformed, layoutOf_plain]
  by_cases hshort : payload.length < proofLen
  · rw [verify_short hshort]
    exact congrArg Except.error (if_pos hshort).symm
  · obtain ⟨proofA, proofB, proofC, rest, rfl, hlen⟩ := exists_proofBytes (Nat.not_lt.mp hshort)
    have hrest : rest.length ≠ size.nrInputs * 32 := by
      intro hrest
      obtain ⟨inputs, rfl⟩ := exists_inputs hrest
      exact h (.plain size proofA proofB proofC inputs) rfl
    rw [verify_proofBytes, parsePublicInputs_of_length hrest, error_bind]
    dsimp only
    rw [if_neg hshort, ← hlen, Nat.add_sub_cancel]

theorem malformed_bsb22 {keys : Keys} {size : Size} {payload : List UInt8}
    (h : ∀ i : Instruction, UInt8.ofNat (4 + size.index) :: payload ≠ i.bytes) :
    verifyWithBsb22Commitment rt size.nrInputs payload (keys.bsb22 size) =
      .error (malformed (UInt8.ofNat (4 + size.index) :: payload)) := by
  rw [malformed, layoutOf_bsb22]
  by_cases hshort : payload.length < proofLen + commitmentLen
  · rw [verifyWithBsb22Commitment_short hshort]
    exact congrArg Except.error (if_pos hshort).symm
  · obtain ⟨proofA, proofB, proofC, rest, rfl, hlen⟩ :=
      exists_proofBytes (show proofLen ≤ payload.length by omega)
    have hcommitment : commitmentLen = 64 + 64 := rfl
    obtain ⟨commitment, rest, rfl⟩ := exists_field (show 64 ≤ rest.length by omega)
    rw [List.length_append, Vector.length_toList] at hlen
    obtain ⟨pok, rest, rfl⟩ := exists_field (show 64 ≤ rest.length by omega)
    rw [List.length_append, Vector.length_toList] at hlen
    have hrest : rest.length ≠ size.nrInputs * 32 := by
      intro hrest
      obtain ⟨inputs, rfl⟩ := exists_inputs hrest
      exact h (.bsb22 size proofA proofB proofC commitment pok inputs) rfl
    rw [verifyWithBsb22Commitment_proofBytes, parsePublicInputs_of_length hrest, error_bind]
    dsimp only
    have hgot : (proofBytes proofA proofB proofC
        (commitment.toList ++ (pok.toList ++ rest))).length - (proofLen + commitmentLen) =
          rest.length := by
      omega
    rw [if_neg hshort, hgot]

/-- Data that is no instruction never reaches a verifier. -/
theorem processInstruction_malformed (keys : Keys) {data : List UInt8}
    (h : ∀ i : Instruction, data ≠ i.bytes) :
    processInstruction rt keys data = .error (malformed data) := by
  cases data with
  | nil => rfl
  | cons selector payload =>
    rcases selector_cases selector with ⟨size, rfl⟩ | ⟨size, rfl⟩ | hunknown
    · rw [processInstruction_plain, malformed_plain h]
    · rw [processInstruction_bsb22, malformed_bsb22 h]
    · rw [processInstruction_unknown keys hunknown, malformed, layoutOf_unknown hunknown]

end

end Groth16Solana.Program
