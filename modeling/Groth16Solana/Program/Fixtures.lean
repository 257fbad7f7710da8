import Groth16Solana.Program.Acceptance

/-! # Instruction data built from a fixture

`build_ix_data` negates the first point of a prover's proof and asserts the length of what it
builds. The assertion is enough for the program to find an instruction in the data, and the program
then accepts exactly the proofs for which the equation of the proof system holds as the prover
states it. -/

set_option autoImplicit false

namespace Groth16Solana.Program
open Foundations

/-! ## The length assertion -/

/-- A fixture whose selector is that of its mode and of its number of inputs. -/
def Fixture.Selects (f : Fixture) (size : Size) : Prop :=
  f.nrInputs = size.nrInputs ∧
    f.selector = UInt8.ofNat (if f.commitment.isSome then 4 + size.index else size.index)

/-- The payload of a fixture, whose commitment bytes are `committed`. -/
def Fixture.payload (f : Fixture) (committed : List UInt8) : List UInt8 :=
  (negateG1Be f.proofA).toList ++ (f.proofB ++ (f.proofC ++ (committed ++ f.publicInputs)))

theorem buildIxData_plain {f : Fixture} (hcommitment : f.commitment = none) {data : List UInt8} :
    buildIxData f = some data ↔
      (f.payload []).length = plainPayloadLen f.nrInputs ∧ data = f.selector :: f.payload [] := by
  have hdata : [f.selector] ++ (negateG1Be f.proofA).toList ++ f.proofB ++ f.proofC ++
      f.publicInputs = f.selector :: f.payload [] := by
    simp only [List.append_assoc]
    rfl
  simp only [buildIxData, hcommitment, hdata, List.length_cons, Option.ite_none_right_eq_some,
    Option.some.injEq]
  rw [Nat.add_comm 1, Nat.add_right_cancel_iff, eq_comm (a := data)]

theorem buildIxData_bsb22 {f : Fixture} {points : List UInt8 × List UInt8}
    (hcommitment : f.commitment = some points) {data : List UInt8} :
    buildIxData f = some data ↔
      (f.payload (points.1 ++ points.2)).length = bsb22PayloadLen f.nrInputs ∧
        data = f.selector :: f.payload (points.1 ++ points.2) := by
  have hdata : [f.selector] ++ (negateG1Be f.proofA).toList ++ f.proofB ++ f.proofC ++ points.1 ++
      points.2 ++ f.publicInputs = f.selector :: f.payload (points.1 ++ points.2) := by
    simp only [List.append_assoc]
    rw [Fixture.payload, List.append_assoc]
    rfl
  simp only [buildIxData, hcommitment, hdata, List.length_cons, Option.ite_none_right_eq_some,
    Option.some.injEq]
  rw [Nat.add_comm 1, Nat.add_right_cancel_iff, eq_comm (a := data)]

theorem exists_plain (size : Size) {payload : List UInt8}
    (h : payload.length = plainPayloadLen size.nrInputs) :
    ∃ i : Instruction, UInt8.ofNat size.index :: payload = i.bytes := by
  rw [plainPayloadLen] at h
  obtain ⟨proofA, proofB, proofC, rest, rfl, hlen⟩ :=
    exists_proofBytes (show proofLen ≤ payload.length by omega)
  obtain ⟨inputs, rfl⟩ := exists_inputs (show rest.length = size.nrInputs * 32 by omega)
  exact ⟨.plain size proofA proofB proofC inputs, rfl⟩

theorem exists_bsb22 (size : Size) {payload : List UInt8}
    (h : payload.length = bsb22PayloadLen size.nrInputs) :
    ∃ i : Instruction, UInt8.ofNat (4 + size.index) :: payload = i.bytes := by
  have hcommitment : commitmentLen = 64 + 64 := rfl
  rw [bsb22PayloadLen] at h
  obtain ⟨proofA, proofB, proofC, rest, rfl, hlen⟩ :=
    exists_proofBytes (show proofLen ≤ payload.length by omega)
  obtain ⟨commitment, rest, rfl⟩ := exists_field (show 64 ≤ rest.length by omega)
  rw [List.length_append, Vector.length_toList] at hlen
  obtain ⟨pok, rest, rfl⟩ := exists_field (show 64 ≤ rest.length by omega)
  rw [List.length_append, Vector.length_toList] at hlen
  obtain ⟨inputs, rfl⟩ := exists_inputs (show rest.length = size.nrInputs * 32 by omega)
  exact ⟨.bsb22 size proofA proofB proofC commitment pok inputs, rfl⟩

theorem exists_instruction_of_buildIxData {f : Fixture} {size : Size} (hselects : f.Selects size)
    {data : List UInt8} (h : buildIxData f = some data) : ∃ i : Instruction, data = i.bytes := by
  obtain ⟨hinputs, hsel⟩ := hselects
  cases hcommitment : f.commitment with
  | none =>
    rw [hcommitment] at hsel
    obtain ⟨hlen, rfl⟩ := (buildIxData_plain hcommitment).mp h
    rw [hsel]
    exact exists_plain size (by rw [hlen, hinputs])
  | some points =>
    rw [hcommitment] at hsel
    obtain ⟨hlen, rfl⟩ := (buildIxData_bsb22 hcommitment).mp h
    rw [hsel]
    exact exists_bsb22 size (by rw [hlen, hinputs])

/-! ## The fixture of a proof -/

/-- The fixture that holds the fields of an instruction. -/
def fixtureOf : Instruction → Fixture
  | .plain size proofA proofB proofC publicInputs =>
    ⟨UInt8.ofNat size.index, size.nrInputs, proofA, proofB.toList, proofC.toList, none,
      inputBytes publicInputs.toList⟩
  | .bsb22 size proofA proofB proofC commitment pok publicInputs =>
    ⟨UInt8.ofNat (4 + size.index), size.nrInputs, proofA, proofB.toList, proofC.toList,
      some (commitment.toList, pok.toList), inputBytes publicInputs.toList⟩

def Instruction.negated : Instruction → Instruction
  | .plain size proofA proofB proofC publicInputs =>
    .plain size (negateG1Be proofA) proofB proofC publicInputs
  | .bsb22 size proofA proofB proofC commitment pok publicInputs =>
    .bsb22 size (negateG1Be proofA) proofB proofC commitment pok publicInputs

theorem buildIxData_fixtureOf (i : Instruction) :
    buildIxData (fixtureOf i) = some i.negated.bytes := by
  cases i with
  | plain size proofA proofB proofC publicInputs =>
    refine (buildIxData_plain rfl).mpr ⟨?_, rfl⟩
    simp only [Fixture.payload, fixtureOf, List.length_append, List.length_nil,
      Vector.length_toList, length_inputBytes, plainPayloadLen, proofLen]
    omega
  | bsb22 size proofA proofB proofC commitment pok publicInputs =>
    refine (buildIxData_bsb22 rfl).mpr ⟨?_, ?_⟩
    · simp only [Fixture.payload, fixtureOf, List.length_append, Vector.length_toList,
        length_inputBytes, bsb22PayloadLen, proofLen, commitmentLen]
      omega
    · simp only [Fixture.payload, fixtureOf, List.append_assoc]
      rfl

/-! ## What the program accepts of it -/

section
variable {rt : Runtime} {G2 GT : Type} [AddCommGroup G2] [CommGroup GT] (S : AltBn128 rt G2 GT)

/-- The equation for a prover's proof, whose first point is not negated. -/
def ProverHolds (key : Key G2) (proofA : Bytes 64) (proofB : Bytes 128) (proofC : Bytes 64)
    (L : G1) : Prop :=
  ∃ A B C, S.decodeG1 proofA = some A ∧ S.decodeG2 proofB = some B ∧
    S.decodeG1 proofC = some C ∧
    S.e.pair A B = S.e.pair key.alpha key.beta * S.e.pair L key.gamma * S.e.pair C key.delta

theorem proofHolds_negate {key : Key G2} {proofA : Bytes 64} (hA : CanonicalG1 proofA)
    {proofB : Bytes 128} {proofC : Bytes 64} {L : G1} :
    ProofHolds S key (negateG1Be proofA) proofB proofC L ↔
      ProverHolds S key proofA proofB proofC L := by
  obtain ⟨P, hP, hneg⟩ := decodeG1_negate S hA
  constructor
  · intro h
    obtain ⟨A, B, C, hA, hB, hC, heq⟩ := h
    rw [hneg, Option.some.injEq, neg_inj] at hA
    exact ⟨A, B, C, by rw [hP, hA], hB, hC, heq⟩
  · intro h
    obtain ⟨A, B, C, hA, hB, hC, heq⟩ := h
    rw [hP, Option.some.injEq] at hA
    exact ⟨A, B, C, by rw [hneg, hA], hB, hC, heq⟩

/-- The instruction's fields are a prover's proof that holds. -/
def Proves (keys : Keys) (i : Instruction) : Prop := Statement S keys (ProverHolds S) i

def Instruction.proofA : Instruction → Bytes 64
  | .plain _ proofA _ _ _ => proofA
  | .bsb22 _ proofA _ _ _ _ _ => proofA

/-- The statement of a plain proof is about the key of its selector only. -/
theorem provesPlain_of_key {keys : Keys} {size : Size} {vk : Groth16Verifyingkey}
    (hvk : keys.plain size = vk) {proofA : Bytes 64} {proofB : Bytes 128} {proofC : Bytes 64}
    {publicInputs : Vector (Bytes 32) size.nrInputs}
    (h : vk.vkCommitment = none ∧ vk.vkIc.length = size.nrInputs + 1 ∧ InRange true publicInputs ∧
      ∃ key, DecodesKey S vk key ∧
        ProverHolds S key proofA proofB proofC (publicSum publicInputs key.ic)) :
    Proves S keys (.plain size proofA proofB proofC publicInputs) := by
  subst hvk
  exact h

theorem accepted_negated_iff {keys : Keys} {i : Instruction} (hA : CanonicalG1 i.proofA) :
    Accepted S keys i.negated ↔ Proves S keys i := by
  cases i with
  | plain size proofA proofB proofC publicInputs =>
    have hcanon : CanonicalG1 proofA := hA
    simp only [Instruction.negated, Accepted, Proves, Statement, proofHolds_negate S hcanon]
  | bsb22 size proofA proofB proofC commitment pok publicInputs =>
    have hcanon : CanonicalG1 proofA := hA
    simp only [Instruction.negated, Accepted, Proves, Statement, proofHolds_negate S hcanon]

/-- A fixture that passes the assertion is an instruction, and the program accepts the fixture of a
proof exactly when the proof meets its statement. -/
theorem buildIxData_accepts_iff (hbuild : rt.bsb22 = true) (keys : Keys) :
    (∀ (f : Fixture) (size : Size) (data : List UInt8), f.Selects size →
      buildIxData f = some data →
      ∃ i : Instruction, data = i.bytes ∧ processInstruction rt keys data = i.run rt keys) ∧
    ∀ i : Instruction, CanonicalG1 i.proofA →
      ∃ data, buildIxData (fixtureOf i) = some data ∧
        (processInstruction rt keys data = .ok () ↔ Proves S keys i) := by
  constructor
  · intro f size data hselects h
    obtain ⟨i, rfl⟩ := exists_instruction_of_buildIxData hselects h
    exact ⟨i, rfl, processInstruction_bytes keys i⟩
  · intro i hA
    refine ⟨_, buildIxData_fixtureOf i, ?_⟩
    rw [processInstruction_bytes, run_eq_ok_iff S hbuild, accepted_negated_iff S hA]

end

/-- The fixture of a proof for the small keys. -/
theorem buildIxData_accepts_iff_small :
    ∃ data, buildIxData (fixtureOf (.plain .one (encodeG1 g1Generator) g2GeneratorBytes
        (encodeG1 0) #v[beBytes 32 1])) = some data ∧
      processInstruction referenceRuntime smallKeys data = .ok () := by
  obtain ⟨data, hdata, hiff⟩ := (buildIxData_accepts_iff referenceSyscalls rfl smallKeys).2
    (.plain .one (encodeG1 g1Generator) g2GeneratorBytes (encodeG1 0) #v[beBytes 32 1])
    (canonicalG1_iff.mpr ⟨g1Generator, rfl⟩)
  refine ⟨data, hdata, hiff.mpr ⟨rfl, rfl, ?_, _, decodesKey_smallVk _ _ _, ?_⟩⟩
  · intro _
    decide +kernel
  · exact ⟨g1Generator, 1, 0, referenceSyscalls.decodeG1_encodeG1 _, decodeG2_generator,
      referenceSyscalls.decodeG1_encodeG1 _, smallEquation #v[beBytes 32 1] 2⟩

end Groth16Solana.Program
