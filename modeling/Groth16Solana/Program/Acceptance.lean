import Groth16Solana.Program.Layout
import Groth16Solana.Verifier.Verdict

/-! # What the program accepts

Over syscalls that compute in the groups, the program accepts the bytes of the instructions whose
proof holds under the key of their selector. A refused instruction shows why in its code: a
malformed one is told apart from a refused proof, and the checks of the verifier from one another. -/

set_option autoImplicit false

namespace Groth16Solana.Program
open Foundations

/-! ## An instruction is read back from its bytes -/

theorem inputBytes_inj {N : ℕ} {inputs inputs' : Vector (Bytes 32) N}
    (h : inputBytes inputs.toList = inputBytes inputs'.toList) : inputs = inputs' := by
  have hread := parsePublicInputs_inputBytes inputs
  rw [h, parsePublicInputs_inputBytes, Except.ok.injEq] at hread
  exact hread.symm

theorem field_inj {K : ℕ} {head head' : Bytes K} {rest rest' : List UInt8}
    (h : head.toList ++ rest = head'.toList ++ rest') : head = head' ∧ rest = rest' := by
  obtain ⟨hhead, hrest⟩ := List.append_inj h (by simp)
  exact ⟨Vector.toList_inj.mp hhead, hrest⟩

theorem proofBytes_inj {proofA proofA' : Bytes 64} {proofB proofB' : Bytes 128}
    {proofC proofC' : Bytes 64} {rest rest' : List UInt8}
    (h : proofBytes proofA proofB proofC rest = proofBytes proofA' proofB' proofC' rest') :
    proofA = proofA' ∧ proofB = proofB' ∧ proofC = proofC' ∧ rest = rest' := by
  obtain ⟨hA, htail⟩ := field_inj h
  obtain ⟨hB, htail'⟩ := field_inj htail
  obtain ⟨hC, hrest⟩ := field_inj htail'
  exact ⟨hA, hB, hC, hrest⟩

theorem size_of_index {size size' : Size} (h : size.index = size'.index) : size = size' := by
  cases size <;> cases size' <;> first | rfl | cases h

theorem index_lt (size : Size) : size.index < 4 := by cases size <;> decide

theorem toNat_selector {k : ℕ} (h : k < 8) : (UInt8.ofNat k).toNat = k := by
  rw [UInt8.toNat_ofNat']
  omega

theorem Instruction.bytes_injective {i i' : Instruction} (h : i.bytes = i'.bytes) : i = i' := by
  cases i with
  | plain size proofA proofB proofC publicInputs =>
    have hlt := index_lt size
    cases i' with
    | plain size' proofA' proofB' proofC' publicInputs' =>
      have hlt' := index_lt size'
      obtain ⟨hsel, hpayload⟩ := List.cons_eq_cons.mp h
      have hindex := congrArg UInt8.toNat hsel
      rw [toNat_selector (by omega), toNat_selector (by omega)] at hindex
      obtain rfl := size_of_index hindex
      obtain ⟨rfl, rfl, rfl, hinputs⟩ := proofBytes_inj hpayload
      obtain rfl := inputBytes_inj hinputs
      rfl
    | bsb22 size' =>
      have hlt' := index_lt size'
      have hindex := congrArg UInt8.toNat (List.cons_eq_cons.mp h).1
      rw [toNat_selector (by omega), toNat_selector (by omega)] at hindex
      omega
  | bsb22 size proofA proofB proofC commitment pok publicInputs =>
    have hlt := index_lt size
    cases i' with
    | plain size' =>
      have hlt' := index_lt size'
      have hindex := congrArg UInt8.toNat (List.cons_eq_cons.mp h).1
      rw [toNat_selector (by omega), toNat_selector (by omega)] at hindex
      omega
    | bsb22 size' proofA' proofB' proofC' commitment' pok' publicInputs' =>
      have hlt' := index_lt size'
      obtain ⟨hsel, hpayload⟩ := List.cons_eq_cons.mp h
      have hindex := congrArg UInt8.toNat hsel
      rw [toNat_selector (by omega), toNat_selector (by omega)] at hindex
      obtain rfl := size_of_index (Nat.add_left_cancel hindex)
      obtain ⟨rfl, rfl, rfl, hcommitment⟩ := proofBytes_inj hpayload
      obtain ⟨rfl, hpok⟩ := field_inj hcommitment
      obtain ⟨rfl, hinputs⟩ := field_inj hpok
      obtain rfl := inputBytes_inj hinputs
      rfl

/-! ## Acceptance -/

section
variable {rt : Runtime} {G2 GT : Type} [AddCommGroup G2] [CommGroup GT] (S : AltBn128 rt G2 GT)

/-- The statement of an instruction under the key of its selector, for an equation `Holds`. -/
def Statement (keys : Keys) (Holds : Key G2 → Bytes 64 → Bytes 128 → Bytes 64 → G1 → Prop) :
    Instruction → Prop
  | .plain size proofA proofB proofC publicInputs =>
    let vk := keys.plain size
    vk.vkCommitment = none ∧ vk.vkIc.length = size.nrInputs + 1 ∧ InRange true publicInputs ∧
      ∃ key, DecodesKey S vk key ∧
        Holds key proofA proofB proofC (publicSum publicInputs key.ic)
  | .bsb22 size proofA proofB proofC commitment pok publicInputs =>
    let vk := keys.bsb22 size
    vk.vkIc.length = size.nrInputs + 2 ∧ InRange true publicInputs ∧
      ∃ commitmentKey key D, vk.vkCommitment = some commitmentKey ∧ DecodesKey S vk key ∧
        S.decodeG1 commitment = some D ∧
        Holds key proofA proofB proofC (committedSum rt publicInputs key.ic commitment D) ∧
        PokHolds S commitmentKey commitment pok

/-- The instruction carries a proof that holds, with its first point negated. -/
def Accepted (keys : Keys) (i : Instruction) : Prop := Statement S keys (ProofHolds S) i

theorem logged_eq_ok {α : Type} {message : Groth16Error → Message} {res : Except Groth16Error α}
    {a : α} : logged message res = .ok a ↔ res = .ok a := by
  cases res with
  | error err => simp [logged]
  | ok b => simp [logged]

theorem runPlain_eq_ok_iff {n : ℕ} {vk : Groth16Verifyingkey} {proofA : Bytes 64} {proofB : Bytes 128}
    {proofC : Bytes 64} {publicInputs : Vector (Bytes 32) n} :
    runPlain rt vk proofA proofB proofC publicInputs = .ok () ↔
      vk.vkCommitment = none ∧ vk.vkIc.length = n + 1 ∧ InRange true publicInputs ∧
        ∃ key, DecodesKey S vk key ∧
          ProofHolds S key proofA proofB proofC (publicSum publicInputs key.ic) := by
  rw [runPlain, bind_eq_ok]
  simp only [logged_eq_ok]
  constructor
  · intro h
    obtain ⟨self, hnew, hverify⟩ := h
    obtain ⟨hkey, hlen, rfl⟩ := new_eq_ok_iff.mp hnew
    exact ⟨hkey, hlen, (verifyCommon_plain_ok_iff S (.new hnew) hkey).mp hverify⟩
  · intro h
    obtain ⟨hkey, hlen, hrest⟩ := h
    have hnew : Groth16Verifier.new proofA proofB proofC publicInputs vk = .ok _ :=
      new_eq_ok_iff.mpr ⟨hkey, hlen, rfl⟩
    exact ⟨_, hnew, (verifyCommon_plain_ok_iff S (.new hnew) hkey).mpr hrest⟩

theorem runBsb22_eq_ok_iff (hbuild : rt.bsb22 = true) {n : ℕ} {vk : Groth16Verifyingkey}
    {proofA : Bytes 64} {proofB : Bytes 128} {proofC commitment pok : Bytes 64}
    {publicInputs : Vector (Bytes 32) n} :
    runBsb22 rt vk proofA proofB proofC commitment pok publicInputs = .ok () ↔
      vk.vkIc.length = n + 2 ∧ InRange true publicInputs ∧
        ∃ commitmentKey key D, vk.vkCommitment = some commitmentKey ∧ DecodesKey S vk key ∧
          S.decodeG1 commitment = some D ∧
          ProofHolds S key proofA proofB proofC
            (committedSum rt publicInputs key.ic commitment D) ∧
          PokHolds S commitmentKey commitment pok := by
  rw [runBsb22, bind_eq_ok]
  simp only [logged_eq_ok]
  constructor
  · intro h
    obtain ⟨self, hnew, hverify⟩ := h
    obtain ⟨hsome, hlen, rfl⟩ := newWithCommitment_eq_ok_iff.mp hnew
    obtain ⟨commitmentKey, hkey⟩ := Option.isSome_iff_exists.mp hsome
    obtain ⟨hin, key, D, hrest⟩ :=
      (verifyCommon_bsb22_ok_iff S (.newWithCommitment hbuild hnew) hkey rfl rfl).mp hverify
    exact ⟨hlen, hin, commitmentKey, key, D, hkey, hrest⟩
  · intro h
    obtain ⟨hlen, hin, commitmentKey, key, D, hkey, hrest⟩ := h
    have hnew : Groth16Verifier.newWithCommitment proofA proofB proofC commitment pok publicInputs
        vk = .ok _ :=
      newWithCommitment_eq_ok_iff.mpr ⟨by rw [hkey]; rfl, hlen, rfl⟩
    exact ⟨_, hnew, (verifyCommon_bsb22_ok_iff S (.newWithCommitment hbuild hnew) hkey rfl rfl).mpr
      ⟨hin, key, D, hrest⟩⟩

theorem run_eq_ok_iff (hbuild : rt.bsb22 = true) (keys : Keys) (i : Instruction) :
    i.run rt keys = .ok () ↔ Accepted S keys i := by
  cases i with
  | plain size proofA proofB proofC publicInputs => exact runPlain_eq_ok_iff S
  | bsb22 size proofA proofB proofC commitment pok publicInputs => exact runBsb22_eq_ok_iff S hbuild

/-- The accepted instruction data are the bytes of exactly one instruction each, whose proof
holds. -/
theorem processInstruction_accepts_iff (hbuild : rt.bsb22 = true) (keys : Keys) (data : List UInt8) :
    processInstruction rt keys data = .ok () ↔
      ∃! i : Instruction, data = i.bytes ∧ Accepted S keys i := by
  constructor
  · intro h
    by_cases hdata : ∃ i : Instruction, data = i.bytes
    · obtain ⟨i, rfl⟩ := hdata
      rw [processInstruction_bytes, run_eq_ok_iff S hbuild] at h
      refine ⟨i, ⟨rfl, h⟩, ?_⟩
      intro i' hi'
      exact (Instruction.bytes_injective hi'.1).symm
    · rw [processInstruction_malformed keys (not_exists.mp hdata)] at h
      cases h
  · intro h
    obtain ⟨i, ⟨rfl, haccepted⟩, -⟩ := h
    rw [processInstruction_bytes]
    exact (run_eq_ok_iff S hbuild keys i).mpr haccepted

end

/-! ## Small keys -/

section

def smallPoints (count : ℕ) : List G1 := List.replicate count 0

/-- Keys whose public inputs do not matter. -/
def smallKeys : Keys where
  vkPlain1 := smallVk g1Generator (smallPoints 2) none
  vkPlain2 := smallVk g1Generator (smallPoints 3) none
  vkPlain4 := smallVk g1Generator (smallPoints 5) none
  vkPlain8 := smallVk g1Generator (smallPoints 9) none
  vkBsb221 := smallVk g1Generator (smallPoints 3) (some ⟨g2GeneratorBytes, g2GeneratorBytes⟩)
  vkBsb222 := smallVk g1Generator (smallPoints 4) (some ⟨g2GeneratorBytes, g2GeneratorBytes⟩)
  vkBsb224 := smallVk g1Generator (smallPoints 6) (some ⟨g2GeneratorBytes, g2GeneratorBytes⟩)
  vkBsb228 := smallVk g1Generator (smallPoints 10) (some ⟨g2GeneratorBytes, g2GeneratorBytes⟩)

/-- The generator and the identity prove every input. -/
def smallInstruction : Instruction :=
  .plain .one (encodeG1 (-g1Generator)) g2GeneratorBytes (encodeG1 0) smallVerifier.publicInputs

theorem smallPoints_getD (count j : ℕ) : (smallPoints count).getD j 0 = 0 := by
  rw [smallPoints, List.getD_eq_getElem?_getD, List.getElem?_replicate]
  split
  · rfl
  · rfl

/-- The equation of the small keys for the generator and the identity. -/
theorem smallEquation {n : ℕ} (inputs : Vector (Bytes 32) n) (count : ℕ) :
    referenceSyscalls.e.pair g1Generator 1 = referenceSyscalls.e.pair g1Generator 1 *
      referenceSyscalls.e.pair (publicSum inputs fun j => (smallPoints count).getD j 0) 1 *
      referenceSyscalls.e.pair 0 1 := by
  have hsum : (publicSum inputs fun j => (smallPoints count).getD j 0) = 0 := by
    simp only [publicSum, smallPoints_getD, nsmul_zero, Finset.sum_const_zero, add_zero]
  rw [hsum, Pairing.pair_zero_left, mul_one, mul_one]

theorem smallInstruction_accepted : Accepted referenceSyscalls smallKeys smallInstruction := by
  refine ⟨rfl, rfl, ?_, _, decodesKey_smallVk _ _ _, ?_⟩
  · intro _
    decide +kernel
  · exact ⟨g1Generator, 1, 0, referenceSyscalls.decodeG1_encodeG1 _, decodeG2_generator,
      referenceSyscalls.decodeG1_encodeG1 _, smallEquation #v[beBytes 32 1] 2⟩

theorem processInstruction_accepts_iff_small :
    processInstruction referenceRuntime smallKeys smallInstruction.bytes = .ok () := by
  refine (processInstruction_accepts_iff referenceSyscalls rfl smallKeys _).mpr
    ⟨smallInstruction, ⟨rfl, smallInstruction_accepted⟩, ?_⟩
  intro i hi
  exact (Instruction.bytes_injective hi.1).symm

end

/-! ## The answer to every instruction -/

section
variable {rt : Runtime} {G2 GT : Type} [AddCommGroup G2] [CommGroup GT] (S : AltBn128 rt G2 GT)

/-- Keys of the arity of their selectors whose points decode. -/
structure Baked (keys : Keys) where
  plainKey : Size → Key G2
  plain_commitment : ∀ size, (keys.plain size).vkCommitment = none
  plain_length : ∀ size, (keys.plain size).vkIc.length = size.nrInputs + 1
  plain_decodes : ∀ size, DecodesKey S (keys.plain size) (plainKey size)
  bsb22Key : Size → Key G2
  commitmentKey : Size → CommitmentVerifyingKey
  bsb22_commitment : ∀ size, (keys.bsb22 size).vkCommitment = some (commitmentKey size)
  bsb22_length : ∀ size, (keys.bsb22 size).vkIc.length = size.nrInputs + 2
  bsb22_decodes : ∀ size, DecodesKey S (keys.bsb22 size) (bsb22Key size)

/-- The failure of a proof that the verifier refuses. -/
def refused (code : UInt32) (err : Groth16Error) : Except Failure Unit :=
  .error ⟨.custom code, some (.verifyFailed err)⟩

open Classical in
/-- The program's answer to an instruction. -/
noncomputable def Baked.answer {keys : Keys} (baked : Baked S keys) :
    Instruction → Except Failure Unit
  | .plain size proofA proofB proofC publicInputs =>
    let key := baked.plainKey size
    if ¬ InRange true publicInputs then refused 9 .publicInputGreaterThanFieldSize
    else if ¬ ProofHolds S key proofA proofB proofC (publicSum publicInputs key.ic) then
      refused 1 .proofVerificationFailed
    else .ok ()
  | .bsb22 size proofA proofB proofC commitment pok publicInputs =>
    let key := baked.bsb22Key size
    if ¬ InRange true publicInputs then refused 9 .publicInputGreaterThanFieldSize
    else match S.decodeG1 commitment with
      | none => refused 20 .bsb22InvalidCommitmentPoint
      | some D =>
        if ¬ ProofHolds S key proofA proofB proofC
            (committedSum rt publicInputs key.ic commitment D) then
          refused 1 .proofVerificationFailed
        else if ¬ PokHolds S (baked.commitmentKey size) commitment pok then
          refused 13 .commitmentPokVerificationFailed
        else .ok ()

theorem runPlain_answer {keys : Keys} (baked : Baked S keys) (size : Size) (proofA : Bytes 64)
    (proofB : Bytes 128) (proofC : Bytes 64) (publicInputs : Vector (Bytes 32) size.nrInputs) :
    runPlain rt (keys.plain size) proofA proofB proofC publicInputs =
      baked.answer S (.plain size proofA proofB proofC publicInputs) := by
  have hkey := baked.plain_commitment size
  have hnew : Groth16Verifier.new proofA proofB proofC publicInputs (keys.plain size) = .ok _ :=
    new_eq_ok_iff.mpr ⟨hkey, baked.plain_length size, rfl⟩
  rw [runPlain, hnew, logged, ok_bind, Groth16Solana.verify,
    verifyCommon_plain_outcome S (.new hnew) hkey (baked.plain_decodes size), Baked.answer]
  split
  · rfl
  · dsimp only
    split
    · rfl
    · rfl

theorem runBsb22_answer (hbuild : rt.bsb22 = true) {keys : Keys} (baked : Baked S keys) (size : Size)
    (proofA : Bytes 64) (proofB : Bytes 128) (proofC commitment pok : Bytes 64)
    (publicInputs : Vector (Bytes 32) size.nrInputs) :
    runBsb22 rt (keys.bsb22 size) proofA proofB proofC commitment pok publicInputs =
      baked.answer S (.bsb22 size proofA proofB proofC commitment pok publicInputs) := by
  have hkey := baked.bsb22_commitment size
  have hnew : Groth16Verifier.newWithCommitment proofA proofB proofC commitment pok publicInputs
      (keys.bsb22 size) = .ok _ :=
    newWithCommitment_eq_ok_iff.mpr ⟨by rw [hkey]; rfl, baked.bsb22_length size, rfl⟩
  rw [runBsb22, hnew, logged, ok_bind, Groth16Solana.verify,
    verifyCommon_bsb22_outcome S (.newWithCommitment hbuild hnew) hkey rfl rfl
      (baked.bsb22_decodes size), Baked.answer]
  split
  · rfl
  · cases hD : S.decodeG1 commitment with
    | none => rfl
    | some D =>
      dsimp only
      split
      · rfl
      · split
        · rfl
        · rfl

theorem Baked.answer_plain_of_holds {keys : Keys} (baked : Baked S keys) (size : Size)
    {proofA : Bytes 64} {proofB : Bytes 128} {proofC : Bytes 64}
    {publicInputs : Vector (Bytes 32) size.nrInputs} (hin : InRange true publicInputs)
    (hholds : ProofHolds S (baked.plainKey size) proofA proofB proofC
      (publicSum publicInputs (baked.plainKey size).ic)) :
    baked.answer S (.plain size proofA proofB proofC publicInputs) = .ok () := by
  rw [Baked.answer, if_neg (not_not.mpr hin), if_neg (not_not.mpr hholds)]

theorem Baked.answer_plain_out_of_range {keys : Keys} (baked : Baked S keys) (size : Size)
    (proofA : Bytes 64) (proofB : Bytes 128) (proofC : Bytes 64)
    {publicInputs : Vector (Bytes 32) size.nrInputs} (hout : ¬ InRange true publicInputs) :
    baked.answer S (.plain size proofA proofB proofC publicInputs) =
      refused 9 .publicInputGreaterThanFieldSize := by
  rw [Baked.answer, if_pos hout]

/-- Over baked keys every instruction gets its answer, and all other data is refused as malformed. -/
theorem processInstruction_answers (hbuild : rt.bsb22 = true) {keys : Keys} (baked : Baked S keys)
    (data : List UInt8) :
    (∃ i : Instruction, data = i.bytes ∧ processInstruction rt keys data = baked.answer S i) ∨
      (∀ i : Instruction, data ≠ i.bytes) ∧
        processInstruction rt keys data = .error (malformed data) ∧
        (malformed data).error = .invalidInstructionData := by
  by_cases hdata : ∃ i : Instruction, data = i.bytes
  · obtain ⟨i, rfl⟩ := hdata
    refine Or.inl ⟨i, rfl, ?_⟩
    rw [processInstruction_bytes]
    cases i with
    | plain size proofA proofB proofC publicInputs => exact runPlain_answer S baked size _ _ _ _
    | bsb22 size proofA proofB proofC commitment pok publicInputs =>
      exact runBsb22_answer S hbuild baked size _ _ _ _ _ _
  · have hnone := not_exists.mp hdata
    exact Or.inr ⟨hnone, processInstruction_malformed keys hnone, malformed_error data⟩

end

noncomputable def smallBaked : Baked referenceSyscalls smallKeys where
  plainKey size := ⟨g1Generator, 1, 1, 1, fun j => (smallPoints (size.nrInputs + 1)).getD j 0⟩
  plain_commitment size := by cases size <;> rfl
  plain_length size := by cases size <;> rfl
  plain_decodes size := by cases size <;> exact decodesKey_smallVk _ _ _
  bsb22Key size := ⟨g1Generator, 1, 1, 1, fun j => (smallPoints (size.nrInputs + 2)).getD j 0⟩
  commitmentKey _ := ⟨g2GeneratorBytes, g2GeneratorBytes⟩
  bsb22_commitment size := by cases size <;> rfl
  bsb22_length size := by cases size <;> rfl
  bsb22_decodes size := by cases size <;> exact decodesKey_smallVk _ _ _

/-- The small instruction with the group order for its public input. -/
def outOfRangeInstruction : Instruction :=
  .plain .one (encodeG1 (-g1Generator)) g2GeneratorBytes (encodeG1 0) #v[beBytes 32 frModulus]

theorem answer_smallInstruction : smallBaked.answer referenceSyscalls smallInstruction = .ok () := by
  have hin : InRange true smallVerifier.publicInputs := fun _ => by decide +kernel
  exact smallBaked.answer_plain_of_holds referenceSyscalls .one hin
    ⟨g1Generator, 1, 0, referenceSyscalls.decodeG1_encodeG1 _, decodeG2_generator,
      referenceSyscalls.decodeG1_encodeG1 _, smallEquation #v[beBytes 32 1] 2⟩

theorem answer_outOfRangeInstruction :
    smallBaked.answer referenceSyscalls outOfRangeInstruction =
      refused 9 .publicInputGreaterThanFieldSize := by
  have hvalue : ¬ beNat (#v[beBytes 32 frModulus].get 0).toList < frModulus := by decide +kernel
  have hout : ¬ InRange true #v[beBytes 32 frModulus] := fun hin => hvalue (hin rfl 0)
  exact smallBaked.answer_plain_out_of_range referenceSyscalls .one _ _ _ hout

/-- An accepted instruction, one whose input is out of range, and no instruction. -/
theorem processInstruction_answers_small :
    processInstruction referenceRuntime smallKeys smallInstruction.bytes = .ok () ∧
      processInstruction referenceRuntime smallKeys outOfRangeInstruction.bytes =
        refused 9 .publicInputGreaterThanFieldSize ∧
      processInstruction referenceRuntime smallKeys [] = .error (malformed []) := by
  have hanswer (i : Instruction) : processInstruction referenceRuntime smallKeys i.bytes =
      smallBaked.answer referenceSyscalls i := by
    rcases processInstruction_answers referenceSyscalls rfl smallBaked i.bytes with h | h
    · obtain ⟨i', hbytes, hanswer⟩ := h
      rw [hanswer, Instruction.bytes_injective hbytes]
    · exact absurd rfl (h.1 i)
  refine ⟨?_, ?_, ?_⟩
  · rw [hanswer, answer_smallInstruction]
  · rw [hanswer, answer_outOfRangeInstruction]
  · rcases processInstruction_answers referenceSyscalls rfl smallBaked [] with h | h
    · obtain ⟨i, hi, -⟩ := h
      cases i <;> cases hi
    · exact h.2.1

end Groth16Solana.Program
