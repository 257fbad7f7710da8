import Groth16Solana.Program.Build
import Groth16Solana.Program.Fixtures

/-! # The fixture table (`bench_fixtures`)

The host tests embed the proofs of the generator's run, under a selector for each label, and the program
has the keys that its own build baked. The table, the dispatch of the program and the loops of the
build script name the eight variants on their own; they agree. -/

set_option autoImplicit false

namespace Groth16Solana.Program
open Foundations

section
variable {fs : FileSystem} (outDir : fs.Path) (content : fs.Path → Option (List UInt8))

/-- `fixture!`. -/
def fixture (name : String) : Option (List UInt8) := content (fs.join (fixtureDir fs outDir) name)

/-- `plain!`, or `none` where it does not compile. -/
def plain (label : String) (selector : UInt8) (n : ℕ) : Option Fixture := do
  let proofA ← fixture outDir content (label ++ "_proof_a.bin")
  let proofA ← tryIntoArray 64 proofA
  let proofB ← fixture outDir content (label ++ "_proof_b.bin")
  let proofC ← fixture outDir content (label ++ "_proof_c.bin")
  let publicInputs ← fixture outDir content (label ++ "_public_inputs.bin")
  return ⟨selector, n, proofA, proofB, proofC, none, publicInputs⟩

/-- `bsb22!`. -/
def bsb22 (label : String) (selector : UInt8) (n : ℕ) : Option Fixture := do
  let proofA ← fixture outDir content (label ++ "_proof_a.bin")
  let proofA ← tryIntoArray 64 proofA
  let proofB ← fixture outDir content (label ++ "_proof_b.bin")
  let proofC ← fixture outDir content (label ++ "_proof_c.bin")
  let commitment ← fixture outDir content (label ++ "_commitment.bin")
  let pok ← fixture outDir content (label ++ "_pok.bin")
  let publicInputs ← fixture outDir content (label ++ "_public_inputs.bin")
  return ⟨selector, n, proofA, proofB, proofC, some (commitment, pok), publicInputs⟩

/-- The table, each fixture with its label. -/
def fixtures : Option (List (String × Fixture)) := do
  let plain1 ← plain outDir content "plain_1" 0 1
  let plain2 ← plain outDir content "plain_2" 1 2
  let plain4 ← plain outDir content "plain_4" 2 4
  let plain8 ← plain outDir content "plain_8" 3 8
  let bsb221 ← bsb22 outDir content "bsb22_1" 4 1
  let bsb222 ← bsb22 outDir content "bsb22_2" 5 2
  let bsb224 ← bsb22 outDir content "bsb22_4" 6 4
  let bsb228 ← bsb22 outDir content "bsb22_8" 7 8
  return [("plain_1", plain1), ("plain_2", plain2), ("plain_4", plain4), ("plain_8", plain8),
    ("bsb22_1", bsb221), ("bsb22_2", bsb222), ("bsb22_4", bsb224), ("bsb22_8", bsb228)]

end

/-! ## The rows -/

/-- A row whose selector is that of its label. -/
inductive Row : String × Fixture → Prop
  | plain (size : Size) {f : Fixture} (hcommitment : f.commitment = none) (hselects : f.Selects size) :
    Row (labelOf "plain" size.nrInputs, f)
  | bsb22 (size : Size) {f : Fixture} {points : List UInt8 × List UInt8}
    (hcommitment : f.commitment = some points) (hselects : f.Selects size) :
    Row (labelOf "bsb22" size.nrInputs, f)

section
variable {fs : FileSystem} {outDir : fs.Path} {content : fs.Path → Option (List UInt8)} {label : String}

theorem plain_of_fixtures {selector : UInt8} {n : ℕ} {proofA : Bytes 64}
    {proofB proofC publicInputs : List UInt8}
    (hA : fixture outDir content (label ++ "_proof_a.bin") = some proofA.toList)
    (hB : fixture outDir content (label ++ "_proof_b.bin") = some proofB)
    (hC : fixture outDir content (label ++ "_proof_c.bin") = some proofC)
    (hinputs : fixture outDir content (label ++ "_public_inputs.bin") = some publicInputs) :
    plain outDir content label selector n =
      some ⟨selector, n, proofA, proofB, proofC, none, publicInputs⟩ := by
  simp only [plain, hA, hB, hC, hinputs, tryIntoArray_toList, Option.bind_eq_bind, Option.bind_some,
    Option.pure_def]

theorem row_plain {f : Fixture} (size : Size) (hlabel : label = labelOf "plain" size.nrInputs)
    (h : plain outDir content label (UInt8.ofNat size.index) size.nrInputs = some f) :
    Row (label, f) := by
  simp only [plain, Option.bind_eq_bind, Option.bind_eq_some_iff, Option.pure_def,
    Option.some.injEq] at h
  obtain ⟨-, -, proofA, -, proofB, -, proofC, -, publicInputs, -, rfl⟩ := h
  rw [hlabel]
  exact .plain size rfl ⟨rfl, rfl⟩

theorem row_bsb22 {f : Fixture} (size : Size) (hlabel : label = labelOf "bsb22" size.nrInputs)
    (h : bsb22 outDir content label (UInt8.ofNat (4 + size.index)) size.nrInputs = some f) :
    Row (label, f) := by
  simp only [bsb22, Option.bind_eq_bind, Option.bind_eq_some_iff, Option.pure_def,
    Option.some.injEq] at h
  obtain ⟨-, -, proofA, -, proofB, -, proofC, -, commitment, -, pok, -, publicInputs, -, rfl⟩ := h
  rw [hlabel]
  exact .bsb22 size rfl ⟨rfl, rfl⟩

theorem rows_of_fixtures {table : List (String × Fixture)} (h : fixtures outDir content = some table) :
    ∀ row ∈ table, Row row := by
  simp only [fixtures, Option.bind_eq_bind, Option.bind_eq_some_iff, Option.pure_def,
    Option.some.injEq] at h
  obtain ⟨plain1, hplain1, plain2, hplain2, plain4, hplain4, plain8, hplain8, bsb221, hbsb221, bsb222,
    hbsb222, bsb224, hbsb224, bsb228, hbsb228, rfl⟩ := h
  simp only [List.forall_mem_cons, List.not_mem_nil, false_imp_iff, implies_true, and_true]
  exact ⟨row_plain .one (by decide) hplain1, row_plain .two (by decide) hplain2,
    row_plain .four (by decide) hplain4, row_plain .eight (by decide) hplain8,
    row_bsb22 .one (by decide) hbsb221, row_bsb22 .two (by decide) hbsb222,
    row_bsb22 .four (by decide) hbsb224, row_bsb22 .eight (by decide) hbsb228⟩

end

/-! ## The key that an instruction reaches -/

def Instruction.key (keys : Keys) : Instruction → Groth16Verifyingkey
  | .plain size _ _ _ _ => keys.plain size
  | .bsb22 size _ _ _ _ _ _ => keys.bsb22 size

theorem key_of_plain_bytes (keys : Keys) {i : Instruction} {size : Size} {payload : List UInt8}
    (h : UInt8.ofNat size.index :: payload = i.bytes) : i.key keys = keys.plain size := by
  have hlt := index_lt size
  cases i with
  | plain size' =>
    have hlt' := index_lt size'
    have hindex := congrArg UInt8.toNat (List.cons_eq_cons.mp h).1
    rw [toNat_selector (by omega), toNat_selector (by omega)] at hindex
    rw [size_of_index hindex]
    rfl
  | bsb22 size' =>
    have hlt' := index_lt size'
    have hindex := congrArg UInt8.toNat (List.cons_eq_cons.mp h).1
    rw [toNat_selector (by omega), toNat_selector (by omega)] at hindex
    omega

theorem key_of_bsb22_bytes (keys : Keys) {i : Instruction} {size : Size} {payload : List UInt8}
    (h : UInt8.ofNat (4 + size.index) :: payload = i.bytes) : i.key keys = keys.bsb22 size := by
  have hlt := index_lt size
  cases i with
  | plain size' =>
    have hlt' := index_lt size'
    have hindex := congrArg UInt8.toNat (List.cons_eq_cons.mp h).1
    rw [toNat_selector (by omega), toNat_selector (by omega)] at hindex
    omega
  | bsb22 size' =>
    have hlt' := index_lt size'
    have hindex := congrArg UInt8.toNat (List.cons_eq_cons.mp h).1
    rw [toNat_selector (by omega), toNat_selector (by omega)] at hindex
    rw [size_of_index (Nat.add_left_cancel hindex)]
    rfl

theorem Instruction.key_negated (keys : Keys) (i : Instruction) : i.negated.key keys = i.key keys := by
  cases i <;> rfl

/-- The key of a row's label. -/
theorem Row.key {row : String × Fixture} (hrow : Row row) {fs : FileSystem} {laws : fs.Lawful}
    {outDir : fs.Path} {start world' : fs.World} {keys : Keys}
    (hkeys : IncludesBaked laws outDir start world' keys) :
    ∃ vk, BakedKey laws outDir start world' row.1 vk ∧
      ∀ data, buildIxData row.2 = some data →
        ∃ i : Instruction, data = i.bytes ∧ i.key keys = vk.asBorrowed := by
  cases hrow with
  | @plain size f hcommitment hselects =>
    obtain ⟨vk, hbaked, hkey⟩ := hkeys.plain size
    refine ⟨vk, hbaked, ?_⟩
    intro data hdata
    obtain ⟨i, rfl⟩ := exists_instruction_of_buildIxData hselects hdata
    refine ⟨i, rfl, ?_⟩
    rw [← hkey]
    obtain ⟨-, hbytes⟩ := (buildIxData_plain hcommitment).mp hdata
    have hsel := hselects.2
    rw [hcommitment] at hsel
    rw [hsel] at hbytes
    exact key_of_plain_bytes keys hbytes.symm
  | @bsb22 size f points hcommitment hselects =>
    obtain ⟨vk, hbaked, hkey⟩ := hkeys.bsb22 size
    refine ⟨vk, hbaked, ?_⟩
    intro data hdata
    obtain ⟨i, rfl⟩ := exists_instruction_of_buildIxData hselects hdata
    refine ⟨i, rfl, ?_⟩
    rw [← hkey]
    obtain ⟨-, hbytes⟩ := (buildIxData_bsb22 hcommitment).mp hdata
    have hsel := hselects.2
    rw [hcommitment] at hsel
    rw [hsel] at hbytes
    exact key_of_bsb22_bytes keys hbytes.symm

/-! ## The bench -/

section
variable {rt : Runtime} {G2 GT : Type} [AddCommGroup G2] [CommGroup GT] (S : AltBn128 rt G2 GT)
variable {fs : FileSystem} {laws : fs.Lawful} {outDir : fs.Path} {start world' : fs.World}

/-- After a successful build every fixture that passes the assertion is verified under the key that
the build read for the fixture's own label, and the fixture of a proof is accepted exactly when the
proof holds. The host's files may come from another build. -/
theorem bench_verifies_under_own_key (hbuild : rt.bsb22 = true) (hwrites : laws.WritesApart)
    (hpaths : Apart fs outDir) {fuel : ℕ}
    (hrun : bakeVks fs outDir fuel labels start = some (.ok (), world')) {benchDir : fs.Path}
    {content : fs.Path → Option (List UInt8)} {table : List (String × Fixture)}
    (htable : fixtures benchDir content = some table) :
    ∃ keys, includeVks outDir (laws.content world') = some keys ∧
      ∀ row ∈ table, ∃ bytes vk, laws.content start (vkPath fs outDir row.1) = some bytes ∧
        parseGnarkVkBytes bytes = .ok vk ∧
        (∀ data, buildIxData row.2 = some data →
          ∃ i : Instruction, data = i.bytes ∧ i.key keys = vk.asBorrowed ∧
            processInstruction rt keys data = i.run rt keys) ∧
        ∀ i : Instruction, row.2 = fixtureOf i → CanonicalG1 i.proofA →
          i.key keys = vk.asBorrowed ∧
            ∃ data, buildIxData row.2 = some data ∧
              (processInstruction rt keys data = .ok () ↔ Proves S keys i) := by
  obtain ⟨keys, hkeys⟩ := includesBaked_of_run hwrites hpaths hrun
  refine ⟨keys, hkeys.included, ?_⟩
  intro row hrow
  obtain ⟨vk, hbaked, hreach⟩ := (rows_of_fixtures htable row hrow).key hkeys
  obtain ⟨bytes, hfile, hparse⟩ := hbaked.key
  refine ⟨bytes, vk, hfile, hparse, ?_, ?_⟩
  · intro data hdata
    obtain ⟨i, rfl, hkey⟩ := hreach data hdata
    exact ⟨i, rfl, hkey, processInstruction_bytes keys i⟩
  · intro i hfixture hA
    have hdata : buildIxData row.2 = some i.negated.bytes := by
      rw [hfixture, buildIxData_fixtureOf]
    obtain ⟨i', hbytes, hkey⟩ := hreach _ hdata
    obtain rfl := Instruction.bytes_injective hbytes
    refine ⟨(i.key_negated keys).symm.trans hkey, _, hdata, ?_⟩
    rw [processInstruction_bytes, run_eq_ok_iff S hbuild, accepted_negated_iff S hA]

end

/-! ## A table in memory -/

open FileSystem

/-- Fixture files of another build: a proof under the first label, and zeros. -/
def benchFixtures (path : String) : Option (List UInt8) :=
  if path = "bench/bench-fixtures/plain_1_proof_a.bin" then some (encodeG1 g1Generator).toList
  else if path = "bench/bench-fixtures/plain_1_proof_b.bin" then some g2GeneratorBytes.toList
  else if path = "bench/bench-fixtures/plain_1_public_inputs.bin" then some (beList 32 1)
  else some (List.replicate 64 0)

/-- The generator and the identity prove every input, under the first label. -/
def benchProof : Instruction :=
  .plain .one (encodeG1 g1Generator) g2GeneratorBytes (Bytes.zero 64) smallVerifier.publicInputs

theorem plain_benchFixtures :
    @plain memory "bench" benchFixtures "plain_1" 0 1 = some (fixtureOf benchProof) := by
  have hA : benchFixtures "bench/bench-fixtures/plain_1_proof_a.bin" =
      some (encodeG1 g1Generator).toList := by
    rw [benchFixtures, if_pos rfl]
  have hB : benchFixtures "bench/bench-fixtures/plain_1_proof_b.bin" = some g2GeneratorBytes.toList := by
    rw [benchFixtures, if_neg (by decide), if_pos rfl]
  have hC : benchFixtures "bench/bench-fixtures/plain_1_proof_c.bin" = some (Bytes.zero 64).toList := by
    decide
  have hinputs : benchFixtures "bench/bench-fixtures/plain_1_public_inputs.bin" =
      some (inputBytes smallVerifier.publicInputs.toList) := by decide
  exact plain_of_fixtures hA hB hC hinputs

theorem exists_benchTable : ∃ table, @fixtures memory "bench" benchFixtures = some table ∧
    ("plain_1", fixtureOf benchProof) ∈ table := by
  have hplain := plain_benchFixtures
  unfold fixtures
  simp only [hplain, Option.bind_eq_bind, Option.bind_some]
  exact ⟨_, rfl, List.mem_cons_self⟩

theorem proves_benchProof {keys : Keys} (hkey : benchProof.key keys = smallKeys.vkPlain1) :
    Proves referenceSyscalls keys benchProof := by
  have hvk : keys.plain .one = smallKeys.vkPlain1 := hkey
  have hin : InRange true smallVerifier.publicInputs := fun _ => by decide +kernel
  have hzero : referenceSyscalls.decodeG1 (Bytes.zero 64) = some 0 :=
    referenceSyscalls.decodeG1_encodeG1 0
  refine provesPlain_of_key referenceSyscalls hvk ⟨rfl, rfl, hin, _, decodesKey_smallVk _ _ _, ?_⟩
  exact ⟨g1Generator, 1, 0, referenceSyscalls.decodeG1_encodeG1 _, decodeG2_generator, hzero,
    smallEquation smallVerifier.publicInputs 2⟩

/-- The proof is accepted under the key that the build read for its label. -/
theorem bench_verifies_under_own_key_sample :
    ∃ (world' : memory.World) (keys : Keys) (data : List UInt8),
      bakeVks memory "out" 8 labels fixtureFiles = some (.ok (), world') ∧
        includeVks "out" (memoryLaws.content world') = some keys ∧
        benchProof.key keys = smallKeys.vkPlain1 ∧ buildIxData (fixtureOf benchProof) = some data ∧
        processInstruction referenceRuntime keys data = .ok () := by
  obtain ⟨result, houtcome, hsettles⟩ :=
    bakeVks_labels_settles memory_writesApart apart_memory fixtureFiles_bound
  obtain ⟨world', rfl⟩ := fixtureFiles_ok houtcome
  have hrun := hsettles.enough 8 (by decide)
  obtain ⟨table, htable, hrow⟩ := exists_benchTable
  obtain ⟨keys, hincluded, hrows⟩ := bench_verifies_under_own_key referenceSyscalls rfl
    memory_writesApart apart_memory hrun htable
  obtain ⟨bytes, vk, hfile, hparse, -, hproof⟩ := hrows _ hrow
  have hlabel : "plain_1" ∈ labels := label_plain .one
  obtain rfl := Option.some.inj (hfile.symm.trans (content_vkPath hlabel))
  obtain rfl := Except.ok.inj (hparse.symm.trans (parse_vkFile hlabel))
  obtain ⟨hkey, data, hdata, hiff⟩ :=
    hproof benchProof rfl (canonicalG1_iff.mpr ⟨g1Generator, rfl⟩)
  have hsmall : benchProof.key keys = smallKeys.vkPlain1 := hkey.trans (labelKey_plain .one)
  exact ⟨world', keys, data, hrun, hincluded, hsmall, hdata, hiff.mpr (proves_benchProof hsmall)⟩

end Groth16Solana.Program
