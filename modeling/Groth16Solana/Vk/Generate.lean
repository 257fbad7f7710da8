import Groth16Solana.Vk.CircomRoundTrip
import Groth16Solana.Vk.ProvingKey
import Groth16Solana.Vk.SetupLabel
import Groth16Solana.Vk.SymbolPreimage

/-! # Generating a file (`vk/gnark.rs`, `vk/circom.rs`)

The two functions that a build script calls. They read a key, hash the proving key, and write the
source in a directory that they create. -/

set_option autoImplicit false

namespace Groth16Solana
open Foundations

variable (fs : FileSystem)

/-- The end of both functions. -/
def saveSource (world : fs.World) (outputDir : fs.Path) (outputFilename source : String) :
    Except fs.Error Unit × fs.World :=
  match fs.createDirAll world outputDir with
  | (.error error, world) => (.error error, world)
  | (.ok (), world) => fs.write world (fs.join outputDir outputFilename) (asBytes source)

/-- `generate_bsb22_vk_file` from the digest on. -/
def saveBsb22Vk (world : fs.World) (outputDir : fs.Path) (outputFilename constName : String)
    (setup : SetupKind) (vk : Groth16VerifyingkeyOwned) :
    Except (IoError fs) (Bytes 32) → Except Groth16Error Unit × fs.World
  | .error _ => (.error .bsb22VkFileIoFailed, world)
  | .ok provingKeySha256 =>
    match bsb22VkToRustConst vk constName setup provingKeySha256 with
    | .error err => (.error err, world)
    | .ok rust =>
      let (answer, world) := saveSource fs world outputDir outputFilename rust
      (mapErr .bsb22VkFileIoFailed answer, world)

def generateBsb22VkFile (fuel : ℕ) (world : fs.World) (inputPath outputDir : fs.Path)
    (outputFilename constName : String) (setup : SetupKind) (provingKey : ProvingKeySource fs) :
    Option (Except Groth16Error Unit × fs.World) :=
  match fs.readFile world inputPath with
  | .error _ => some (.error .bsb22VkFileIoFailed, world)
  | .ok bytes =>
    match parseGnarkVkBytes bytes with
    | .error err => some (.error err, world)
    | .ok vk =>
      (provingKey.keySha256 fuel world).map
        (saveBsb22Vk fs world outputDir outputFilename constName setup vk)

variable {fs} (laws : fs.Lawful) (world : fs.World) (outputDir : fs.Path) (outputFilename : String)

/-- What saving a source leaves in the files. -/
inductive Saved (source : String) : Except fs.Error Unit → fs.World → Prop
  | written {world' : fs.World}
      (hfile : laws.content world' (fs.join outputDir outputFilename) = some (asBytes source)) :
    Saved source (.ok ()) world'
  | notCreated {world' : fs.World} {error : fs.Error}
      (hcreate : fs.createDirAll world outputDir = (.error error, world'))
      (hsame : laws.content world' = laws.content world) : Saved source (.error error) world'
  | notWritten {world' world'' : fs.World} {error : fs.Error}
      (hsame : laws.content world' = laws.content world)
      (hwrite : fs.write world' (fs.join outputDir outputFilename) (asBytes source) =
        (.error error, world'')) : Saved source (.error error) world''

theorem saved_saveSource (source : String) :
    Saved laws world outputDir outputFilename source
      (saveSource fs world outputDir outputFilename source).1
      (saveSource fs world outputDir outputFilename source).2 := by
  have hsame := laws.createDirAll_content world outputDir
  rw [saveSource]
  rcases hcreate : fs.createDirAll world outputDir with ⟨answer, world'⟩
  rw [hcreate] at hsame
  cases answer with
  | error error => exact Saved.notCreated hcreate hsame
  | ok created =>
    rcases hwrite : fs.write world' (fs.join outputDir outputFilename) (asBytes source) with
      ⟨answer, world''⟩
    cases answer with
    | error error =>
      simp only [hwrite]
      exact Saved.notWritten hsame hwrite
    | ok written =>
      simp only [hwrite]
      exact Saved.written (laws.write_content hwrite)

/-! ## The key of a gnark file -/

/-- What `generate_bsb22_vk_file` returns and leaves in the files. -/
inductive Bsb22FileOutcome (inputPath : fs.Path) (constName : String) (setup : SetupKind)
    (provingKey : ProvingKeySource fs) : Except Groth16Error Unit × fs.World → Prop
  | saved {bytes : List UInt8} {vk : Groth16VerifyingkeyOwned} {digest : Bytes 32} {source : String}
      {answer : Except fs.Error Unit} {world' : fs.World}
      (hfile : laws.content world inputPath = some bytes) (hparse : parseGnarkVkBytes bytes = .ok vk)
      (hkey : provingKey.Answers laws world (.ok digest))
      (hread : readVerifyingkey source constName = some vk.asBorrowed ↔
        ¬ HidesVariant constName vk.vkCommitment)
      (hlabel : LabelAgrees source constName setup digest)
      (htext : emittedText source constName = some (fileTxt constName setup digest).toMarker)
      (hsaved : Saved laws world outputDir outputFilename source answer world') :
    Bsb22FileOutcome inputPath constName setup provingKey
      (mapErr .bsb22VkFileIoFailed answer, world')
  | notRead {error : fs.Error} (hread : fs.readFile world inputPath = .error error) :
    Bsb22FileOutcome inputPath constName setup provingKey (.error .bsb22VkFileIoFailed, world)
  | malformed {bytes : List UInt8} {err : Groth16Error}
      (hfile : laws.content world inputPath = some bytes)
      (hparse : parseGnarkVkBytes bytes = .error err) :
    Bsb22FileOutcome inputPath constName setup provingKey (.error err, world)
  | notHashed {error : IoError fs} (hkey : provingKey.Answers laws world (.error error)) :
    Bsb22FileOutcome inputPath constName setup provingKey (.error .bsb22VkFileIoFailed, world)
  | forgeable {bytes : List UInt8} {vk : Groth16VerifyingkeyOwned}
      (hfile : laws.content world inputPath = some bytes) (hparse : parseGnarkVkBytes bytes = .ok vk)
      (hsetup : setup = .production) (hequal : vk.vkGammaG2 = vk.vkDeltaG2) :
    Bsb22FileOutcome inputPath constName setup provingKey (.error .forgeableProductionVk, world)

theorem emittedText_of_emitted {vk : Groth16VerifyingkeyOwned} {constName source : String}
    {setup : SetupKind} {digest : Bytes 32} (hname : RustIdentifier constName)
    (hsource : bsb22VkToRustConst vk constName setup digest = .ok source) :
    emittedText source constName = some (fileTxt constName setup digest).toMarker := by
  unfold bsb22VkToRustConst at hsource
  split at hsource
  next => cases hsource
  next =>
    obtain rfl := Except.ok.inj hsource
    obtain ⟨symbol, hholds⟩ := holdsItems_vkFile vk setup digest hname
    rw [emittedText, (otherItems_keyItems constName vk).emittedItem hholds (by simp [metadataNames])
      (itemValue_text _ _ _ _), readStr, String.ofList_toList]

theorem forgeable_of_refused {vk : Groth16VerifyingkeyOwned} {constName : String}
    {setup : SetupKind} {digest : Bytes 32} {err : Groth16Error}
    (h : bsb22VkToRustConst vk constName setup digest = .error err) :
    err = .forgeableProductionVk ∧ setup = .production ∧ vk.vkGammaG2 = vk.vkDeltaG2 := by
  unfold bsb22VkToRustConst at h
  split at h
  next hforge => exact ⟨(Except.error.inj h).symm, hforge.1, of_decide_eq_true hforge.2⟩
  next => cases h

theorem bsb22FileOutcome_saveBsb22Vk {inputPath : fs.Path} {constName : String} {setup : SetupKind}
    {provingKey : ProvingKeySource fs} {bytes : List UInt8} {vk : Groth16VerifyingkeyOwned}
    {answer : Except (IoError fs) (Bytes 32)} (hname : RustIdentifier constName)
    (hfile : laws.content world inputPath = some bytes) (hparse : parseGnarkVkBytes bytes = .ok vk)
    (hkey : provingKey.Answers laws world answer) :
    Bsb22FileOutcome laws world outputDir outputFilename inputPath constName setup provingKey
      (saveBsb22Vk fs world outputDir outputFilename constName setup vk answer) := by
  cases answer with
  | error error => exact Bsb22FileOutcome.notHashed hkey
  | ok digest =>
    rw [saveBsb22Vk]
    cases hsource : bsb22VkToRustConst vk constName setup digest with
    | error err =>
      obtain ⟨rfl, hsetup, hequal⟩ := forgeable_of_refused hsource
      exact Bsb22FileOutcome.forgeable hfile hparse hsetup hequal
    | ok source =>
      exact Bsb22FileOutcome.saved hfile hparse hkey
        (readVerifyingkey_eq_iff hparse hname hsource) (labelAgrees_gnark hname hsource)
        (emittedText_of_emitted hname hsource)
        (saved_saveSource laws world outputDir outputFilename source)

theorem generateBsb22VkFile_settles (inputPath : fs.Path) {constName : String} (setup : SetupKind)
    (provingKey : ProvingKeySource fs) (hname : RustIdentifier constName) :
    ∃ result,
      Bsb22FileOutcome laws world outputDir outputFilename inputPath constName setup provingKey
        result ∧
      Settles (fun fuel => generateBsb22VkFile fs fuel world inputPath outputDir outputFilename
        constName setup provingKey) (provingKey.size laws world) result := by
  unfold generateBsb22VkFile
  cases hread : fs.readFile world inputPath with
  | error error => exact ⟨_, Bsb22FileOutcome.notRead hread, settles_some _ _⟩
  | ok bytes =>
    have hfile := laws.readFile_content hread
    cases hparse : parseGnarkVkBytes bytes with
    | error err =>
      simp only [hparse]
      exact ⟨_, Bsb22FileOutcome.malformed hfile hparse, settles_some _ _⟩
    | ok vk =>
      simp only [hparse]
      obtain ⟨answer, hkey, hsettles⟩ := provingKey.keySha256_settles laws world
      exact ⟨_, bsb22FileOutcome_saveBsb22Vk laws world outputDir outputFilename hname hfile hparse
        hkey, hsettles.map _⟩

/-! ## The files that are not written -/

section
variable {laws world} {other : fs.Path}

theorem saveSource_other (hapart : laws.WritesApart)
    (hother : other ≠ fs.join outputDir outputFilename) (source : String) :
    laws.content (saveSource fs world outputDir outputFilename source).2 other =
      laws.content world other := by
  have hsame := laws.createDirAll_content world outputDir
  rw [saveSource]
  rcases hcreate : fs.createDirAll world outputDir with ⟨answer, world'⟩
  rw [hcreate] at hsame
  cases answer with
  | error error => exact congrFun hsame other
  | ok created => exact (hapart world' _ _ other hother).trans (congrFun hsame other)

theorem saveBsb22Vk_other (hapart : laws.WritesApart)
    (hother : other ≠ fs.join outputDir outputFilename) (constName : String) (setup : SetupKind)
    (vk : Groth16VerifyingkeyOwned) (answer : Except (IoError fs) (Bytes 32)) :
    laws.content (saveBsb22Vk fs world outputDir outputFilename constName setup vk answer).2 other =
      laws.content world other := by
  cases answer with
  | error error => rfl
  | ok digest =>
    rw [saveBsb22Vk]
    cases bsb22VkToRustConst vk constName setup digest with
    | error err => rfl
    | ok source => exact saveSource_other outputDir outputFilename hapart hother source

theorem generateBsb22VkFile_other (hapart : laws.WritesApart)
    (hother : other ≠ fs.join outputDir outputFilename) {inputPath : fs.Path} {constName : String}
    {setup : SetupKind} {provingKey : ProvingKeySource fs} {fuel : ℕ}
    {result : Except Groth16Error Unit × fs.World}
    (h : generateBsb22VkFile fs fuel world inputPath outputDir outputFilename constName setup
      provingKey = some result) : laws.content result.2 other = laws.content world other := by
  unfold generateBsb22VkFile at h
  split at h
  next =>
    obtain rfl := Option.some.inj h
    rfl
  next bytes hread =>
    split at h
    next =>
      obtain rfl := Option.some.inj h
      rfl
    next vk hparse =>
      obtain ⟨answer, -, rfl⟩ := Option.map_eq_some_iff.mp h
      exact saveBsb22Vk_other outputDir outputFilename hapart hother constName setup vk answer

end

/-- The file that `generate_bsb22_vk_file` writes holds the key of `vk.bin` and the digest of the
proving key. Where it writes none it says why, and no other file ever changes. -/
theorem generateBsb22VkFile_outcome (hapart : laws.WritesApart) (inputPath : fs.Path)
    {constName : String} (setup : SetupKind) (provingKey : ProvingKeySource fs)
    (hname : RustIdentifier constName) :
    ∃ result,
      Bsb22FileOutcome laws world outputDir outputFilename inputPath constName setup provingKey
        result ∧
      Settles (fun fuel => generateBsb22VkFile fs fuel world inputPath outputDir outputFilename
        constName setup provingKey) (provingKey.size laws world) result ∧
      ∀ other, other ≠ fs.join outputDir outputFilename →
        laws.content result.2 other = laws.content world other := by
  obtain ⟨result, houtcome, hsettles⟩ :=
    generateBsb22VkFile_settles laws world outputDir outputFilename inputPath setup provingKey hname
  refine ⟨result, houtcome, hsettles, ?_⟩
  intro other hother
  have hrun := hsettles.enough _ (Nat.lt_succ_self _)
  exact generateBsb22VkFile_other outputDir outputFilename hapart hother hrun

section Sample
open FileSystem

/-- A build directory with the two keys of a setup. -/
def buildFiles (input : List UInt8) : memory.World := fun path =>
  if path = "vk" then some input else if path = "pk" then some [1, 2, 3] else none

theorem content_vk (input : List UInt8) :
    memoryLaws.content (buildFiles input) "vk" = some input := by
  show buildFiles input "vk" = some input
  exact if_pos rfl

theorem content_pk (input : List UInt8) :
    memoryLaws.content (buildFiles input) "pk" = some [1, 2, 3] := by
  show buildFiles input "pk" = some [1, 2, 3]
  rw [buildFiles, if_neg (by decide), if_pos rfl]

theorem size_pk (input : List UInt8) :
    (ProvingKeySource.file "pk" : ProvingKeySource memory).size memoryLaws (buildFiles input) < 4 := by
  show ((memoryLaws.content (buildFiles input) "pk").getD []).length < 4
  rw [content_pk]
  decide

/-- Nothing fails in memory. -/
theorem answers_buildFiles {input : List UInt8} {answer : Except (IoError memory) (Bytes 32)}
    (h : (ProvingKeySource.file "pk" : ProvingKeySource memory).Answers memoryLaws (buildFiles input)
      answer) : answer = .ok (sha256 [1, 2, 3]) := by
  cases h with
  | file hdigest =>
    cases hdigest with
    | digest hfile => rw [Option.some.inj (hfile.symm.trans (content_pk input))]
    | notOpened hopen => cases hopen.symm.trans (memory_openFile (content_pk input))
    | notRead _ _ hread => cases hread

theorem saved_buildFiles {input : List UInt8} {source : String} {answer : Except memory.Error Unit}
    {world' : memory.World}
    (h : Saved memoryLaws (buildFiles input) "out" "verifying_key.rs" source answer world') :
    answer = .ok () ∧ world' "out/verifying_key.rs" = some (asBytes source) := by
  cases h with
  | written hfile => exact ⟨rfl, hfile⟩
  | notCreated hcreate hsame => cases hcreate
  | notWritten hsame hwrite => cases hwrite

theorem generateBsb22VkFile_sample :
    ∃ world' source,
      generateBsb22VkFile memory 4 (buildFiles (writeRawTo (Bytes.zero 64) (Bytes.zero 64) sampleVk))
        "vk" "out" "verifying_key.rs" "VERIFYINGKEY" .production (.file "pk") =
          some (.ok (), world') ∧
      world' "out/verifying_key.rs" = some (asBytes source) ∧
      readVerifyingkey source "VERIFYINGKEY" = some sampleVk.asBorrowed ∧
      LabelAgrees source "VERIFYINGKEY" .production (sha256 [1, 2, 3]) := by
  have hencoded := parse_sampleVk
  generalize writeRawTo (Bytes.zero 64) (Bytes.zero 64) sampleVk = input at hencoded ⊢
  have hparsed : ∀ {bytes : List UInt8}, memoryLaws.content (buildFiles input) "vk" = some bytes →
      parseGnarkVkBytes bytes = .ok sampleVk := by
    intro bytes hfile
    rw [← Option.some.inj ((content_vk input).symm.trans hfile), hencoded]
  obtain ⟨result, houtcome, hsettles, -⟩ :=
    generateBsb22VkFile_outcome memoryLaws (buildFiles input) "out" "verifying_key.rs"
      memory_writesApart "vk" .production (.file "pk") rustIdentifier_verifyingkey
  rw [hsettles.enough 4 (size_pk input)]
  cases houtcome with
  | saved hfile hparse hkey hread hlabel _ hsaved =>
    obtain rfl := Except.ok.inj (hparse.symm.trans (hparsed hfile))
    obtain ⟨rfl, hwritten⟩ := saved_buildFiles hsaved
    obtain rfl := Except.ok.inj (answers_buildFiles hkey)
    exact ⟨_, _, rfl, hwritten, hread.mpr (by decide), hlabel⟩
  | notRead hread => cases hread.symm.trans (memory_readFile (content_vk input))
  | malformed hfile hparse => cases hparse.symm.trans (hparsed hfile)
  | notHashed hkey => cases answers_buildFiles hkey
  | forgeable hfile hparse hsetup hequal =>
    obtain rfl := Except.ok.inj (hparse.symm.trans (hparsed hfile))
    exact absurd hequal (by decide +kernel)

end Sample

/-! ## The key of a snarkjs file -/

theorem denotedKey_of_generated {json : JsonPackages} {jsonContent source : String}
    {setup : SetupKind} {digest : Bytes 32} (hparse : ParsesDecimals json)
    (hsource : parseVkJsonToRustString json jsonContent setup digest = .ok source)
    {rawVk : RawVerifyingKey} {key : SnarkjsKey} (hjson : json.fromStr jsonContent = .ok rawVk)
    (hkey : IsSnarkjs rawVk key) :
    denotedKey source "VERIFYINGKEY" = some key.verifyingkey.asBorrowed := by
  obtain ⟨nrPubinputs, head, ic, hgenerated, rfl⟩ := generated_of_parse digest hjson hsource
  have hhead : some (nrPubinputs, head) = some (key.ic.length - 1, key.head) := by
    rw [← hgenerated.headIntegers_eq, hkey.headIntegers hparse]
  have hrows : some ic = some key.rows := by
    rw [← hgenerated.icIntegers_eq, hkey.icIntegers hparse]
  obtain ⟨rfl, rfl⟩ := Prod.mk.inj (Option.some.inj hhead)
  obtain rfl := Option.some.inj hrows
  rw [denotedKey, readKeyLiteral_circomFile _ setup digest (nrPubinputs_lt_of_generated hgenerated),
    Option.bind_eq_bind, Option.bind_some]
  exact key.typed_literal

section Sample
open FileSystem

end Sample

end Groth16Solana
