import Groth16Solana.Program.Acceptance
import Groth16Solana.Vk.Generate

/-! # Baking the keys (`tests/program/build.rs`)

For every mode and input count the build script turns the key that the fixture generator left into a
source file, and the program includes the eight files by their names. What is modelled starts where
the generator has run. -/

set_option autoImplicit false

namespace Groth16Solana
open Foundations

namespace Program

def modes : List String := ["plain", "bsb22"]

def publicInputCounts : List ℕ := [1, 2, 4, 8]

/-- `{mode}_{n}`. -/
def labelOf (mode : String) (n : ℕ) : String := mode ++ "_" ++ toString n

/-- The labels in the order of the two loops. -/
def labels : List String := modes.flatMap fun mode => publicInputCounts.map (labelOf mode)

/-- `to_uppercase`, on ASCII text. -/
def toUppercase (text : String) : String := String.ofList (text.toList.map Char.toUpper)

def vkFilename (label : String) : String := "vk_" ++ label ++ ".rs"

def vkConstName (label : String) : String := "VK_" ++ toUppercase label

section
variable (fs : FileSystem) (outDir : fs.Path)

def fixtureDir : fs.Path := fs.join outDir "bench-fixtures"

def vkPath (label : String) : fs.Path := fs.join (fixtureDir fs outDir) (label ++ "_vk.bin")

def pkPath (label : String) : fs.Path := fs.join (fixtureDir fs outDir) (label ++ "_pk.bin")

def bakeVk (fuel : ℕ) (world : fs.World) (label : String) :
    Option (Except Groth16Error Unit × fs.World) :=
  generateBsb22VkFile fs fuel world (vkPath fs outDir label) outDir (vkFilename label)
    (vkConstName label) .insecureTest (.file (pkPath fs outDir label))

/-- The loops, up to the first panic, which names its label. -/
def bakeVks (fuel : ℕ) : List String → fs.World →
    Option (Except (String × Groth16Error) Unit × fs.World)
  | [], world => some (.ok (), world)
  | label :: labels, world =>
    (bakeVk fs outDir fuel world label).bind fun
      | (.error err, world) => some (.error (label, err), world)
      | (.ok (), world) => bakeVks fuel labels world

/-! ## Including the files -/

variable {fs} (content : fs.Path → Option (List UInt8))

/-- `include_vk!`. -/
def includeVk (file name : String) : Option Groth16Verifyingkey := do
  let bytes ← content (fs.join outDir file)
  let source ← fromUtf8 bytes
  readVerifyingkey source name

def includeVks : Option Keys := do
  let vkPlain1 ← includeVk outDir content "vk_plain_1.rs" "VK_PLAIN_1"
  let vkPlain2 ← includeVk outDir content "vk_plain_2.rs" "VK_PLAIN_2"
  let vkPlain4 ← includeVk outDir content "vk_plain_4.rs" "VK_PLAIN_4"
  let vkPlain8 ← includeVk outDir content "vk_plain_8.rs" "VK_PLAIN_8"
  let vkBsb221 ← includeVk outDir content "vk_bsb22_1.rs" "VK_BSB22_1"
  let vkBsb222 ← includeVk outDir content "vk_bsb22_2.rs" "VK_BSB22_2"
  let vkBsb224 ← includeVk outDir content "vk_bsb22_4.rs" "VK_BSB22_4"
  let vkBsb228 ← includeVk outDir content "vk_bsb22_8.rs" "VK_BSB22_8"
  return { vkPlain1, vkPlain2, vkPlain4, vkPlain8, vkBsb221, vkBsb222, vkBsb224, vkBsb228 }

end

/-! ## Names -/

theorem labels_nodup : labels.Nodup := by decide

theorem label_plain (size : Size) : labelOf "plain" size.nrInputs ∈ labels := by
  cases size <;> decide

theorem label_bsb22 (size : Size) : labelOf "bsb22" size.nrInputs ∈ labels := by
  cases size <;> decide

theorem rustIdentifier_vkConstName {label : String} (h : label ∈ labels) :
    RustIdentifier (vkConstName label) := by
  have hall : labels.all fun label => (label.toList.map Char.toUpper).all isWordChar := by decide
  have hchars := List.all_eq_true.mp (List.all_eq_true.mp hall label h)
  have hname : (vkConstName label).toList =
      'V' :: 'K' :: '_' :: label.toList.map Char.toUpper := by
    simp [vkConstName, toUppercase]
  have hprefix : ∀ c ∈ ['V', 'K', '_'], isWordChar c :=
    List.all_eq_true.mp (by decide)
  rw [RustIdentifier, hname]
  refine ⟨⟨'V', _, ?_, Or.inl rfl⟩, ?_⟩
  · intro c hc
    obtain hc | hc : c ∈ ['V', 'K', '_'] ∨ c ∈ label.toList.map Char.toUpper :=
      List.mem_append.mp hc
    · exact hprefix c hc
    · exact hchars c hc
  · intro c hc
    obtain rfl := Option.some.inj hc
    decide

/-! ## A run of the script -/

section
variable {fs : FileSystem} (laws : fs.Lawful) (outDir : fs.Path)

/-- The paths of the script are different where its names are. -/
structure Apart (fs : FileSystem) (outDir : fs.Path) : Prop where
  outputs : ∀ label ∈ labels, ∀ label' ∈ labels,
    fs.join outDir (vkFilename label) = fs.join outDir (vkFilename label') → label = label'
  vk : ∀ label ∈ labels, ∀ label' ∈ labels, vkPath fs outDir label ≠ fs.join outDir (vkFilename label')
  pk : ∀ label ∈ labels, ∀ label' ∈ labels, pkPath fs outDir label ≠ fs.join outDir (vkFilename label')

/-- In `world'` the file of a label holds the key and the digest of its fixtures in `world`. -/
structure BakedKey (world world' : fs.World) (label : String) (vk : Groth16VerifyingkeyOwned) :
    Prop where
  key : ∃ bytes, laws.content world (vkPath fs outDir label) = some bytes ∧
    parseGnarkVkBytes bytes = .ok vk
  file : ∃ source pk,
    laws.content world' (fs.join outDir (vkFilename label)) = some (asBytes source) ∧
    readVerifyingkey source (vkConstName label) = some vk.asBorrowed ∧
    laws.content world (pkPath fs outDir label) = some pk ∧
    LabelAgrees source (vkConstName label) .insecureTest (sha256 pk) ∧
    emittedText source (vkConstName label) =
      some (fileTxt (vkConstName label) .insecureTest (sha256 pk)).toMarker

/-- The fixtures of a label are those of another world. -/
structure SameFixtures (start world : fs.World) (label : String) : Prop where
  vk : laws.content world (vkPath fs outDir label) = laws.content start (vkPath fs outDir label)
  pk : laws.content world (pkPath fs outDir label) = laws.content start (pkPath fs outDir label)

/-- How the loops end: with all keys baked, or at a label whose generation failed. -/
inductive BuildOutcome (start : fs.World) (todo : List String) :
    Except (String × Groth16Error) Unit × fs.World → Prop
  | baked {world' : fs.World}
      (hbaked : ∀ label ∈ todo, ∃ vk, BakedKey laws outDir start world' label vk) :
    BuildOutcome start todo (.ok (), world')
  | panics (before : List String) {after : List String} {label : String} {err : Groth16Error}
      {world world' : fs.World} (htodo : todo = before ++ label :: after)
      (hbaked : ∀ label ∈ before, ∃ vk, BakedKey laws outDir start world' label vk)
      (hfixtures : SameFixtures laws outDir start world label)
      (hfails : Bsb22FileOutcome laws world outDir (vkFilename label) (vkPath fs outDir label)
        (vkConstName label) .insecureTest (.file (pkPath fs outDir label)) (.error err, world')) :
    BuildOutcome start todo (.error (label, err), world')

variable {laws outDir} {start world world' world'' : fs.World} {label : String}

theorem bakedKey_of_outcome {result : Except Groth16Error Unit × fs.World}
    (hresult : result = (.ok (), world'))
    (h : Bsb22FileOutcome laws world outDir (vkFilename label) (vkPath fs outDir label)
      (vkConstName label) .insecureTest (.file (pkPath fs outDir label)) result) :
    ∃ vk, BakedKey laws outDir world world' label vk := by
  cases h with
  | @saved bytes vk digest source answer written hfile hparse hkey hread hlabel htext hsaved =>
    obtain ⟨hanswer, rfl⟩ := Prod.mk.inj hresult
    obtain rfl := mapErr_eq_ok.mp hanswer
    cases hsaved with
    | written hwritten =>
      cases hkey with
      | file hdigest =>
        cases hdigest with
        | digest hpk =>
          have hunderscore : '_' ∈ (vkConstName label).toList := by
            simp [vkConstName]
          exact ⟨vk, ⟨bytes, hfile, hparse⟩, source, _, hwritten,
            hread.mpr (not_hidesVariant hunderscore vk.vkCommitment), hpk, hlabel, htext⟩
  | notRead => cases hresult
  | malformed => cases hresult
  | notHashed => cases hresult
  | forgeable => cases hresult

theorem BakedKey.transport {vk : Groth16VerifyingkeyOwned}
    (h : BakedKey laws outDir world world' label vk)
    (hfixtures : SameFixtures laws outDir start world label)
    (hfile : laws.content world'' (fs.join outDir (vkFilename label)) =
      laws.content world' (fs.join outDir (vkFilename label))) :
    BakedKey laws outDir start world'' label vk := by
  obtain ⟨bytes, hbytes, hparse⟩ := h.key
  obtain ⟨source, pk, hwritten, hread, hpk, hlabel, htext⟩ := h.file
  exact ⟨⟨bytes, hfixtures.vk ▸ hbytes, hparse⟩, source, pk, hfile.trans hwritten, hread,
    hfixtures.pk ▸ hpk, hlabel, htext⟩

theorem bakeVk_settles (laws : fs.Lawful) (outDir : fs.Path) (world : fs.World)
    (hlabel : label ∈ labels) :
    ∃ result, Bsb22FileOutcome laws world outDir (vkFilename label) (vkPath fs outDir label)
        (vkConstName label) .insecureTest (.file (pkPath fs outDir label)) result ∧
      Settles (fun fuel => bakeVk fs outDir fuel world label)
        ((laws.content world (pkPath fs outDir label)).getD []).length result :=
  generateBsb22VkFile_settles laws world outDir (vkFilename label) (vkPath fs outDir label)
    .insecureTest (.file (pkPath fs outDir label)) (rustIdentifier_vkConstName hlabel)

theorem bakeVk_other (hwrites : laws.WritesApart) {fuel : ℕ}
    {result : Except Groth16Error Unit × fs.World}
    (h : bakeVk fs outDir fuel world label = some result) (other : fs.Path)
    (hother : other ≠ fs.join outDir (vkFilename label)) :
    laws.content result.2 other = laws.content world other :=
  generateBsb22VkFile_other outDir (vkFilename label) hwrites hother h

/-- No label writes over the fixtures. -/
theorem SameFixtures.step (hpaths : Apart fs outDir) {label' : String} (hlabel : label ∈ labels)
    (hlabel' : label' ∈ labels) (h : SameFixtures laws outDir start world label)
    (hother : ∀ other, other ≠ fs.join outDir (vkFilename label') →
      laws.content world' other = laws.content world other) :
    SameFixtures laws outDir start world' label where
  vk := (hother _ (hpaths.vk label hlabel label' hlabel')).trans h.vk
  pk := (hother _ (hpaths.pk label hlabel label' hlabel')).trans h.pk

/-- What the rest of the loops does, from any point on. -/
theorem bakeVks_settles (hwrites : laws.WritesApart) (hpaths : Apart fs outDir) {bound : ℕ}
    (hbound : ∀ label ∈ labels,
      ((laws.content start (pkPath fs outDir label)).getD []).length ≤ bound)
    (todo : List String) (htodo : ∀ label ∈ todo, label ∈ labels) (hnodup : todo.Nodup)
    (hfixtures : ∀ label ∈ labels, SameFixtures laws outDir start world label) :
    ∃ result, BuildOutcome laws outDir start todo result ∧
      Settles (fun fuel => bakeVks fs outDir fuel todo world) bound result ∧
      ∀ other, (∀ label ∈ todo, other ≠ fs.join outDir (vkFilename label)) →
        laws.content result.2 other = laws.content world other := by
  induction todo generalizing world with
  | nil =>
    refine ⟨(.ok (), world), BuildOutcome.baked (List.forall_mem_nil _), settles_some _ _, ?_⟩
    intro other _
    rfl
  | cons label todo ih =>
    have hlabel := htodo label List.mem_cons_self
    have hsame := hfixtures label hlabel
    obtain ⟨⟨answer, world'⟩, hstep, hsettles⟩ :=
      bakeVk_settles laws outDir world hlabel
    have hother := bakeVk_other hwrites (hsettles.enough _ (Nat.lt_succ_self _))
    rw [hsame.pk] at hsettles
    have hsettles := hsettles.of_le (hbound label hlabel)
    cases answer with
    | error err =>
      refine ⟨(.error (label, err), world'),
        BuildOutcome.panics [] rfl (List.forall_mem_nil _) hsame hstep,
        hsettles.bind (settles_some _ _), ?_⟩
      intro other hne
      exact hother other (hne label List.mem_cons_self)
    | ok baked =>
      obtain ⟨hfresh, hnodup⟩ := List.nodup_cons.mp hnodup
      have hrest : ∀ later ∈ todo, later ∈ labels := fun later h => htodo later (List.mem_cons_of_mem _ h)
      obtain ⟨result, houtcome, hrun, hframe⟩ := ih hrest hnodup
        fun later hlater => (hfixtures later hlater).step hpaths hlater hlabel hother
      -- The file of this label is not among those that the rest writes.
      have hkept : laws.content result.2 (fs.join outDir (vkFilename label)) =
          laws.content world' (fs.join outDir (vkFilename label)) := by
        apply hframe
        intro later hlater hpath
        have heq := hpaths.outputs label hlabel later (hrest later hlater) hpath
        exact hfresh (heq ▸ hlater)
      obtain ⟨vk, hbaked⟩ := bakedKey_of_outcome rfl hstep
      have hbaked := hbaked.transport hsame hkept
      refine ⟨result, ?_, hsettles.bind hrun, ?_⟩
      · cases houtcome with
        | baked hall => exact BuildOutcome.baked (List.forall_mem_cons.mpr ⟨⟨vk, hbaked⟩, hall⟩)
        | panics before htodo hall hfixtures hfails =>
          exact BuildOutcome.panics (label :: before) (by rw [htodo, List.cons_append])
            (List.forall_mem_cons.mpr ⟨⟨vk, hbaked⟩, hall⟩) hfixtures hfails
      · intro other hne
        obtain ⟨hhere, hlater⟩ := List.forall_mem_cons.mp hne
        exact (hframe other hlater).trans (hother other hhere)

/-! ## The keys of the program -/

theorem includeVk_of_baked {vk : Groth16VerifyingkeyOwned} {file name : String}
    (h : BakedKey laws outDir world world' label vk)
    (hnames : vkFilename label = file ∧ vkConstName label = name) :
    includeVk outDir (laws.content world') file name = some vk.asBorrowed := by
  obtain ⟨source, pk, hfile, hread, -⟩ := h.file
  obtain ⟨rfl, rfl⟩ := hnames
  rw [includeVk, hfile]
  show (fromUtf8 (asBytes source)).bind _ = _
  rw [fromUtf8_eq_some_iff.mpr rfl, Option.bind_some]
  exact hread

/-- The file and the constant that `include_vk!` names for a plain key. -/
def plainNames : Size → String × String
  | .one => ("vk_plain_1.rs", "VK_PLAIN_1")
  | .two => ("vk_plain_2.rs", "VK_PLAIN_2")
  | .four => ("vk_plain_4.rs", "VK_PLAIN_4")
  | .eight => ("vk_plain_8.rs", "VK_PLAIN_8")

def bsb22Names : Size → String × String
  | .one => ("vk_bsb22_1.rs", "VK_BSB22_1")
  | .two => ("vk_bsb22_2.rs", "VK_BSB22_2")
  | .four => ("vk_bsb22_4.rs", "VK_BSB22_4")
  | .eight => ("vk_bsb22_8.rs", "VK_BSB22_8")

theorem names_plain (size : Size) :
    vkFilename (labelOf "plain" size.nrInputs) = (plainNames size).1 ∧
      vkConstName (labelOf "plain" size.nrInputs) = (plainNames size).2 := by
  cases size <;> decide

theorem names_bsb22 (size : Size) :
    vkFilename (labelOf "bsb22" size.nrInputs) = (bsb22Names size).1 ∧
      vkConstName (labelOf "bsb22" size.nrInputs) = (bsb22Names size).2 := by
  cases size <;> decide

theorem includeVks_eq {content : fs.Path → Option (List UInt8)} {plain bsb22 : Size → Groth16Verifyingkey}
    (hplain : ∀ size, includeVk outDir content (plainNames size).1 (plainNames size).2 =
      some (plain size))
    (hbsb22 : ∀ size, includeVk outDir content (bsb22Names size).1 (bsb22Names size).2 =
      some (bsb22 size)) :
    includeVks outDir content = some ⟨plain .one, plain .two, plain .four, plain .eight, bsb22 .one,
      bsb22 .two, bsb22 .four, bsb22 .eight⟩ := by
  have hplain1 := hplain .one
  have hplain2 := hplain .two
  have hplain4 := hplain .four
  have hplain8 := hplain .eight
  have hbsb221 := hbsb22 .one
  have hbsb222 := hbsb22 .two
  have hbsb224 := hbsb22 .four
  have hbsb228 := hbsb22 .eight
  simp only [plainNames] at hplain1 hplain2 hplain4 hplain8
  simp only [bsb22Names] at hbsb221 hbsb222 hbsb224 hbsb228
  simp only [includeVks, hplain1, hplain2, hplain4, hplain8, hbsb221, hbsb222, hbsb224, hbsb228,
    Option.bind_eq_bind, Option.bind_some, Option.pure_def]

/-- Every key of the program is the one that was baked under its label. -/
structure IncludesBaked (laws : fs.Lawful) (outDir : fs.Path) (world world' : fs.World) (keys : Keys) :
    Prop where
  included : includeVks outDir (laws.content world') = some keys
  plain : ∀ size : Size, ∃ vk, BakedKey laws outDir world world' (labelOf "plain" size.nrInputs) vk ∧
    keys.plain size = vk.asBorrowed
  bsb22 : ∀ size : Size, ∃ vk, BakedKey laws outDir world world' (labelOf "bsb22" size.nrInputs) vk ∧
    keys.bsb22 size = vk.asBorrowed

theorem includesBaked
    (h : ∀ label ∈ labels, ∃ vk, BakedKey laws outDir world world' label vk) :
    ∃ keys, IncludesBaked laws outDir world world' keys := by
  choose plain hplain using fun size => h _ (label_plain size)
  choose bsb22 hbsb22 using fun size => h _ (label_bsb22 size)
  refine ⟨_, includeVks_eq (fun size => includeVk_of_baked (hplain size) (names_plain size))
    fun size => includeVk_of_baked (hbsb22 size) (names_bsb22 size), ?_, ?_⟩
  · intro size
    exact ⟨plain size, hplain size, by cases size <;> rfl⟩
  · intro size
    exact ⟨bsb22 size, hbsb22 size, by cases size <;> rfl⟩

theorem bakeVks_labels_settles (hwrites : laws.WritesApart) (hpaths : Apart fs outDir) {bound : ℕ}
    (hbound : ∀ label ∈ labels,
      ((laws.content start (pkPath fs outDir label)).getD []).length ≤ bound) :
    ∃ result, BuildOutcome laws outDir start labels result ∧
      Settles (fun fuel => bakeVks fs outDir fuel labels start) bound result := by
  obtain ⟨result, houtcome, hsettles, -⟩ := bakeVks_settles hwrites hpaths hbound labels
    (fun label h => h) labels_nodup fun label _ => ⟨rfl, rfl⟩
  exact ⟨result, houtcome, hsettles⟩

theorem BuildOutcome.baked_of_ok {result : Except (String × Groth16Error) Unit × fs.World}
    (h : BuildOutcome laws outDir start labels result) (hresult : result = (.ok (), world')) :
    ∀ label ∈ labels, ∃ vk, BakedKey laws outDir start world' label vk := by
  cases h with
  | baked hall =>
    obtain rfl := (Prod.mk.inj hresult).2
    exact hall
  | panics => cases hresult

/-- The text of the exported static that comes with the key of a label. -/
def includedText (outDir : fs.Path) (content : fs.Path → Option (List UInt8)) (label : String) :
    Option String := do
  let bytes ← content (fs.join outDir (vkFilename label))
  let source ← fromUtf8 bytes
  emittedText source (vkConstName label)

/-- The proving key that a label was set up with. -/
def fixtureTxt (digest : String → Bytes 32) (label : String) : SetupTxt :=
  fileTxt (vkConstName label) .insecureTest (digest label)

theorem includedText_of_baked {vk : Groth16VerifyingkeyOwned}
    (h : BakedKey laws outDir world world' label vk) :
    ∃ pk, laws.content world (pkPath fs outDir label) = some pk ∧
      includedText outDir (laws.content world') label =
        some (fileTxt (vkConstName label) .insecureTest (sha256 pk)).toMarker := by
  obtain ⟨source, pk, hfile, -, hpk, -, htext⟩ := h.file
  refine ⟨pk, hpk, ?_⟩
  rw [includedText, hfile]
  show (fromUtf8 (asBytes source)).bind _ = _
  rw [fromUtf8_eq_some_iff.mpr rfl, Option.bind_some]
  exact htext

theorem baked_of_run (hwrites : laws.WritesApart) (hpaths : Apart fs outDir) {fuel : ℕ}
    (hrun : bakeVks fs outDir fuel labels start = some (.ok (), world')) :
    ∀ label ∈ labels, ∃ vk, BakedKey laws outDir start world' label vk := by
  obtain ⟨bound, hbound⟩ : ∃ bound, ∀ label ∈ labels,
      ((laws.content start (pkPath fs outDir label)).getD []).length ≤ bound := by
    refine ⟨(labels.map fun label =>
      ((laws.content start (pkPath fs outDir label)).getD []).length).sum, ?_⟩
    intro label hlabel
    exact List.le_sum_of_mem (List.mem_map_of_mem hlabel)
  obtain ⟨result, houtcome, hsettles⟩ := bakeVks_labels_settles hwrites hpaths hbound
  exact houtcome.baked_of_ok (hsettles.unique fuel _ hrun).symm

theorem includesBaked_of_run (hwrites : laws.WritesApart) (hpaths : Apart fs outDir) {fuel : ℕ}
    (hrun : bakeVks fs outDir fuel labels start = some (.ok (), world')) :
    ∃ keys, IncludesBaked laws outDir start world' keys :=
  includesBaked (baked_of_run hwrites hpaths hrun)

/-- The check after a deployment: a binary that was linked from the statics of a build, in any order and
with other bytes around them, shows the proving keys of the fixtures. -/
theorem deployed_binary_shows_fixtures (hwrites : laws.WritesApart) (hpaths : Apart fs outDir)
    {fuel : ℕ} (hrun : bakeVks fs outDir fuel labels start = some (.ok (), world')) :
    ∃ (text : String → String) (digest : String → Bytes 32),
      (∀ label ∈ labels, includedText outDir (laws.content world') label = some (text label) ∧
        ∃ pk, laws.content start (pkPath fs outDir label) = some pk ∧ digest label = sha256 pk) ∧
      ∀ (junk : List UInt8) (rest : List (String × List UInt8)), NoBegin junk →
        (∀ part ∈ rest, part.1 ∈ labels ∧ NoBegin part.2) →
        findSetupTxts (junk ++ rest.flatMap fun part => asBytes (text part.1) ++ part.2) =
          .ok (rest.map fun part => fixtureTxt digest part.1) := by
  have hbaked := baked_of_run hwrites hpaths hrun
  have htexts : ∀ label ∈ labels, ∃ pk, laws.content start (pkPath fs outDir label) = some pk ∧
      includedText outDir (laws.content world') label =
        some (fileTxt (vkConstName label) .insecureTest (sha256 pk)).toMarker := by
    intro label hlabel
    obtain ⟨vk, hvk⟩ := hbaked label hlabel
    exact includedText_of_baked hvk
  choose! pk hpk htext using htexts
  refine ⟨fun label => (fixtureTxt (fun label => sha256 (pk label)) label).toMarker,
    fun label => sha256 (pk label),
    fun label hlabel => ⟨htext label hlabel, pk label, hpk label hlabel, rfl⟩, ?_⟩
  intro junk rest hjunk hrest
  have hparts : ∀ part ∈ rest.map fun part => (fixtureTxt (fun label => sha256 (pk label)) part.1, part.2),
      part.1.WellNamed ∧ NoBegin part.2 := by
    intro part hpart
    obtain ⟨part, hmem, rfl⟩ := List.mem_map.mp hpart
    obtain ⟨hlabel, hnone⟩ := hrest part hmem
    exact ⟨wellNamed_fileTxt (rustIdentifier_vkConstName hlabel), hnone⟩
  have hscan := scanFrom_interleave [] _ [] hjunk hparts
  rw [List.nil_append, List.nil_append, interleave, List.flatMap_map, List.map_map] at hscan
  exact hscan

end

/-! ## Fixtures in memory -/

section
open FileSystem

theorem apart_memory : Apart memory "out" where
  outputs label _ label' _ h := by
    have htext : "out" ++ "/" ++ ("vk_" ++ label ++ ".rs") = "out" ++ "/" ++ ("vk_" ++ label' ++ ".rs") := h
    have hchars := congrArg String.toList htext
    simp only [String.toList_append, List.append_cancel_left_eq, List.append_cancel_right_eq] at hchars
    exact String.toList_inj.mp hchars
  vk label _ label' _ h := by
    have htext : "out" ++ "/" ++ "bench-fixtures" ++ "/" ++ (label ++ "_vk.bin") =
      "out" ++ "/" ++ ("vk_" ++ label' ++ ".rs") := h
    have hchars := congrArg (fun text => text.toList[4]?) htext
    simp at hchars
  pk label _ label' _ h := by
    have htext : "out" ++ "/" ++ "bench-fixtures" ++ "/" ++ (label ++ "_pk.bin") =
      "out" ++ "/" ++ ("vk_" ++ label' ++ ".rs") := h
    have hchars := congrArg (fun text => text.toList[4]?) htext
    simp at hchars

/-- The small key of a label. -/
def labelKey (label : String) : Groth16Verifyingkey :=
  let table := [("plain_1", smallKeys.vkPlain1), ("plain_2", smallKeys.vkPlain2),
    ("plain_4", smallKeys.vkPlain4), ("plain_8", smallKeys.vkPlain8), ("bsb22_1", smallKeys.vkBsb221),
    ("bsb22_2", smallKeys.vkBsb222), ("bsb22_4", smallKeys.vkBsb224), ("bsb22_8", smallKeys.vkBsb228)]
  (table.lookup label).getD smallKeys.vkPlain1

theorem labelKey_plain (size : Size) :
    labelKey (labelOf "plain" size.nrInputs) = smallKeys.plain size := by
  cases size <;> rfl

theorem labelKey_bsb22 (size : Size) :
    labelKey (labelOf "bsb22" size.nrInputs) = smallKeys.bsb22 size := by
  cases size <;> rfl

theorem size_of_label {label : String} (h : label ∈ labels) :
    ∃ size : Size, label = labelOf "plain" size.nrInputs ∨ label = labelOf "bsb22" size.nrInputs := by
  have hsize : ∀ n ∈ publicInputCounts, ∃ size : Size, n = size.nrInputs :=
    List.forall_mem_cons.mpr ⟨⟨.one, rfl⟩, List.forall_mem_cons.mpr ⟨⟨.two, rfl⟩,
      List.forall_mem_cons.mpr ⟨⟨.four, rfl⟩, List.forall_mem_singleton.mpr ⟨.eight, rfl⟩⟩⟩⟩
  obtain ⟨mode, hmode, hlabel⟩ := List.mem_flatMap.mp h
  obtain ⟨n, hn, rfl⟩ := List.mem_map.mp hlabel
  obtain ⟨size, rfl⟩ := hsize n hn
  obtain rfl | hmode := List.mem_cons.mp hmode
  · exact ⟨size, Or.inl rfl⟩
  · rw [List.mem_singleton.mp hmode]
    exact ⟨size, Or.inr rfl⟩

def ownedVk (vk : Groth16Verifyingkey) : Groth16VerifyingkeyOwned :=
  ⟨vk.nrPubinputs, vk.vkAlphaG1, vk.vkBetaG2, vk.vkGammaG2, vk.vkDeltaG2, vk.vkIc, vk.vkCommitment⟩

theorem supportedRows_labelKey {label : String} (h : label ∈ labels) :
    SupportedRows (ownedVk (labelKey label)) := by
  obtain ⟨size, rfl | rfl⟩ := size_of_label h
  · rw [labelKey_plain]
    cases size <;> simp [SupportedRows, ownedVk, smallKeys, Keys.plain, smallVk, smallPoints]
  · rw [labelKey_bsb22]
    cases size <;> simp [SupportedRows, ownedVk, smallKeys, Keys.bsb22, smallVk, smallPoints]

/-- The file of a label's key. -/
def vkFile (label : String) : List UInt8 :=
  writeRawTo (Bytes.zero 64) (Bytes.zero 64) (ownedVk (labelKey label))

theorem parse_vkFile {label : String} (h : label ∈ labels) :
    parseGnarkVkBytes (vkFile label) = .ok (ownedVk (labelKey label)) :=
  parse_writeRawTo (Bytes.zero 64) (Bytes.zero 64) (supportedRows_labelKey h)

/-- The file of a label with the given ending. -/
def fixturePath (ending label : String) : String :=
  memory.join (fixtureDir memory "out") (label ++ ending)

/-- The fixtures of the small keys; the proving key of a label is its name. -/
def fixtureFiles : memory.World := fun (path : String) =>
  ((labels.find? fun label => fixturePath "_vk.bin" label == path).map vkFile).or
    ((labels.find? fun label => fixturePath "_pk.bin" label == path).map asBytes)

theorem find_path {path : String → String} (hpath : Function.Injective path) {label : String}
    (h : label ∈ labels) : (labels.find? fun label' => path label' == path label) = some label := by
  have hfound : (labels.find? fun label' => path label' == path label).isSome :=
    List.find?_isSome.mpr ⟨label, h, beq_self_eq_true _⟩
  obtain ⟨label', hlabel'⟩ := Option.isSome_iff_exists.mp hfound
  have hsame : path label' == path label := by simpa using List.find?_some hlabel'
  rw [hlabel', hpath (eq_of_beq hsame)]

theorem fixturePath_injective (ending : String) : Function.Injective (fixturePath ending) := by
  intro label label' h
  have htext : "out" ++ "/" ++ "bench-fixtures" ++ "/" ++ (label ++ ending) =
    "out" ++ "/" ++ "bench-fixtures" ++ "/" ++ (label' ++ ending) := h
  have hchars := congrArg String.toList htext
  simp only [String.toList_append, List.append_cancel_left_eq, List.append_cancel_right_eq] at hchars
  exact String.toList_inj.mp hchars

theorem fixturePath_vk_ne_pk (label label' : String) :
    fixturePath "_vk.bin" label ≠ fixturePath "_pk.bin" label' := by
  intro h
  have htext : "out" ++ "/" ++ "bench-fixtures" ++ "/" ++ (label ++ "_vk.bin") =
    "out" ++ "/" ++ "bench-fixtures" ++ "/" ++ (label' ++ "_pk.bin") := h
  have hchars := congrArg String.toList htext
  simp only [String.toList_append, List.append_cancel_left_eq] at hchars
  exact absurd (List.append_inj_right' hchars rfl) (by decide)

theorem content_vkPath {label : String} (h : label ∈ labels) :
    memoryLaws.content fixtureFiles (vkPath memory "out" label) = some (vkFile label) := by
  show fixtureFiles (fixturePath "_vk.bin" label) = some (vkFile label)
  rw [fixtureFiles, find_path (fixturePath_injective "_vk.bin") h, Option.map_some, Option.some_or]

theorem content_pkPath {label : String} (h : label ∈ labels) :
    memoryLaws.content fixtureFiles (pkPath memory "out" label) = some (asBytes label) := by
  have hnone : (labels.find? fun label' => fixturePath "_vk.bin" label' ==
      fixturePath "_pk.bin" label) = none := by
    rw [List.find?_eq_none]
    intro label' _ hsame
    exact fixturePath_vk_ne_pk label' label (eq_of_beq hsame)
  show fixtureFiles (fixturePath "_pk.bin" label) = some (asBytes label)
  rw [fixtureFiles, hnone, find_path (fixturePath_injective "_pk.bin") h, Option.map_none,
    Option.none_or, Option.map_some]

/-- Nothing fails in memory for an unguarded key. -/
theorem memory_outcome {world : memory.World} {inputPath pk : memory.Path}
    {outputFilename constName : String} {bytes content : List UInt8} {vk : Groth16VerifyingkeyOwned}
    {result : Except Groth16Error Unit × memory.World}
    (hvk : memoryLaws.content world inputPath = some bytes) (hparse : parseGnarkVkBytes bytes = .ok vk)
    (hpk : memoryLaws.content world pk = some content)
    (h : Bsb22FileOutcome memoryLaws world "out" outputFilename inputPath constName .insecureTest
      (.file pk) result) : result.1 = .ok () := by
  have hbytes : ∀ {other : List UInt8}, memoryLaws.content world inputPath = some other → other = bytes :=
    fun hother => Option.some.inj (hother.symm.trans hvk)
  cases h with
  | saved _ _ _ _ _ _ hsaved =>
    cases hsaved with
    | written => rfl
    | notCreated hcreate => cases hcreate
    | notWritten _ hwrite => cases hwrite
  | notRead hread => cases hread.symm.trans (memory_readFile hvk)
  | malformed hfile hrefused =>
    obtain rfl := hbytes hfile
    cases hrefused.symm.trans hparse
  | notHashed hkey =>
    cases hkey with
    | file hdigest =>
      cases hdigest with
      | notOpened hopen => cases hopen.symm.trans (memory_openFile hpk)
      | notRead _ _ hread => cases hread
  | forgeable _ _ hsetup => cases hsetup

theorem fixtureFiles_bound (label : String) (h : label ∈ labels) :
    ((memoryLaws.content fixtureFiles (pkPath memory "out" label)).getD []).length ≤ 7 := by
  have hlen : labels.all fun label => (asBytes label).length ≤ 7 := by decide
  rw [content_pkPath h]
  exact of_decide_eq_true (List.all_eq_true.mp hlen label h)

theorem fixtureFiles_ok {result : Except (String × Groth16Error) Unit × memory.World}
    (h : BuildOutcome memoryLaws "out" fixtureFiles labels result) :
    ∃ world', result = (.ok (), world') := by
  cases h with
  | baked => exact ⟨_, rfl⟩
  | @panics before after label err world world' htodo _ hfixtures hfails =>
    have hlabel : label ∈ labels := htodo ▸ List.mem_append_right before List.mem_cons_self
    have hvk := hfixtures.vk.trans (content_vkPath hlabel)
    have hpk := hfixtures.pk.trans (content_pkPath hlabel)
    cases memory_outcome hvk (parse_vkFile hlabel) hpk hfails

/-- The statics of that build in the opposite order, a zero behind each of them. -/
theorem deployed_binary_shows_fixtures_sample :
    ∃ (world' : memory.World) (text : String → String),
      bakeVks memory "out" 8 labels fixtureFiles = some (.ok (), world') ∧
      (∀ label ∈ labels, includedText "out" (memoryLaws.content world') label = some (text label)) ∧
      findSetupTxts ((labels.reverse.map fun label => (label, [(0 : UInt8)])).flatMap fun part =>
          asBytes (text part.1) ++ part.2) =
        .ok (labels.reverse.map (fixtureTxt fun label => sha256 (asBytes label))) := by
  obtain ⟨result, houtcome, hsettles⟩ :=
    bakeVks_labels_settles memory_writesApart apart_memory fixtureFiles_bound
  obtain ⟨world', rfl⟩ := fixtureFiles_ok houtcome
  have hrun := hsettles.enough 8 (by decide)
  obtain ⟨text, digest, htexts, hfinds⟩ :=
    deployed_binary_shows_fixtures memory_writesApart apart_memory hrun
  have hempty : NoBegin [] := by
    unfold NoBegin
    decide +kernel
  have hzero : NoBegin [0] := by
    unfold NoBegin
    decide +kernel
  have hdigest : ∀ label ∈ labels, digest label = sha256 (asBytes label) := by
    intro label hlabel
    obtain ⟨-, pk, hpk, hdigest⟩ := htexts label hlabel
    rw [hdigest, Option.some.inj (hpk.symm.trans (content_pkPath hlabel))]
  have hparts : ∀ part ∈ labels.reverse.map fun label => (label, [(0 : UInt8)]),
      part.1 ∈ labels ∧ NoBegin part.2 := by
    intro part hpart
    obtain ⟨label, hlabel, rfl⟩ := List.mem_map.mp hpart
    exact ⟨List.mem_reverse.mp hlabel, hzero⟩
  refine ⟨world', text, hrun, fun label hlabel => (htexts label hlabel).1, ?_⟩
  have hsame : labels.reverse.map (fixtureTxt digest) =
      labels.reverse.map (fixtureTxt fun label => sha256 (asBytes label)) := by
    apply List.map_congr_left
    intro label hlabel
    rw [fixtureTxt, fixtureTxt, hdigest label (List.mem_reverse.mp hlabel)]
  have hfound := hfinds [] _ hempty hparts
  rw [List.nil_append, List.map_map] at hfound
  exact hfound.trans (congrArg Except.ok hsame)

end

end Program

end Groth16Solana
