import Groth16Solana.Vk.Binary
import Groth16Solana.Vk.CircomTokens
import Groth16Solana.Vk.LabelText

/-! # The setup label of a generated file

The label stands in a const, in the guard, in the warning and in the marker, next to the digest. All of
them say what the caller of the generator said, and the scan of a binary reads it back. -/

set_option autoImplicit false

namespace Groth16Solana
open Foundations TokenTree

/-! ## Reading the label -/

def readBool : List TokenTree → Option Bool
  | [.leaf (.word w)] =>
    if w = "true".toList then some true else if w = "false".toList then some false else none
  | _ => none

def readStr : List TokenTree → Option String
  | [.leaf (.str chars)] => some (String.ofList chars)
  | _ => none

def emittedItem {α : Type} (source keyword : String) (name : List Char)
    (read : List TokenTree → Option α) :
    Option α := do
  let file ← sourceTrees source
  let value ← itemValue file keyword.toList name
  read value

def emittedFlag (source constName : String) : Option Bool :=
  emittedItem source "const" (flagName constName) readBool

def emittedDigest (source constName : String) : Option (Bytes 32) :=
  emittedItem source "const" (digestName constName) (readBytes 32)

def emittedText (source constName : String) : Option String :=
  emittedItem source "static" (textName constName) readStr

/-- `#[cfg(not(feature = "insecure-test-setup"))] compile_error!(..)`. -/
def isGuard : List TokenTree → Bool
  | [.leaf (.punct '#'),
    .group '[' [.leaf (.word cfg), .group '(' [.leaf (.word not), .group '(' [.leaf (.word feature),
      .leaf (.punct '='), .leaf (.str value)]]], .leaf (.word name), .leaf (.punct '!'), .group '(' _] =>
    cfg == "cfg".toList && not == "not".toList && feature == "feature".toList &&
      value == "insecure-test-setup".toList && name == "compile_error".toList
  | _ => false

def emitsGuard (source : String) : Bool :=
  match sourceTrees source with
  | some file => (pieces ';' file).any isGuard
  | none => false

/-- What a file says of its setup, in every place. -/
structure LabelAgrees (source constName : String) (setup : SetupKind)
    (provingKeySha256 : Bytes 32) : Prop where
  flag : emittedFlag source constName = some (decide (setup = .insecureTest))
  guard : emitsGuard source = decide (setup = .insecureTest)
  guardMacro : guardMacro <:+: source.toList ↔ setup = .insecureTest
  warning : warningStart <:+: source.toList ↔ setup = .insecureTest
  arrays : ∃ gamma delta, emittedArray source constName "vk_gamma_g2" = some gamma ∧
    emittedArray source constName "vk_delta_g2" = some delta ∧ (setup = .production → gamma ≠ delta)
  digest : emittedDigest source constName = some provingKeySha256
  marker : ∃ text, emittedText source constName = some text ∧
    ∀ before behind, NoBegin before → NoBegin behind →
      findSetupTxts (before ++ asBytes text ++ behind) = .ok
        [{ name := constName, insecureTestSetup := decide (setup = .insecureTest), provingKeySha256 }]

/-- The files of the two generators. -/
inductive GeneratedFile : String → String → SetupKind → Bytes 32 → Prop
  | gnark {vk : Groth16VerifyingkeyOwned} {constName source : String} {setup : SetupKind}
      {provingKeySha256 : Bytes 32} (hname : RustIdentifier constName)
      (hsource : bsb22VkToRustConst vk constName setup provingKeySha256 = .ok source) :
    GeneratedFile source constName setup provingKeySha256
  | circom {json : JsonPackages} {jsonContent source : String} {setup : SetupKind}
      {provingKeySha256 : Bytes 32}
      (hsource : parseVkJsonToRustString json jsonContent setup provingKeySha256 = .ok source) :
    GeneratedFile source "VERIFYINGKEY" setup provingKeySha256

/-! ## The metadata items -/

section Metadata
variable (constName : String) (symbol : List Char) (setup : SetupKind) (provingKeySha256 : Bytes 32)

def fileTxt : SetupTxt :=
  { name := constName, insecureTestSetup := decide (setup = .insecureTest), provingKeySha256 }

theorem itemValue_digest :
    itemValue (itemTrees (metadataItems constName symbol setup provingKeySha256)) "const".toList
      (digestName constName) = some [.group '[' (u8Trees provingKeySha256.toList)] := by
  rw [itemValue_itemTrees (semicolonFree_metadataItems _ _ _ _), metadataItems, List.cons_append,
    List.filterMap_cons_some (readItem_digestItem _ _), List.find?_cons_of_pos (by simp), Option.map_some]

theorem itemValue_flag :
    itemValue (itemTrees (metadataItems constName symbol setup provingKeySha256)) "const".toList
      (flagName constName) = some [.leaf (kw (boolText (decide (setup = .insecureTest))))] := by
  rw [itemValue_itemTrees (semicolonFree_metadataItems _ _ _ _), metadataItems, List.cons_append,
    List.filterMap_cons_some (readItem_digestItem _ _), List.cons_append,
    List.filterMap_cons_some (readItem_flagItem _ _),
    List.find?_cons_of_neg (by simp [digestName, flagName]),
    List.find?_cons_of_pos (by simp), Option.map_some]

theorem itemValue_text :
    itemValue (itemTrees (metadataItems constName symbol setup provingKeySha256)) "static".toList
      (textName constName) =
        some [.leaf (.str (fileTxt constName setup provingKeySha256).toMarker.toList)] := by
  rw [itemValue_itemTrees (semicolonFree_metadataItems _ _ _ _), metadataItems, List.cons_append,
    List.filterMap_cons_some (readItem_digestItem _ _), List.cons_append,
    List.filterMap_cons_some (readItem_flagItem _ _), List.cons_append,
    List.filterMap_cons_some (readItem_textItem _ _ _), List.find?_cons_of_neg (by simp),
    List.find?_cons_of_neg (by simp), List.find?_cons_of_pos (by simp), Option.map_some]
  rfl

theorem any_isGuard_metadataItems :
    (metadataItems constName symbol setup provingKeySha256).any isGuard =
      decide (setup = .insecureTest) := by
  cases setup with
  | production => rfl
  | insecureTest =>
    have hguard : isGuard (guardItem constName) = true := by simp [isGuard, guardItem, kw]
    simp [metadataItems, hguard]

end Metadata

/-! ## Files -/

/-- What the metadata items bind. -/
def metadataNames (constName : String) : List (List Char × List Char) :=
  [("const".toList, digestName constName), ("const".toList, flagName constName),
    ("static".toList, textName constName)]

/-- Items that bind other names and hold no guard. -/
structure OtherItems (constName : String) (items : List (List TokenTree)) : Prop where
  free : SemicolonFree items
  names : ∀ item ∈ items, ∀ bound, readItem item = some bound →
    (bound.keyword, bound.name) ∉ metadataNames constName
  guards : ∀ item ∈ items, isGuard item = false

theorem otherItems_keyItems (constName : String) (vk : Groth16VerifyingkeyOwned) :
    OtherItems constName (keyItems constName vk) := by
  refine ⟨semicolonFree_keyItems constName vk, ?_, ?_⟩
  · simp only [keyItems, List.forall_mem_cons, readItem_useTrees, readItem_staticTrees,
      readItem_constTrees, Option.some.injEq, forall_eq']
    simp [metadataNames, digestName, flagName, textName, rowsName]
  · cases hkey : vk.vkCommitment <;>
      simp [keyItems, hkey, useTrees, staticTrees, constTrees, isGuard, kw]

theorem otherItems_circom (key : CircomKey) :
    OtherItems "VERIFYINGKEY" [useTrees none, circomConstItem key] := by
  refine ⟨?_, ?_, ?_⟩
  · simp [SemicolonFree, useTrees, circomConstItem, rustfmtSkipTrees, isPunct, kw]
  · simp only [List.forall_mem_cons, readItem_useTrees, readItem_circomConstItem, Option.some.injEq,
      forall_eq']
    simp [metadataNames, digestName, flagName, textName]
  · simp [useTrees, circomConstItem, rustfmtSkipTrees, isGuard, kw]

section File
variable {source constName : String} {symbol : List Char} {setup : SetupKind}
  {provingKeySha256 : Bytes 32} {items : List (List TokenTree)}

theorem OtherItems.emittedItem {α : Type} {keyword : String} {name : List Char}
    {value : List TokenTree} (h : OtherItems constName items)
    (hholds : HoldsItems source.toList
      (items ++ metadataItems constName symbol setup provingKeySha256))
    (hname : (keyword.toList, name) ∈ metadataNames constName)
    (hvalue : itemValue (itemTrees (metadataItems constName symbol setup provingKeySha256))
      keyword.toList name = some value) (read : List TokenTree → Option α) :
    emittedItem source keyword name read = read value := by
  have hfree := semicolonFree_metadataItems constName symbol setup provingKeySha256
  have hskip := itemValue_append h.free hfree fun item hitem bound hread heq =>
    h.names item hitem bound hread (heq ▸ hname)
  unfold Groth16Solana.emittedItem
  simp only [sourceTrees_of_holdsItems hholds, hskip, hvalue, Option.bind_eq_bind, Option.bind_some]

theorem OtherItems.emitsGuard (h : OtherItems constName items)
    (hholds : HoldsItems source.toList
      (items ++ metadataItems constName symbol setup provingKeySha256)) :
    emitsGuard source = decide (setup = .insecureTest) := by
  have hfree := List.forall_mem_append.mpr
    ⟨h.free, semicolonFree_metadataItems constName symbol setup provingKeySha256⟩
  have hnone : items.any isGuard = false :=
    List.any_eq_false.mpr fun item hitem => by simp [h.guards item hitem]
  rw [Groth16Solana.emitsGuard, sourceTrees_of_holdsItems hholds]
  simp only [pieces_itemTrees hfree, List.any_append, hnone, Bool.false_or, any_isGuard_metadataItems]

theorem wellNamed_fileTxt (hname : RustIdentifier constName) :
    (fileTxt constName setup provingKeySha256).WellNamed := by
  refine ⟨notMem_of_isWord hname.1 (by decide) (by decide), ?_⟩
  intro hsuffix
  have hmem : UInt8.ofNat '='.toNat ∈ asBytes constName := hsuffix.subset (by decide)
  exact notMem_of_isWord hname.1 (by decide) (by decide) ((ascii_mem_asBytes (by decide)).mp hmem)

theorem findSetupTxts_around {txt : SetupTxt} {before behind : List UInt8} (hname : txt.WellNamed)
    (hbefore : NoBegin before) (hbehind : NoBegin behind) :
    findSetupTxts (before ++ asBytes txt.toMarker ++ behind) = .ok [txt] := by
  have hscan := scanFrom_interleave [] [(txt, behind)] [] hbefore
    (List.forall_mem_singleton.mpr ⟨hname, hbehind⟩)
  have hsplit : interleave before [(txt, behind)] = before ++ asBytes txt.toMarker ++ behind := by
    rw [interleave, List.flatMap_singleton, List.append_assoc]
  rw [List.nil_append, hsplit] at hscan
  exact hscan

/-- The items and the texts of a file make its label. -/
theorem OtherItems.labelAgrees (h : OtherItems constName items) (hname : RustIdentifier constName)
    (hholds : HoldsItems source.toList
      (items ++ metadataItems constName symbol setup provingKeySha256))
    (hproduction : setup = .production → Unlabelled source.toList)
    (hinsecure : setup = .insecureTest →
      guardMacro <:+: source.toList ∧ warningStart <:+: source.toList)
    (harrays : ∃ gamma delta, emittedArray source constName "vk_gamma_g2" = some gamma ∧
      emittedArray source constName "vk_delta_g2" = some delta ∧
        (setup = .production → gamma ≠ delta)) :
    LabelAgrees source constName setup provingKeySha256 where
  flag := by
    rw [emittedFlag, h.emittedItem hholds (by simp [metadataNames]) (itemValue_flag _ _ _ _)]
    cases setup <;> rfl
  guard := h.emitsGuard hholds
  guardMacro := by
    cases setup with
    | production => simp [(hproduction rfl).not_guardMacro]
    | insecureTest => simp [(hinsecure rfl).1]
  warning := by
    cases setup with
    | production => simp [(hproduction rfl).not_warning]
    | insecureTest => simp [(hinsecure rfl).2]
  arrays := harrays
  digest := by
    rw [emittedDigest, h.emittedItem hholds (by simp [metadataNames]) (itemValue_digest _ _ _ _)]
    exact readBytes_u8Trees provingKeySha256
  marker := by
    have htext : emittedText source constName =
        some (fileTxt constName setup provingKeySha256).toMarker := by
      rw [emittedText, h.emittedItem hholds (by simp [metadataNames]) (itemValue_text _ _ _ _), readStr,
        String.ofList_toList]
    exact ⟨_, htext, fun before behind hbefore hbehind =>
      findSetupTxts_around (wellNamed_fileTxt hname) hbefore hbehind⟩

end File

/-! ## The two generators -/

theorem emittedArray_vkFile {source constName : String} {vk : Groth16VerifyingkeyOwned}
    {metadata : List (List TokenTree)}
    (hholds : HoldsItems source.toList (keyItems constName vk ++ metadata)) :
    emittedArray source constName "vk_gamma_g2" = some vk.vkGammaG2.toList ∧
      emittedArray source constName "vk_delta_g2" = some vk.vkDeltaG2.toList := by
  have hfields : literalFields (itemTrees (keyItems constName vk ++ metadata)) constName =
      some (keyFields constName vk) := by
    unfold literalFields
    simp only [itemTrees_keyItems, itemValue_const, Option.bind_eq_bind, Option.bind_some]
    exact readRecord_keyFields constName vk
  have hgamma : readField (keyFields constName vk) "vk_gamma_g2" readByteArray =
      some vk.vkGammaG2.toList :=
    readByteArray_arrayTree vk.vkGammaG2.toList
  have hdelta : readField (keyFields constName vk) "vk_delta_g2" readByteArray =
      some vk.vkDeltaG2.toList :=
    readByteArray_arrayTree vk.vkDeltaG2.toList
  unfold emittedArray
  simp only [sourceTrees_of_holdsItems hholds, hfields, hgamma, hdelta, Option.bind_eq_bind,
    Option.bind_some, and_self]

theorem emittedArray_circomFile {source : String} {key : CircomKey} {symbol : List Char}
    {setup : SetupKind} {provingKeySha256 : Bytes 32}
    (hholds : HoldsItems source.toList (circomItems key symbol setup provingKeySha256)) :
    emittedArray source "VERIFYINGKEY" "vk_gamma_g2" = some key.gammaBytes ∧
      emittedArray source "VERIFYINGKEY" "vk_delta_g2" = some key.deltaBytes := by
  unfold emittedArray
  simp only [sourceTrees_of_holdsItems hholds, literalFields_circomItems, readField_gamma,
    readField_delta, Option.bind_eq_bind, Option.bind_some, and_self]

theorem labelAgrees_gnark {vk : Groth16VerifyingkeyOwned} {constName source : String}
    {setup : SetupKind} {provingKeySha256 : Bytes 32} (hname : RustIdentifier constName)
    (hsource : bsb22VkToRustConst vk constName setup provingKeySha256 = .ok source) :
    LabelAgrees source constName setup provingKeySha256 := by
  unfold bsb22VkToRustConst at hsource
  split at hsource
  next => cases hsource
  next hforge =>
    obtain rfl := Except.ok.inj hsource
    obtain ⟨symbol, hholds⟩ := holdsItems_vkFile vk setup provingKeySha256 hname
    obtain ⟨hgamma, hdelta⟩ := emittedArray_vkFile hholds
    refine (otherItems_keyItems constName vk).labelAgrees hname hholds ?_ ?_
      ⟨_, _, hgamma, hdelta, ?_⟩
    · rintro rfl
      rw [String.toList_append]
      exact (unlabelled_vkSource vk hname).append
        (unlabelled_metadataRustSource _ provingKeySha256 hname)
    · rintro rfl
      rw [String.toList_append]
      have hguard := guardMacro_metadataRustSource (vkSource vk constName .insecureTest) constName
        provingKeySha256
      exact ⟨hguard.trans (List.suffix_append _ _).isInfix,
        (warning_vkSource vk constName).trans (List.prefix_append _ _).isInfix⟩
    · intro hproduction heq
      exact hforge ⟨hproduction, decide_eq_true (Vector.toList_inj.mp heq)⟩

theorem labelAgrees_circom {json : JsonPackages} {jsonContent source : String} {setup : SetupKind}
    {provingKeySha256 : Bytes 32}
    (hsource : parseVkJsonToRustString json jsonContent setup provingKeySha256 = .ok source) :
    LabelAgrees source "VERIFYINGKEY" setup provingKeySha256 := by
  obtain ⟨rawVk, hjson⟩ := fromStr_of_parse hsource
  obtain ⟨nrPubinputs, head, ic, hgenerated, rfl⟩ := generated_of_parse provingKeySha256 hjson hsource
  have hname := rustIdentifier_verifyingkey
  obtain ⟨symbol, hholds⟩ := holdsItems_circomFile (circomKey nrPubinputs head ic) setup provingKeySha256
  obtain ⟨hgamma, hdelta⟩ := emittedArray_circomFile hholds
  refine (otherItems_circom (circomKey nrPubinputs head ic)).labelAgrees hname hholds ?_ ?_
    ⟨_, _, hgamma, hdelta, ?_⟩
  · rintro rfl
    rw [circomFile, String.toList_append]
    exact (unlabelled_circomSource _).append (unlabelled_metadataRustSource _ provingKeySha256 hname)
  · rintro rfl
    rw [circomFile, String.toList_append]
    exact ⟨(guardMacro_metadataRustSource _ _ provingKeySha256).trans (List.suffix_append _ _).isInfix,
      (warning_circomSource _).trans (List.prefix_append _ _).isInfix⟩
  · intro hproduction heq
    exact hgenerated.not_refused ⟨hproduction, (g2Bytes_eq_iff _ _).mp heq⟩

/-- The label survives from the generator to the binary. -/
theorem setup_label_survives {source constName : String} {setup : SetupKind}
    {provingKeySha256 : Bytes 32} (h : GeneratedFile source constName setup provingKeySha256) :
    LabelAgrees source constName setup provingKeySha256 := by
  cases h with
  | gnark hname hsource => exact labelAgrees_gnark hname hsource
  | circom hsource => exact labelAgrees_circom hsource

theorem setup_label_survives_sample :
    ∃ source, bsb22VkToRustConst sampleVk "VERIFYINGKEY" .production (Bytes.zero 32) = .ok source ∧
      LabelAgrees source "VERIFYINGKEY" .production (Bytes.zero 32) := by
  have hdistinct : ¬
      (SetupKind.production = .production ∧
        deltaEqualsGamma sampleVk.vkGammaG2 sampleVk.vkDeltaG2) := by
    decide +kernel
  have hsource : bsb22VkToRustConst sampleVk "VERIFYINGKEY" .production (Bytes.zero 32) = .ok _ :=
    if_neg hdistinct
  exact ⟨_, hsource, setup_label_survives (.gnark rustIdentifier_verifyingkey hsource)⟩

end Groth16Solana
