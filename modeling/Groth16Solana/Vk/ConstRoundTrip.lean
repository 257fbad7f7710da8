import Groth16Solana.Vk.ConstRead
import Groth16Solana.Vk.GnarkGrammar
import Groth16Solana.Vk.MetadataTokens

/-! # The const is the parsed key -/

set_option autoImplicit false

namespace Groth16Solana
open Foundations TokenTree

/-! ## The trees of a generated file -/

def arrayTree (bytes : List UInt8) : TokenTree := .group '[' (u8Trees bytes)

theorem groups_arrayTokens (bytes : List UInt8) :
    Groups (arrayTokens bytes) [arrayTree bytes, .leaf (.punct ',')] := by
  have hgroup := Groups.group (rfl : closer '[' = some ']') (groups_u8Tokens bytes) Groups.comma
  unfold arrayTokens arrayTree
  simpa using hgroup

def useTrees : Option CommitmentVerifyingKey → List TokenTree
  | some _ =>
    [.leaf (kw "use"), .leaf (kw "groth16_solana"), .leaf (.punct ':'), .leaf (.punct ':'),
      .leaf (kw "groth16"), .leaf (.punct ':'), .leaf (.punct ':'), .group '{'
        [.leaf (kw "CommitmentVerifyingKey"), .leaf (.punct ','), .leaf (kw "Groth16Verifyingkey")]]
  | none =>
    [.leaf (kw "use"), .leaf (kw "groth16_solana"), .leaf (.punct ':'), .leaf (.punct ':'),
      .leaf (kw "groth16"), .leaf (.punct ':'), .leaf (.punct ':'), .leaf (kw "Groth16Verifyingkey")]

theorem groups_useTokens (vkCommitment : Option CommitmentVerifyingKey) :
    Groups (useTokens vkCommitment) (useTrees vkCommitment ++ [.leaf (.punct ';')]) := by
  cases vkCommitment with
  | none => exact fun _ _ => rfl
  | some ck => exact fun _ _ => rfl

def arrayTrees (rows : List (List UInt8)) : List TokenTree :=
  rows.flatMap fun row => [arrayTree row] ++ [.leaf (.punct ',')]

theorem groups_arrays (rows : List (List UInt8)) :
    Groups (rows.flatMap arrayTokens) (arrayTrees rows) := by
  induction rows with
  | nil => exact Groups.nil
  | cons row rows ih =>
    rw [List.flatMap_cons, arrayTrees, List.flatMap_cons]
    exact (groups_arrayTokens row).append ih

def rowTrees (rows : List (Bytes 64)) : List TokenTree :=
  rows.flatMap fun row => [arrayTree row.toList] ++ [.leaf (.punct ',')]

theorem groups_rows (rows : List (Bytes 64)) :
    Groups (rows.flatMap fun row => arrayTokens row.toList) (rowTrees rows) := by
  have hrows := groups_arrays (rows.map Vector.toList)
  rwa [arrayTrees, List.flatMap_map, List.flatMap_map] at hrows

def staticTrees (constName : String) (rows : List (Bytes 64)) : List TokenTree :=
  [.leaf (kw "static"), .leaf (.word (rowsName constName)), .leaf (.punct ':'), .leaf (.punct '&'),
    .group '[' [.group '[' [.leaf (kw "u8"), .leaf (.punct ';'), .leaf (kw "64")]],
    .leaf (.punct '='), .leaf (.punct '&'), .group '[' (rowTrees rows)]

theorem groups_staticTokens (constName : String) (rows : List (Bytes 64)) :
    Groups (staticTokens constName rows) (staticTrees constName rows ++ [.leaf (.punct ';')]) := by
  have hitem : Groups
      [kw "static", .word (rowsName constName), .punct ':', .punct '&', .punct '[', .punct '[',
        kw "u8", .punct ';', kw "64", .punct ']', .punct ']', .punct '=', .punct '&']
      [.leaf (kw "static"), .leaf (.word (rowsName constName)), .leaf (.punct ':'),
        .leaf (.punct '&'),
        .group '[' [.group '[' [.leaf (kw "u8"), .leaf (.punct ';'), .leaf (kw "64")]],
        .leaf (.punct '='), .leaf (.punct '&')] :=
    fun _ _ => rfl
  have hrows := groups_close (rfl : closer '[' = some ']') (groups_rows rows)
  have hparts := hitem.append hrows
  unfold staticTokens staticTrees
  simpa using hparts

/-! ## The fields of the struct literal -/

def commitmentFields (ck : CommitmentVerifyingKey) : List (List Char × List TokenTree) :=
  [("g2".toList, [arrayTree ck.g2.toList]),
    ("g_sigma_neg_g2".toList, [arrayTree ck.gSigmaNegG2.toList])]

def commitmentValue : Option CommitmentVerifyingKey → List TokenTree
  | some ck => [.leaf (kw "Some"),
      .group '(' [.leaf (kw "CommitmentVerifyingKey"), .group '{' (recordTrees (commitmentFields ck))]]
  | none => [.leaf (kw "None")]

def keyFields (constName : String) (vk : Groth16VerifyingkeyOwned) :
    List (List Char × List TokenTree) :=
  [("nr_pubinputs".toList, [.leaf (.word (Nat.toDigits 10 vk.nrPubinputs))]),
    ("vk_alpha_g1".toList, [arrayTree vk.vkAlphaG1.toList]),
    ("vk_beta_g2".toList, [arrayTree vk.vkBetaG2.toList]),
    ("vk_gamma_g2".toList, [arrayTree vk.vkGammaG2.toList]),
    ("vk_delta_g2".toList, [arrayTree vk.vkDeltaG2.toList]),
    ("vk_ic".toList, [.leaf (.word (rowsName constName))]),
    ("vk_commitment".toList, commitmentValue vk.vkCommitment)]

theorem groups_fieldTokens (field : String) (bytes : List UInt8) :
    Groups (fieldTokens field bytes) (recordTrees [(field.toList, [arrayTree bytes])]) :=
  ((groups_arrayTokens bytes).punct (by decide)).word _

theorem groups_commitmentTokens (key : Option CommitmentVerifyingKey) :
    Groups (commitmentTokens key) (recordTrees [("vk_commitment".toList, commitmentValue key)]) := by
  cases key with
  | none => exact fun _ _ => rfl
  | some ck =>
    have hfields := (groups_fieldTokens "g2" ck.g2.toList).append
      (groups_fieldTokens "g_sigma_neg_g2" ck.gSigmaNegG2.toList)
    have hbraces := Groups.group (rfl : closer '{' = some '}') hfields Groups.nil
    have hrecord := hbraces.word "CommitmentVerifyingKey".toList
    have hparens := Groups.group (rfl : closer '(' = some ')') hrecord Groups.comma
    have hparts := (hparens.word "Some".toList).colon.word "vk_commitment".toList
    unfold commitmentTokens
    simpa [kw, recordTrees, commitmentValue, commitmentFields] using hparts

def constTrees (constName : String) (vk : Groth16VerifyingkeyOwned) : List TokenTree :=
  [.leaf (kw "pub"), .leaf (kw "const"), .leaf (.word constName.toList), .leaf (.punct ':'),
    .leaf (kw "Groth16Verifyingkey"), .leaf (.punct '='), .leaf (kw "Groth16Verifyingkey"),
    .group '{' (recordTrees (keyFields constName vk))]

theorem groups_constTokens (constName : String) (vk : Groth16VerifyingkeyOwned) :
    Groups (constTokens constName vk) (constTrees constName vk ++ [.leaf (.punct ';')]) := by
  have hhead : Groups
      [kw "pub", kw "const", .word constName.toList, .punct ':', kw "Groth16Verifyingkey",
        .punct '=', kw "Groth16Verifyingkey"]
      [.leaf (kw "pub"), .leaf (kw "const"), .leaf (.word constName.toList), .leaf (.punct ':'),
        .leaf (kw "Groth16Verifyingkey"), .leaf (.punct '='), .leaf (kw "Groth16Verifyingkey")] :=
    fun _ _ => rfl
  have hcount : Groups
      [kw "nr_pubinputs", .punct ':', .word (Nat.toDigits 10 vk.nrPubinputs), .punct ',']
      (recordTrees [("nr_pubinputs".toList, [.leaf (.word (Nat.toDigits 10 vk.nrPubinputs))])]) :=
    fun _ _ => rfl
  have hrows : Groups [kw "vk_ic", .punct ':', .word (rowsName constName), .punct ',']
      (recordTrees [("vk_ic".toList, [.leaf (.word (rowsName constName))])]) :=
    fun _ _ => rfl
  have hfields := hcount.append <| (groups_fieldTokens "vk_alpha_g1" vk.vkAlphaG1.toList).append <|
    (groups_fieldTokens "vk_beta_g2" vk.vkBetaG2.toList).append <|
    (groups_fieldTokens "vk_gamma_g2" vk.vkGammaG2.toList).append <|
    (groups_fieldTokens "vk_delta_g2" vk.vkDeltaG2.toList).append <|
    hrows.append (groups_commitmentTokens vk.vkCommitment)
  have hparts := hhead.append (groups_close (rfl : closer '{' = some '}') hfields)
  unfold constTokens constTrees
  simpa [recordTrees, keyFields] using hparts

/-! ## Reading the fields -/

theorem isPunct_arrayTree {separator : Char} (bytes : List UInt8) :
    ∀ tree ∈ [arrayTree bytes], isPunct separator tree = false :=
  List.forall_mem_singleton.mpr rfl

theorem readRowList_rowTrees (rows : List (Bytes 64)) :
    readRowList [.leaf (.punct '&'), .group '[' (rowTrees rows)] = some rows := by
  have hpieces : pieces ',' (rowTrees rows) = rows.map fun row => [arrayTree row.toList] :=
    pieces_flatMap _ rows fun row _ => isPunct_arrayTree row.toList
  have hread : (fun row : Bytes 64 => readBytes 64 [arrayTree row.toList]) = some := by
    funext row
    exact readBytes_u8Trees row
  have hrows : rows.mapM (fun row : Bytes 64 => readBytes 64 [arrayTree row.toList]) = some rows := by
    rw [hread]
    exact (List.mapM_pure (m := Option) (f := id)).trans (by rw [List.map_id]; rfl)
  rw [readRowList, hpieces, List.mapM_map]
  exact hrows

theorem readCommitmentKey_fields (ck : CommitmentVerifyingKey) :
    readCommitmentKey
      [.leaf (kw "CommitmentVerifyingKey"), .group '{' (recordTrees (commitmentFields ck))] =
        some ck := by
  have hfields : ∀ field ∈ commitmentFields ck, ∀ tree ∈ field.2, isPunct ',' tree = false := by
    simp [commitmentFields, arrayTree, isPunct]
  have hrecord : readRecord "CommitmentVerifyingKey"
      [.leaf (kw "CommitmentVerifyingKey"), .group '{' (recordTrees (commitmentFields ck))] =
        some (commitmentFields ck) := readRecord_recordTrees _ hfields
  have hg2 : readField (commitmentFields ck) "g2" (readBytes 128) = some ck.g2 :=
    readBytes_u8Trees ck.g2
  have hgSigma : readField (commitmentFields ck) "g_sigma_neg_g2" (readBytes 128) =
      some ck.gSigmaNegG2 := readBytes_u8Trees ck.gSigmaNegG2
  unfold readCommitmentKey
  simp only [hrecord, hg2, hgSigma, Option.bind_eq_bind, Option.bind_some]
  rfl

/-- The variant of `Option` that a key is written with. -/
def variantName : Option CommitmentVerifyingKey → List Char
  | some _ => "Some".toList
  | none => "None".toList

theorem readOption_commitmentValue (file : List TokenTree) (key : Option CommitmentVerifyingKey) :
    readOption file readCommitmentKey (commitmentValue key) =
      if bindsName file (variantName key) then none else some key := by
  cases key with
  | none =>
    have hnone : readOption file readCommitmentKey (commitmentValue none) =
        if "None".toList = "None".toList ∧ bindsName file "None".toList = false then some none
        else none := rfl
    rw [hnone, variantName]
    cases bindsName file "None".toList <;> rfl
  | some ck =>
    have hsome : readOption file readCommitmentKey (commitmentValue (some ck)) =
        if "Some".toList = "Some".toList ∧ bindsName file "Some".toList = false then
          (readCommitmentKey [.leaf (kw "CommitmentVerifyingKey"),
            .group '{' (recordTrees (commitmentFields ck))]).map some
        else none := rfl
    rw [hsome, readCommitmentKey_fields, variantName]
    cases bindsName file "Some".toList <;> rfl

/-! ## Reading the file -/

/-- The items of a generated file, whatever the metadata are. -/
def fileTrees (constName : String) (vk : Groth16VerifyingkeyOwned) (metadata : List TokenTree) :
    List TokenTree :=
  useTrees vk.vkCommitment ++ .leaf (.punct ';') ::
    (staticTrees constName vk.vkIc ++ .leaf (.punct ';') ::
      (constTrees constName vk ++ .leaf (.punct ';') :: metadata))

theorem pieces_fileTrees (constName : String) (vk : Groth16VerifyingkeyOwned)
    (metadata : List TokenTree) :
    pieces ';' (fileTrees constName vk metadata) =
      useTrees vk.vkCommitment :: staticTrees constName vk.vkIc :: constTrees constName vk ::
        pieces ';' metadata := by
  have huse : ∀ tree ∈ useTrees vk.vkCommitment, isPunct ';' tree = false := by
    cases vk.vkCommitment <;> simp [useTrees, isPunct, kw]
  have hstatic : ∀ tree ∈ staticTrees constName vk.vkIc, isPunct ';' tree = false := by
    simp [staticTrees, isPunct, kw]
  have hconst : ∀ tree ∈ constTrees constName vk, isPunct ';' tree = false := by
    simp [constTrees, isPunct, kw]
  rw [fileTrees, pieces_cons huse, pieces_cons hstatic, pieces_cons hconst]

theorem readItem_useTrees (vkCommitment : Option CommitmentVerifyingKey) :
    readItem (useTrees vkCommitment) = some ⟨"use".toList, "groth16_solana".toList, []⟩ := by
  cases vkCommitment with
  | none => rfl
  | some ck => rfl

theorem readItem_staticTrees (constName : String) (rows : List (Bytes 64)) :
    readItem (staticTrees constName rows) =
      some ⟨"static".toList, rowsName constName, [.leaf (.punct '&'), .group '[' (rowTrees rows)]⟩ := rfl

theorem readItem_constTrees (constName : String) (vk : Groth16VerifyingkeyOwned) :
    readItem (constTrees constName vk) = some ⟨"const".toList, constName.toList,
      [.leaf (kw "Groth16Verifyingkey"), .group '{' (recordTrees (keyFields constName vk))]⟩ := rfl

theorem itemValue_static (constName : String) (vk : Groth16VerifyingkeyOwned)
    (metadata : List TokenTree) :
    itemValue (fileTrees constName vk metadata) "static".toList (rowsName constName) =
      some [.leaf (.punct '&'), .group '[' (rowTrees vk.vkIc)] := by
  unfold itemValue
  rw [pieces_fileTrees, List.filterMap_cons_some (readItem_useTrees _),
    List.filterMap_cons_some (readItem_staticTrees _ _), List.find?_cons_of_neg (by simp),
    List.find?_cons_of_pos (by simp)]
  rfl

theorem itemValue_const (constName : String) (vk : Groth16VerifyingkeyOwned)
    (metadata : List TokenTree) :
    itemValue (fileTrees constName vk metadata) "const".toList constName.toList =
      some [.leaf (kw "Groth16Verifyingkey"), .group '{' (recordTrees (keyFields constName vk))] := by
  unfold itemValue
  rw [pieces_fileTrees, List.filterMap_cons_some (readItem_useTrees _),
    List.filterMap_cons_some (readItem_staticTrees _ _),
    List.filterMap_cons_some (readItem_constTrees _ _),
    List.find?_cons_of_neg (by simp), List.find?_cons_of_neg (by simp),
    List.find?_cons_of_pos (by simp)]
  rfl

theorem readRecord_keyFields (constName : String) (vk : Groth16VerifyingkeyOwned) :
    readRecord "Groth16Verifyingkey"
      [.leaf (kw "Groth16Verifyingkey"), .group '{' (recordTrees (keyFields constName vk))] =
        some (keyFields constName vk) := by
  have hcommitment : ∀ tree ∈ commitmentValue vk.vkCommitment, isPunct ',' tree = false := by
    cases vk.vkCommitment <;> simp [commitmentValue, isPunct, kw]
  have hfields : ∀ field ∈ keyFields constName vk, ∀ tree ∈ field.2, isPunct ',' tree = false := by
    simpa [keyFields, arrayTree, isPunct] using hcommitment
  exact readRecord_recordTrees _ hfields

theorem readKeyRecord_fileTrees {constName : String} {vk : Groth16VerifyingkeyOwned}
    (metadata : List TokenTree) (hinputs : vk.nrPubinputs < 2 ^ 64) :
    readKeyRecord (fileTrees constName vk metadata)
      [.leaf (kw "Groth16Verifyingkey"), .group '{' (recordTrees (keyFields constName vk))] =
        if bindsName (fileTrees constName vk metadata) (variantName vk.vkCommitment) then none
        else some vk.asBorrowed := by
  have hrecord := readRecord_keyFields constName vk
  have hcount : readField (keyFields constName vk) "nr_pubinputs" readUsize = some vk.nrPubinputs :=
    readUsize_toDigits hinputs
  have halpha : readField (keyFields constName vk) "vk_alpha_g1" (readBytes 64) = some vk.vkAlphaG1 :=
    readBytes_u8Trees vk.vkAlphaG1
  have hbeta : readField (keyFields constName vk) "vk_beta_g2" (readBytes 128) = some vk.vkBetaG2 :=
    readBytes_u8Trees vk.vkBetaG2
  have hgamma : readField (keyFields constName vk) "vk_gamma_g2" (readBytes 128) = some vk.vkGammaG2 :=
    readBytes_u8Trees vk.vkGammaG2
  have hdelta : readField (keyFields constName vk) "vk_delta_g2" (readBytes 128) = some vk.vkDeltaG2 :=
    readBytes_u8Trees vk.vkDeltaG2
  have hrows : readField (keyFields constName vk) "vk_ic"
      (readStaticRows (fileTrees constName vk metadata)) = some vk.vkIc := by
    have hvalue : readField (keyFields constName vk) "vk_ic"
        (readStaticRows (fileTrees constName vk metadata)) = (itemValue
          (fileTrees constName vk metadata) "static".toList (rowsName constName)).bind readRowList := rfl
    rw [hvalue, itemValue_static, Option.bind_some, readRowList_rowTrees]
  have hkey : readField (keyFields constName vk) "vk_commitment"
      (readOption (fileTrees constName vk metadata) readCommitmentKey) = _ :=
    readOption_commitmentValue (fileTrees constName vk metadata) vk.vkCommitment
  unfold readKeyRecord
  simp only [hrecord, hcount, halpha, hbeta, hgamma, hdelta, hrows, hkey, Option.bind_eq_bind,
    Option.bind_some]
  cases bindsName (fileTrees constName vk metadata) (variantName vk.vkCommitment) <;> rfl

def keyItems (constName : String) (vk : Groth16VerifyingkeyOwned) : List (List TokenTree) :=
  [useTrees vk.vkCommitment, staticTrees constName vk.vkIc, constTrees constName vk]

theorem semicolonFree_keyItems (constName : String) (vk : Groth16VerifyingkeyOwned) :
    SemicolonFree (keyItems constName vk) := by
  cases hkey : vk.vkCommitment <;>
    simp [SemicolonFree, keyItems, hkey, useTrees, staticTrees, constTrees, isPunct, kw]

/-- The const has the name of the variant that its own value is written with. -/
def HidesVariant (constName : String) (vkCommitment : Option CommitmentVerifyingKey) : Prop :=
  bareName constName.toList = variantName vkCommitment

theorem underscore_notMem_variantName (vkCommitment : Option CommitmentVerifyingKey) :
    '_' ∉ variantName vkCommitment := by
  cases vkCommitment with
  | none => exact List.count_eq_zero.mp rfl
  | some ck => exact List.count_eq_zero.mp rfl

theorem not_hidesVariant {constName : String} (h : '_' ∈ constName.toList)
    (vkCommitment : Option CommitmentVerifyingKey) : ¬ HidesVariant constName vkCommitment := by
  intro hhides
  have hmem := mem_bareName h (by decide) (by decide)
  rw [hhides] at hmem
  exact underscore_notMem_variantName vkCommitment hmem

instance (constName : String) (vkCommitment : Option CommitmentVerifyingKey) :
    Decidable (HidesVariant constName vkCommitment) :=
  inferInstanceAs (Decidable (bareName constName.toList = variantName vkCommitment))

theorem bindsName_vkFile (constName : String) (vk : Groth16VerifyingkeyOwned) (symbol : List Char)
    (setup : SetupKind) (provingKeySha256 : Bytes 32) :
    bindsName (itemTrees
        (keyItems constName vk ++ metadataItems constName symbol setup provingKeySha256))
      (variantName vk.vkCommitment) = decide (HidesVariant constName vk.vkCommitment) := by
  have hvariant := underscore_notMem_variantName vk.vkCommitment
  have hrows (value : List TokenTree) :
      RustItem.binds (variantName vk.vkCommitment) ⟨"static".toList, rowsName constName, value⟩ = false :=
    binds_eq_false (List.mem_append_right _ (by decide)) hvariant
  rw [bindsName_append (semicolonFree_keyItems _ _) (semicolonFree_metadataItems _ _ _ _),
    bindsName_metadataItems _ _ _ _ hvariant, bindsName_itemTrees (semicolonFree_keyItems _ _),
    keyItems, List.filterMap_cons_some (readItem_useTrees _),
    List.filterMap_cons_some (readItem_staticTrees _ _),
    List.filterMap_cons_some (readItem_constTrees _ _), List.filterMap_nil]
  simp only [List.any_cons, List.any_nil, hrows]
  rw [Bool.eq_iff_iff, decide_eq_true_eq]
  simp [RustItem.binds, HidesVariant]

theorem itemTrees_keyItems (constName : String) (vk : Groth16VerifyingkeyOwned)
    (metadata : List (List TokenTree)) :
    itemTrees (keyItems constName vk ++ metadata) = fileTrees constName vk (itemTrees metadata) := by
  simp [itemTrees, keyItems, fileTrees]

theorem holdsItems_vkSource (vk : Groth16VerifyingkeyOwned) {constName : String} (setup : SetupKind)
    (hname : RustIdentifier constName) :
    HoldsItems (vkSource vk constName setup).toList (keyItems constName vk) := by
  have hparts := (groups_useTokens vk.vkCommitment).append <|
    (groups_staticTokens constName vk.vkIc).append (groups_constTokens constName vk)
  have hgroups : Groups
      (useTokens vk.vkCommitment ++ staticTokens constName vk.vkIc ++ constTokens constName vk)
      (itemTrees (keyItems constName vk)) := by
    simpa [itemTrees, keyItems] using hparts
  exact ⟨_, lexes_vkSource vk setup hname, hgroups⟩

/-- A generated file is the items of the key and those of the metadata. -/
theorem holdsItems_vkFile (vk : Groth16VerifyingkeyOwned) {constName : String} (setup : SetupKind)
    (provingKeySha256 : Bytes 32) (hname : RustIdentifier constName) :
    ∃ symbol, HoldsItems (vkSource vk constName setup ++
        metadataRustSource (vkSource vk constName setup) constName setup provingKeySha256).toList
      (keyItems constName vk ++ metadataItems constName symbol setup provingKeySha256) := by
  obtain ⟨symbol, hmetadata⟩ :=
    holdsItems_metadataRustSource (vkSource vk constName setup) setup provingKeySha256 hname
  refine ⟨symbol, ?_⟩
  rw [String.toList_append]
  exact (holdsItems_vkSource vk setup hname).append hmetadata

/-- The text of a generated file is read back as the key, whether it is forgeable or not, unless the
const hides what the key is written with. -/
theorem readVerifyingkey_vkSource {vk : Groth16VerifyingkeyOwned} {constName : String}
    (setup : SetupKind) (provingKeySha256 : Bytes 32) (hname : RustIdentifier constName)
    (hinputs : vk.nrPubinputs < 2 ^ 64) :
    readVerifyingkey (vkSource vk constName setup ++
      metadataRustSource (vkSource vk constName setup) constName setup provingKeySha256) constName =
        if HidesVariant constName vk.vkCommitment then none else some vk.asBorrowed := by
  obtain ⟨symbol, tokens, hlex, hgroups⟩ := holdsItems_vkFile vk setup provingKeySha256 hname
  have hbinds := bindsName_vkFile constName vk symbol setup provingKeySha256
  rw [itemTrees_keyItems] at hgroups hbinds
  unfold readVerifyingkey
  simp only [lex_eq hlex, groupTokens_eq hgroups, itemValue_const, Option.bind_eq_bind,
    Option.bind_some]
  rw [readKeyRecord_fileTrees _ hinputs, hbinds]
  simp only [decide_eq_true_eq]

theorem readVerifyingkey_of_emitted {bytes : List UInt8} {vk : Groth16VerifyingkeyOwned}
    {constName src : String} {setup : SetupKind} {provingKeySha256 : Bytes 32}
    (hparse : parseGnarkVkBytes bytes = .ok vk) (hname : RustIdentifier constName)
    (hsrc : bsb22VkToRustConst vk constName setup provingKeySha256 = .ok src) :
    readVerifyingkey src constName =
      if HidesVariant constName vk.vkCommitment then none else some vk.asBorrowed := by
  have hinputs : vk.nrPubinputs < 2 ^ 64 := (nrPubinputs_lt_of_parse hparse).trans (by decide)
  unfold bsb22VkToRustConst at hsrc
  by_cases hforgeable : setup = .production ∧ deltaEqualsGamma vk.vkGammaG2 vk.vkDeltaG2
  · rw [if_pos hforgeable] at hsrc
    cases hsrc
  · rw [if_neg hforgeable] at hsrc
    obtain rfl := Except.ok.inj hsrc
    exact readVerifyingkey_vkSource setup provingKeySha256 hname hinputs

theorem readVerifyingkey_eq_iff {bytes : List UInt8} {vk : Groth16VerifyingkeyOwned}
    {constName src : String} {setup : SetupKind} {provingKeySha256 : Bytes 32}
    (hparse : parseGnarkVkBytes bytes = .ok vk) (hname : RustIdentifier constName)
    (hsrc : bsb22VkToRustConst vk constName setup provingKeySha256 = .ok src) :
    readVerifyingkey src constName = some vk.asBorrowed ↔
      ¬ HidesVariant constName vk.vkCommitment := by
  rw [readVerifyingkey_of_emitted hparse hname hsrc]
  by_cases hhides : HidesVariant constName vk.vkCommitment
  · simp [hhides]
  · simp [hhides]

/-- A program that includes the generated file and one that parses `vk.bin` have the same key, exactly
when the const does not hide the variant of `Option` that it is written with. -/
theorem const_is_parsed_key_iff {bytes : List UInt8} {vk : Groth16VerifyingkeyOwned}
    {constName src : String} {setup : SetupKind} {provingKeySha256 : Bytes 32}
    (hparse : parseGnarkVkBytes bytes = .ok vk) (hname : RustIdentifier constName)
    (hsrc : bsb22VkToRustConst vk constName setup provingKeySha256 = .ok src) :
    readVerifyingkey src constName = some vk.asBorrowed ↔
      ¬ HidesVariant constName vk.vkCommitment :=
  readVerifyingkey_eq_iff hparse hname hsrc

theorem const_is_parsed_key_sample :
    ∃ src, bsb22VkToRustConst sampleVk "VERIFYINGKEY" .insecureTest (Bytes.zero 32) = .ok src ∧
      readVerifyingkey src "VERIFYINGKEY" = some sampleVk.asBorrowed := by
  have hsrc : bsb22VkToRustConst sampleVk "VERIFYINGKEY" .insecureTest (Bytes.zero 32) = .ok _ :=
    if_neg fun hforgeable => absurd hforgeable.1 (by decide)
  refine ⟨_, hsrc,
    (const_is_parsed_key_iff parse_sampleVk rustIdentifier_verifyingkey hsrc).mpr ?_⟩
  decide

theorem rustIdentifier_none : RustIdentifier "None" := by
  refine ⟨⟨'N', "one".toList, List.all_eq_true.mp (by decide), Or.inl (by decide)⟩, ?_⟩
  rintro c ⟨⟩
  decide

/-- A key without public inputs and without a commitment. -/
def bareVk : Groth16VerifyingkeyOwned :=
  { sampleVk with nrPubinputs := 0, vkIc := [Vector.replicate 64 5], vkCommitment := none }

/-- The const `None` names itself as its commitment key. -/
theorem const_none_denotes_no_key :
    parseGnarkVkBytes (writeRawTo (Bytes.zero 64) (Bytes.zero 64) bareVk) = .ok bareVk ∧
      RustIdentifier "None" ∧
      ∃ src, bsb22VkToRustConst bareVk "None" .insecureTest (Bytes.zero 32) = .ok src ∧
        readVerifyingkey src "None" = none := by
  have hrows : SupportedRows bareVk := ⟨by decide, by decide, rfl⟩
  have hparse := parse_writeRawTo (Bytes.zero 64) (Bytes.zero 64) hrows
  have hsrc : bsb22VkToRustConst bareVk "None" .insecureTest (Bytes.zero 32) = .ok _ :=
    if_neg fun hforgeable => absurd hforgeable.1 (by decide)
  refine ⟨hparse, rustIdentifier_none, _, hsrc, ?_⟩
  rw [readVerifyingkey_of_emitted hparse rustIdentifier_none hsrc, if_pos (by decide)]

end Groth16Solana
