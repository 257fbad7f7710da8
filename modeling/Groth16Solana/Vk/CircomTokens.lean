import Groth16Solana.Vk.CircomBytes
import Groth16Solana.Vk.ConstRoundTrip
import Groth16Solana.Vk.KeyLiteral

/-! # Reading a generated circom key back

The rows of a circom key stand in the struct literal. Its arrays are read back as they were written,
whatever their lengths. -/

set_option autoImplicit false

namespace Groth16Solana
open Foundations TokenTree

/-! ## Tokens -/

def circomConstTokens (key : CircomKey) : List Token :=
  rustfmtSkipTokens ++
    [kw "pub", kw "const", kw "VERIFYINGKEY", .punct ':', kw "Groth16Verifyingkey", .punct '=',
      kw "Groth16Verifyingkey", .punct '\x7b'] ++
    [kw "nr_pubinputs", .punct ':', .word (Nat.toDigits 10 key.nrPubinputs), .punct ','] ++
    fieldTokens "vk_alpha_g1" key.alphaBytes ++ fieldTokens "vk_beta_g2" key.betaBytes ++
    fieldTokens "vk_gamma_g2" key.gammaBytes ++ fieldTokens "vk_delta_g2" key.deltaBytes ++
    [kw "vk_ic", .punct ':', .punct '&', .punct '['] ++ key.icBytes.flatMap arrayTokens ++
    [.punct ']', .punct ','] ++ commitmentTokens none ++ [.punct '\x7d', .punct ';']

theorem lexes_circomSource (key : CircomKey) (setup : SetupKind) :
    Lexes (circomSource key setup).toList (useTokens none ++ circomConstTokens key) := by
  have hheader₁ : Lexes "// This file is generated by groth16_solana::vk::circom.\n".toList [] :=
    Lexes.literal
  have hheader₂ : Lexes "// Do not edit by hand.\n\n".toList [] := Lexes.literal
  have huse : Lexes "use groth16_solana::groth16::Groth16Verifyingkey;\n\n".toList
      (useTokens none) := Lexes.literal
  have hskip : Lexes "#[rustfmt::skip]\n".toList rustfmtSkipTokens := Lexes.literal
  have hconst : Lexes "pub const VERIFYINGKEY: Groth16Verifyingkey = Groth16Verifyingkey \x7b\n".toList
      [kw "pub", kw "const", kw "VERIFYINGKEY", .punct ':', kw "Groth16Verifyingkey", .punct '=',
        kw "Groth16Verifyingkey", .punct '\x7b'] := Lexes.literal
  have hcount : Lexes "\tnr_pubinputs: ".toList [kw "nr_pubinputs", .punct ':'] := Lexes.literal
  have hcountValue := Lexes.word (isWord_toDigits key.nrPubinputs) (endsWord_literal :
    endsWord ",\n\n".toList [] [.punct ','])
  have hclose : endsWord "],\n\n".toList [] [.punct ']', .punct ','] := endsWord_literal
  have halpha : Lexes "\tvk_alpha_g1: [".toList ([kw "vk_alpha_g1", .punct ':'] ++ [.punct '[']) :=
    Lexes.literal
  have hbeta : Lexes "\tvk_beta_g2: [".toList ([kw "vk_beta_g2", .punct ':'] ++ [.punct '[']) :=
    Lexes.literal
  have hgamma : Lexes "\tvk_gamma_g2: [".toList ([kw "vk_gamma_g2", .punct ':'] ++ [.punct '[']) :=
    Lexes.literal
  have hdelta : Lexes "\tvk_delta_g2: [".toList ([kw "vk_delta_g2", .punct ':'] ++ [.punct '[']) :=
    Lexes.literal
  have hic : Lexes "\tvk_ic: &[\n".toList [kw "vk_ic", .punct ':', .punct '&', .punct '['] :=
    Lexes.literal
  have hrow : Lexes "\t\t[".toList [.punct '['] := Lexes.literal
  have hicEnd : Lexes "\t],\n\n".toList [.punct ']', .punct ','] := Lexes.literal
  have hcommitment : Lexes "\tvk_commitment: None,\n".toList (commitmentTokens none) := Lexes.literal
  have hend : Lexes "\x7d;\n".toList [.punct '\x7d', .punct ';'] := Lexes.literal
  have hcountText : (toString key.nrPubinputs).toList = Nat.toDigits 10 key.nrPubinputs := by
    simp [Nat.toString_eq_repr]
  have hparts :=
    hheader₁.append <| hheader₂.append <| (lexes_headerWarning setup).append <| huse.append <|
    hskip.append <| hconst.append <| hcount.append <| hcountValue.append <|
    (lexes_array key.alphaBytes halpha hclose).append <|
    (lexes_array key.betaBytes hbeta hclose).append <|
    (lexes_array key.gammaBytes hgamma hclose).append <|
    (lexes_array key.deltaBytes hdelta hclose).append <|
    hic.append <| (lexes_rowLines hrow key.icBytes).append <| hicEnd.append <| hcommitment.append hend
  unfold circomSource
  simp only [String.toList_append, List.append_assoc, hcountText] at hparts ⊢
  exact hparts.of_eq (by simp [circomConstTokens, fieldTokens])

/-! ## Trees -/

def circomFields (key : CircomKey) : List (List Char × List TokenTree) :=
  [("nr_pubinputs".toList, [.leaf (.word (Nat.toDigits 10 key.nrPubinputs))]),
    ("vk_alpha_g1".toList, [arrayTree key.alphaBytes]),
    ("vk_beta_g2".toList, [arrayTree key.betaBytes]),
    ("vk_gamma_g2".toList, [arrayTree key.gammaBytes]),
    ("vk_delta_g2".toList, [arrayTree key.deltaBytes]),
    ("vk_ic".toList, [.leaf (.punct '&'), .group '[' (arrayTrees key.icBytes)]),
    ("vk_commitment".toList, commitmentValue none)]

def circomConstItem (key : CircomKey) : List TokenTree :=
  rustfmtSkipTrees ++
    [.leaf (kw "pub"), .leaf (kw "const"), .leaf (kw "VERIFYINGKEY"), .leaf (.punct ':'),
      .leaf (kw "Groth16Verifyingkey"), .leaf (.punct '='), .leaf (kw "Groth16Verifyingkey"),
      .group '{' (recordTrees (circomFields key))]

theorem groups_circomConstTokens (key : CircomKey) :
    Groups (circomConstTokens key) (circomConstItem key ++ [.leaf (.punct ';')]) := by
  have hhead : Groups
      (rustfmtSkipTokens ++ [kw "pub", kw "const", kw "VERIFYINGKEY", .punct ':',
        kw "Groth16Verifyingkey", .punct '=', kw "Groth16Verifyingkey"])
      (rustfmtSkipTrees ++ [.leaf (kw "pub"), .leaf (kw "const"), .leaf (kw "VERIFYINGKEY"),
        .leaf (.punct ':'), .leaf (kw "Groth16Verifyingkey"), .leaf (.punct '='),
        .leaf (kw "Groth16Verifyingkey")]) :=
    fun _ _ => rfl
  have hcount : Groups
      [kw "nr_pubinputs", .punct ':', .word (Nat.toDigits 10 key.nrPubinputs), .punct ',']
      (recordTrees [("nr_pubinputs".toList, [.leaf (.word (Nat.toDigits 10 key.nrPubinputs))])]) :=
    fun _ _ => rfl
  have hgroup := Groups.group (rfl : closer '[' = some ']') (groups_arrays key.icBytes) Groups.comma
  have hborrow := hgroup.punct (c := '&') (by decide)
  have hrows := hborrow.colon.word "vk_ic".toList
  have hfields := hcount.append <| (groups_fieldTokens "vk_alpha_g1" key.alphaBytes).append <|
    (groups_fieldTokens "vk_beta_g2" key.betaBytes).append <|
    (groups_fieldTokens "vk_gamma_g2" key.gammaBytes).append <|
    (groups_fieldTokens "vk_delta_g2" key.deltaBytes).append <|
    hrows.append (groups_commitmentTokens none)
  have hparts := hhead.append (groups_close (rfl : closer '{' = some '}') hfields)
  unfold circomConstTokens circomConstItem
  simpa [recordTrees, circomFields, kw] using hparts

def circomItems (key : CircomKey) (symbol : List Char) (setup : SetupKind)
    (provingKeySha256 : Bytes 32) : List (List TokenTree) :=
  [useTrees none, circomConstItem key] ++ metadataItems "VERIFYINGKEY" symbol setup provingKeySha256

theorem holdsItems_circomFile (key : CircomKey) (setup : SetupKind) (provingKeySha256 : Bytes 32) :
    ∃ symbol, HoldsItems (circomFile key setup provingKeySha256).toList
      (circomItems key symbol setup provingKeySha256) := by
  have hgroups : Groups (useTokens none ++ circomConstTokens key)
      (itemTrees [useTrees none, circomConstItem key]) := by
    have hparts := (groups_useTokens none).append (groups_circomConstTokens key)
    simpa [itemTrees] using hparts
  have hkey : HoldsItems (circomSource key setup).toList [useTrees none, circomConstItem key] :=
    ⟨_, lexes_circomSource key setup, hgroups⟩
  obtain ⟨symbol, hmetadata⟩ :=
    holdsItems_metadataRustSource (circomSource key setup) setup provingKeySha256
    rustIdentifier_verifyingkey
  refine ⟨symbol, ?_⟩
  rw [circomFile, String.toList_append]
  exact hkey.append hmetadata

theorem semicolonFree_circomItems (key : CircomKey) (symbol : List Char) (setup : SetupKind)
    (provingKeySha256 : Bytes 32) :
    SemicolonFree (circomItems key symbol setup provingKeySha256) := by
  refine List.forall_mem_append.mpr ⟨?_, semicolonFree_metadataItems _ _ _ _⟩
  simp [useTrees, circomConstItem, rustfmtSkipTrees, isPunct, kw]

theorem sourceTrees_of_holdsItems {source : String} {items : List (List TokenTree)}
    (h : HoldsItems source.toList items) : sourceTrees source = some (itemTrees items) := by
  obtain ⟨tokens, hlex, hgroups⟩ := h
  rw [sourceTrees, lex_eq hlex, Option.bind_eq_bind, Option.bind_some, groupTokens_eq hgroups]

/-! ## Fields -/

theorem readByteArray_arrayTree (bytes : List UInt8) :
    readByteArray [arrayTree bytes] = some bytes :=
  mapM_readU8_u8Trees bytes

theorem readByteRows_arrayTrees (file : List TokenTree) (rows : List (List UInt8)) :
    readByteRows file [.leaf (.punct '&'), .group '[' (arrayTrees rows)] = some rows := by
  have hpieces : pieces ',' (arrayTrees rows) = rows.map fun row => [arrayTree row] :=
    pieces_flatMap _ rows fun row _ => isPunct_arrayTree row
  have hread : (fun row : List UInt8 => readByteArray [arrayTree row]) = some := by
    funext row
    exact readByteArray_arrayTree row
  have hrows : rows.mapM (fun row : List UInt8 => readByteArray [arrayTree row]) = some rows := by
    rw [hread]
    exact (List.mapM_pure (m := Option) (f := id)).trans (by rw [List.map_id]; rfl)
  rw [readByteRows, hpieces, List.mapM_map]
  exact hrows

def circomConstValue (key : CircomKey) : List TokenTree :=
  [.leaf (kw "Groth16Verifyingkey"), .group '{' (recordTrees (circomFields key))]

theorem readItem_circomConstItem (key : CircomKey) :
    readItem (circomConstItem key) =
      some ⟨"const".toList, "VERIFYINGKEY".toList, circomConstValue key⟩ := rfl

theorem readRecord_circomConstValue (key : CircomKey) :
    readRecord "Groth16Verifyingkey" (circomConstValue key) = some (circomFields key) := by
  have hfields : ∀ field ∈ circomFields key, ∀ tree ∈ field.2, isPunct ',' tree = false := by
    simp [circomFields, commitmentValue, arrayTree, isPunct, kw]
  exact readRecord_recordTrees _ hfields

theorem literalFields_circomItems (key : CircomKey) (symbol : List Char) (setup : SetupKind)
    (provingKeySha256 : Bytes 32) :
    literalFields (itemTrees (circomItems key symbol setup provingKeySha256)) "VERIFYINGKEY" =
      some (circomFields key) := by
  have hvalue : itemValue (itemTrees (circomItems key symbol setup provingKeySha256)) "const".toList
      "VERIFYINGKEY".toList = some (circomConstValue key) := by
    rw [itemValue_itemTrees (semicolonFree_circomItems key symbol setup provingKeySha256), circomItems,
      List.cons_append, List.filterMap_cons_some (readItem_useTrees none), List.cons_append,
      List.filterMap_cons_some (readItem_circomConstItem key), List.find?_cons_of_neg (by simp),
      List.find?_cons_of_pos (by simp), Option.map_some]
  unfold literalFields
  simp only [hvalue, Option.bind_eq_bind, Option.bind_some]
  exact readRecord_circomConstValue key

/-- `VERIFYINGKEY` hides nothing. -/
theorem bindsName_circomItems (key : CircomKey) (symbol : List Char) (setup : SetupKind)
    (provingKeySha256 : Bytes 32) :
    bindsName (itemTrees (circomItems key symbol setup provingKeySha256)) "None".toList = false := by
  have hfree : SemicolonFree [useTrees none, circomConstItem key] := by
    simp [SemicolonFree, useTrees, circomConstItem, rustfmtSkipTrees, isPunct, kw]
  have hname : '_' ∉ "None".toList := List.count_eq_zero.mp rfl
  rw [circomItems, bindsName_append hfree (semicolonFree_metadataItems _ _ _ _),
    bindsName_metadataItems _ _ _ _ hname, bindsName_itemTrees hfree,
    List.filterMap_cons_some (readItem_useTrees none),
    List.filterMap_cons_some (readItem_circomConstItem key)]
  rfl

def CircomKey.literal (key : CircomKey) : KeyLiteral :=
  { nrPubinputs := key.nrPubinputs
    vkAlphaG1 := key.alphaBytes
    vkBetaG2 := key.betaBytes
    vkGammaG2 := key.gammaBytes
    vkDeltaG2 := key.deltaBytes
    vkIc := key.icBytes
    vkCommitment := none }

theorem readField_gamma (key : CircomKey) :
    readField (circomFields key) "vk_gamma_g2" readByteArray = some key.gammaBytes :=
  readByteArray_arrayTree key.gammaBytes

theorem readField_delta (key : CircomKey) :
    readField (circomFields key) "vk_delta_g2" readByteArray = some key.deltaBytes :=
  readByteArray_arrayTree key.deltaBytes

/-- The text of a generated file is read back as the key, whether its arrays have the right lengths or
not. -/
theorem readKeyLiteral_circomFile (key : CircomKey) (setup : SetupKind)
    (provingKeySha256 : Bytes 32) (hinputs : key.nrPubinputs < 2 ^ 64) :
    readKeyLiteral (circomFile key setup provingKeySha256) "VERIFYINGKEY" = some key.literal := by
  obtain ⟨symbol, hitems⟩ := holdsItems_circomFile key setup provingKeySha256
  have hcount : readField (circomFields key) "nr_pubinputs" readUsize = some key.nrPubinputs :=
    readUsize_toDigits hinputs
  have halpha : readField (circomFields key) "vk_alpha_g1" readByteArray = some key.alphaBytes :=
    readByteArray_arrayTree key.alphaBytes
  have hbeta : readField (circomFields key) "vk_beta_g2" readByteArray = some key.betaBytes :=
    readByteArray_arrayTree key.betaBytes
  have hrows (file : List TokenTree) : readField (circomFields key) "vk_ic" (readByteRows file) =
      some key.icBytes :=
    readByteRows_arrayTrees file key.icBytes
  have hcommitment : readField (circomFields key) "vk_commitment"
      (readOption (itemTrees (circomItems key symbol setup provingKeySha256)) readCommitmentKey) =
        some none := by
    have hread := readOption_commitmentValue
      (itemTrees (circomItems key symbol setup provingKeySha256)) none
    rw [variantName, bindsName_circomItems] at hread
    exact hread
  unfold readKeyLiteral
  simp only [sourceTrees_of_holdsItems hitems, literalFields_circomItems, hcount, halpha, hbeta,
    readField_gamma, readField_delta, hrows, hcommitment, Option.bind_eq_bind, Option.bind_some]
  rfl

theorem nrPubinputs_lt_of_generated {json : JsonPackages} {rawVk : RawVerifyingKey}
    {setup : SetupKind} {nrPubinputs : ℕ} {head : HeadIntegers} {ic : List (List ℕ)}
    (h : GeneratedKey setup json rawVk nrPubinputs head ic) : nrPubinputs < 2 ^ 64 := by
  obtain ⟨⟨hpos, hinputs⟩, -⟩ := (headIntegers_eq_some_iff json).mp h.headIntegers_eq
  have hlen := rawVk.ic_length
  omega

/-- Every file the generator delivers is read back as the key of the JSON's integers. -/
theorem readKeyLiteral_of_parse {json : JsonPackages} {jsonContent src : String}
    {rawVk : RawVerifyingKey} {setup : SetupKind} {provingKeySha256 : Bytes 32}
    (hjson : json.fromStr jsonContent = .ok rawVk)
    (hsrc : parseVkJsonToRustString json jsonContent setup provingKeySha256 = .ok src) :
    ∃ nrPubinputs head ic, GeneratedKey setup json rawVk nrPubinputs head ic ∧
      readKeyLiteral src "VERIFYINGKEY" = some (circomKey nrPubinputs head ic).literal := by
  obtain ⟨nrPubinputs, head, ic, hkey, rfl⟩ := generated_of_parse provingKeySha256 hjson hsrc
  exact ⟨nrPubinputs, head, ic, hkey,
    readKeyLiteral_circomFile _ setup provingKeySha256 (nrPubinputs_lt_of_generated hkey)⟩

end Groth16Solana
