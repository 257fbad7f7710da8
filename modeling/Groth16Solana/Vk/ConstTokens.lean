import Groth16Solana.Foundations.TokenTree
import Groth16Solana.Vk.GnarkConst

/-! # The tokens of a generated file

Each part of the emitted text is a sequence of whole tokens, whatever the key, the name and the digest
are. -/

set_option autoImplicit false

namespace Groth16Solana
open Foundations TokenTree

/-- A name that can be declared: a word that is no number. -/
def RustIdentifier (name : String) : Prop :=
  IsWord name.toList ∧ ∀ c ∈ name.toList.head?, ¬ c.isDigit

theorem rustIdentifier_verifyingkey : RustIdentifier "VERIFYINGKEY" := by
  refine ⟨⟨'V', "ERIFYINGKEY".toList, List.all_eq_true.mp (by decide), Or.inl (by decide)⟩, ?_⟩
  rintro c ⟨⟩
  decide

/-- A keyword or a fixed name. -/
def kw (s : String) : Token := .word s.toList

/-! ## Byte lists -/

variable {text : List Char} {tokens : List Token}

theorem byteList_nil : (byteList []).toList = [] := by simp [byteList]

theorem toList_literal (b : UInt8) : (toString b.toNat ++ "u8").toList = u8Word b := by
  simp [u8Word, Nat.toString_eq_repr]

theorem byteList_single (b : UInt8) : (byteList [b]).toList = u8Word b := by
  rw [byteList, List.map_singleton, String.intercalate_singleton, toList_literal]

theorem byteList_cons_cons (b b' : UInt8) (bytes : List UInt8) :
    (byteList (b :: b' :: bytes)).toList =
      u8Word b ++ (", ".toList ++ (byteList (b' :: bytes)).toList) := by
  rw [byteList, List.map_cons, List.map_cons, String.intercalate_cons_cons, String.toList_append,
    String.toList_append, toList_literal, List.append_assoc]
  rfl

theorem lexes_byteList {behind : List Char} {tokens' : List Token} (bytes : List UInt8)
    (hbehind : endsWord behind [] tokens') :
    Lexes ((byteList bytes).toList ++ behind) (u8Tokens bytes ++ tokens') := by
  induction bytes using u8Tokens.induct with
  | case1 =>
    rw [byteList_nil]
    exact lexRun_of_endsWord hbehind
  | case2 b =>
    have hword := Lexes.word (isWord_u8Word b) hbehind
    rw [List.append_nil] at hword
    rw [byteList_single]
    exact hword
  | case3 b b' bytes ih =>
    have hcomma : endsWord ", ".toList [] [.punct ','] := by decide
    have hword := (Lexes.word (isWord_u8Word b) hcomma).append ih
    rw [List.append_nil, List.append_assoc] at hword
    rw [byteList_cons_cons, List.append_assoc, List.append_assoc]
    exact hword

def arrayTokens (bytes : List UInt8) : List Token :=
  .punct '[' :: (u8Tokens bytes ++ [.punct ']', .punct ','])

/-- A line that holds an array of bytes between its first tokens and its last. -/
theorem lexes_array {before behind : List Char} (bytes : List UInt8)
    (h : Lexes before (tokens ++ [.punct '[']))
    (hclose : endsWord behind [] [.punct ']', .punct ',']) :
    Lexes (before ++ ((byteList bytes).toList ++ behind)) (tokens ++ arrayTokens bytes) :=
  (h.append (lexes_byteList bytes hclose)).of_eq (by simp [arrayTokens])

theorem lexes_arrayLine {before : List Char} (bytes : List UInt8)
    (h : Lexes before (tokens ++ [.punct '['])) :
    Lexes (before ++ ((byteList bytes).toList ++ "],\n".toList)) (tokens ++ arrayTokens bytes) :=
  lexes_array bytes h (by decide)

/-! ## The parts of a file -/

theorem lexes_rowLines {opening : String} (hopen : Lexes opening.toList [.punct '['])
    (rows : List (List UInt8)) :
    Lexes (String.join (rows.map fun row => opening ++ byteList row ++ "],\n")).toList
      (rows.flatMap arrayTokens) := by
  induction rows with
  | nil => exact Lexes.nil
  | cons row rows ih =>
    have hrow := (lexes_arrayLine row (hopen.of_eq (List.nil_append _).symm)).append ih
    rw [List.map_cons, String.join_cons, List.flatMap_cons]
    simp only [String.toList_append, List.append_assoc, List.nil_append] at hrow ⊢
    exact hrow

theorem lexes_rows (rows : List (Bytes 64)) :
    Lexes (String.join (rows.map fun row => "    [" ++ byteList row.toList ++ "],\n")).toList
      (rows.flatMap fun row => arrayTokens row.toList) := by
  have hopen : Lexes "    [".toList [.punct '['] := Lexes.literal
  have hrows := lexes_rowLines hopen (rows.map Vector.toList)
  rw [List.map_map, List.flatMap_map] at hrows
  exact hrows

def fieldTokens (field : String) (bytes : List UInt8) : List Token :=
  [kw field, .punct ':'] ++ arrayTokens bytes

def commitmentTokens : Option CommitmentVerifyingKey → List Token
  | some ck =>
    [kw "vk_commitment", .punct ':', kw "Some", .punct '(', kw "CommitmentVerifyingKey",
        .punct '{'] ++
      fieldTokens "g2" ck.g2.toList ++ fieldTokens "g_sigma_neg_g2" ck.gSigmaNegG2.toList ++
      [.punct '}', .punct ')', .punct ',']
  | none => [kw "vk_commitment", .punct ':', kw "None", .punct ',']

theorem lexes_commitmentSource (key : Option CommitmentVerifyingKey) :
    Lexes (commitmentSource key).toList (commitmentTokens key) := by
  cases key with
  | none =>
    have hnone : Lexes "    vk_commitment: None,\n".toList (commitmentTokens none) := Lexes.literal
    have hsource : commitmentSource none = "    vk_commitment: None,\n" := rfl
    rw [hsource]
    exact hnone
  | some ck =>
    have hopen : Lexes "    vk_commitment: Some(CommitmentVerifyingKey \x7b\n".toList
        [kw "vk_commitment", .punct ':', kw "Some", .punct '(', kw "CommitmentVerifyingKey",
          .punct '{'] := Lexes.literal
    have hg2 : Lexes "        g2: [".toList ([kw "g2", .punct ':'] ++ [.punct '[']) := Lexes.literal
    have hg2Sigma : Lexes "        g_sigma_neg_g2: [".toList
        ([kw "g_sigma_neg_g2", .punct ':'] ++ [.punct '[']) := Lexes.literal
    have hclose : Lexes "    \x7d),\n".toList [.punct '}', .punct ')', .punct ','] := Lexes.literal
    have hparts := hopen.append ((lexes_arrayLine ck.g2.toList hg2).append
      ((lexes_arrayLine ck.gSigmaNegG2.toList hg2Sigma).append hclose))
    have hsource : commitmentSource (some ck) =
        "    vk_commitment: Some(CommitmentVerifyingKey \x7b\n" ++
        "        g2: [" ++ byteList ck.g2.toList ++ "],\n" ++
        "        g_sigma_neg_g2: [" ++ byteList ck.gSigmaNegG2.toList ++ "],\n" ++
        "    \x7d),\n" := rfl
    rw [hsource]
    simp only [String.toList_append, List.append_assoc] at hparts ⊢
    exact hparts.of_eq (by simp [commitmentTokens, fieldTokens])

theorem lexes_headerWarning (setup : SetupKind) : Lexes (headerWarning setup).toList [] := by
  cases setup with
  | production => exact Lexes.nil
  | insecureTest =>
    have h₁ : Lexes "// INSECURE TEST SETUP: the secret setup randomness is public or\n".toList [] :=
      Lexes.literal
    have h₂ : Lexes "// untrusted. Whoever knows it can make this verifying key accept a\n".toList [] :=
      Lexes.literal
    have h₃ : Lexes "// proof for any public inputs without a valid witness. Do not deploy\n".toList
        [] := Lexes.literal
    have h₄ : Lexes "// it to devnet or mainnet.\n\n".toList [] := Lexes.literal
    have hsource : headerWarning .insecureTest =
        "// INSECURE TEST SETUP: the secret setup randomness is public or\n" ++
        "// untrusted. Whoever knows it can make this verifying key accept a\n" ++
        "// proof for any public inputs without a valid witness. Do not deploy\n" ++
        "// it to devnet or mainnet.\n\n" := rfl
    rw [hsource]
    simp only [String.toList_append]
    exact ((h₁.append h₂).append h₃).append h₄

def useTokens : Option CommitmentVerifyingKey → List Token
  | some _ =>
    [kw "use", kw "groth16_solana", .punct ':', .punct ':', kw "groth16", .punct ':', .punct ':',
      .punct '{', kw "CommitmentVerifyingKey", .punct ',', kw "Groth16Verifyingkey", .punct '}',
      .punct ';']
  | none =>
    [kw "use", kw "groth16_solana", .punct ':', .punct ':', kw "groth16", .punct ':', .punct ':',
      kw "Groth16Verifyingkey", .punct ';']

theorem lexes_useSource (vkCommitment : Option CommitmentVerifyingKey) :
    Lexes (useSource vkCommitment).toList (useTokens vkCommitment) := by
  cases vkCommitment with
  | none =>
    have huse : Lexes "use groth16_solana::groth16::Groth16Verifyingkey;\n\n".toList
        (useTokens none) := Lexes.literal
    exact huse
  | some ck =>
    have huse : Lexes
        "use groth16_solana::groth16::\x7bCommitmentVerifyingKey, Groth16Verifyingkey\x7d;\n\n".toList
        [kw "use", kw "groth16_solana", .punct ':', .punct ':', kw "groth16", .punct ':',
          .punct ':', .punct '{', kw "CommitmentVerifyingKey", .punct ',',
          kw "Groth16Verifyingkey", .punct '}', .punct ';'] := Lexes.literal
    exact huse

/-- The name of the `static` that holds the rows. -/
def rowsName (constName : String) : List Char := constName.toList ++ "_VK_IC".toList

def staticTokens (constName : String) (rows : List (Bytes 64)) : List Token :=
  [kw "static", .word (rowsName constName), .punct ':', .punct '&', .punct '[', .punct '[', kw "u8",
    .punct ';', kw "64", .punct ']', .punct ']', .punct '=', .punct '&', .punct '['] ++
    rows.flatMap (fun row => arrayTokens row.toList) ++ [.punct ']', .punct ';']

def constTokens (constName : String) (vk : Groth16VerifyingkeyOwned) : List Token :=
  [kw "pub", kw "const", .word constName.toList, .punct ':', kw "Groth16Verifyingkey", .punct '=',
    kw "Groth16Verifyingkey", .punct '\x7b'] ++
    [kw "nr_pubinputs", .punct ':', .word (Nat.toDigits 10 vk.nrPubinputs), .punct ','] ++
    fieldTokens "vk_alpha_g1" vk.vkAlphaG1.toList ++ fieldTokens "vk_beta_g2" vk.vkBetaG2.toList ++
    fieldTokens "vk_gamma_g2" vk.vkGammaG2.toList ++ fieldTokens "vk_delta_g2" vk.vkDeltaG2.toList ++
    [kw "vk_ic", .punct ':', .word (rowsName constName), .punct ','] ++
    commitmentTokens vk.vkCommitment ++ [.punct '\x7d', .punct ';']

theorem lexes_vkSource (vk : Groth16VerifyingkeyOwned) {constName : String} (setup : SetupKind)
    (hname : RustIdentifier constName) :
    Lexes (vkSource vk constName setup).toList
      (useTokens vk.vkCommitment ++ staticTokens constName vk.vkIc ++ constTokens constName vk) := by
  have hheader₁ : Lexes "// This file is generated by groth16_solana::vk::gnark.\n".toList [] :=
    Lexes.literal
  have hheader₂ : Lexes "// Do not edit by hand.\n\n".toList [] := Lexes.literal
  have hstatic : Lexes "static ".toList [kw "static"] := Lexes.literal
  have hrowsName := Lexes.word hname.1 (endsWord_literal :
    endsWord "_VK_IC: &[[u8; 64]] = &[\n".toList "_VK_IC".toList
      [.punct ':', .punct '&', .punct '[', .punct '[', kw "u8", .punct ';', kw "64", .punct ']',
        .punct ']', .punct '=', .punct '&', .punct '['])
  have hrowsEnd : Lexes "];\n\n".toList [.punct ']', .punct ';'] := Lexes.literal
  have hconst : Lexes "pub const ".toList [kw "pub", kw "const"] := Lexes.literal
  have hconstName := Lexes.word hname.1 (endsWord_literal :
    endsWord ": Groth16Verifyingkey = Groth16Verifyingkey \x7b\n".toList []
      [.punct ':', kw "Groth16Verifyingkey", .punct '=', kw "Groth16Verifyingkey", .punct '\x7b'])
  have hcount : Lexes "    nr_pubinputs: ".toList [kw "nr_pubinputs", .punct ':'] := Lexes.literal
  have hcountValue := Lexes.word (isWord_toDigits vk.nrPubinputs) (endsWord_literal :
    endsWord ",\n".toList [] [.punct ','])
  have halpha : Lexes "    vk_alpha_g1: [".toList
      ([kw "vk_alpha_g1", .punct ':'] ++ [.punct '[']) := Lexes.literal
  have hbeta : Lexes "    vk_beta_g2: [".toList ([kw "vk_beta_g2", .punct ':'] ++ [.punct '[']) :=
    Lexes.literal
  have hgamma : Lexes "    vk_gamma_g2: [".toList
      ([kw "vk_gamma_g2", .punct ':'] ++ [.punct '[']) := Lexes.literal
  have hdelta : Lexes "    vk_delta_g2: [".toList
      ([kw "vk_delta_g2", .punct ':'] ++ [.punct '[']) := Lexes.literal
  have hic : Lexes "    vk_ic: ".toList [kw "vk_ic", .punct ':'] := Lexes.literal
  have hicValue := Lexes.word hname.1 (endsWord_literal :
    endsWord "_VK_IC,\n".toList "_VK_IC".toList [.punct ','])
  have hend : Lexes "\x7d;\n".toList [.punct '\x7d', .punct ';'] := Lexes.literal
  have hcountText : (toString vk.nrPubinputs).toList = Nat.toDigits 10 vk.nrPubinputs := by
    simp [Nat.toString_eq_repr]
  have hparts := hheader₁.append <| hheader₂.append <| (lexes_headerWarning setup).append <|
    (lexes_useSource vk.vkCommitment).append <| hstatic.append <| hrowsName.append <|
    (lexes_rows vk.vkIc).append <| hrowsEnd.append <| hconst.append <| hconstName.append <|
    hcount.append <|
    hcountValue.append <| (lexes_arrayLine vk.vkAlphaG1.toList halpha).append <|
    (lexes_arrayLine vk.vkBetaG2.toList hbeta).append <|
    (lexes_arrayLine vk.vkGammaG2.toList hgamma).append <|
    (lexes_arrayLine vk.vkDeltaG2.toList hdelta).append <| hic.append <| hicValue.append <|
    (lexes_commitmentSource vk.vkCommitment).append hend
  unfold vkSource
  simp only [String.toList_append, List.append_assoc, hcountText] at hparts ⊢
  exact hparts.of_eq (by simp [staticTokens, constTokens, rowsName, fieldTokens])

end Groth16Solana
