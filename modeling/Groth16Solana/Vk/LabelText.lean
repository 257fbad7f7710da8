import Groth16Solana.Vk.CircomBytes
import Groth16Solana.Vk.MetadataTokens

/-! # The warning and the guard as text

A production file holds neither the warning nor the macro of the guard, whatever the key and the name
are. A file of an insecure setup holds both. -/

set_option autoImplicit false

namespace Groth16Solana
open Foundations TokenTree

def warningStart : List Char := "// INSECURE TEST SETUP:".toList

def guardMacro : List Char := "compile_error!".toList

/-- No exclamation mark stands in the text, and no warning starts in it. -/
structure Unlabelled (text : List Char) : Prop where
  noMark : '!' ∉ text
  noWarning : Avoids warningStart text

namespace Unlabelled

variable {text text' : List Char}

theorem append (h : Unlabelled text) (h' : Unlabelled text') : Unlabelled (text ++ text') :=
  ⟨List.not_mem_append h.noMark h'.noMark, h.noWarning.append h'.noWarning⟩

theorem literal {l : List Char} (h : (!l.contains '!' && Avoids.check warningStart l) = true) :
    Unlabelled (String.ofList l).toList := by
  rw [Bool.and_eq_true, Bool.not_eq_true', List.contains_eq_mem, decide_eq_false_iff_not] at h
  rw [String.toList_ofList]
  exact ⟨h.1, Avoids.of_check h.2⟩

theorem of_notMem (hmark : '!' ∉ text) (hslash : '/' ∉ text) : Unlabelled text := by
  have hstart : warningStart = '/' :: "/ INSECURE TEST SETUP:".toList := by decide
  exact ⟨hmark, hstart ▸ Avoids.of_notMem hslash⟩

theorem word (h : IsWord text) : Unlabelled text :=
  of_notMem (notMem_of_isWord h (by decide) (by decide)) (notMem_of_isWord h (by decide) (by decide))

theorem not_warning (h : Unlabelled text) : ¬ warningStart <:+: text :=
  h.noWarning.not_infix (by decide)

theorem not_guardMacro (h : Unlabelled text) : ¬ guardMacro <:+: text := by
  intro hocc
  have hmark : '!' ∈ guardMacro := by decide
  exact h.noMark (hocc.subset hmark)

end Unlabelled

/-! ## The parts of a file -/

theorem unlabelled_byteList (bytes : List UInt8) : Unlabelled (byteList bytes).toList := by
  induction bytes using u8Tokens.induct with
  | case1 =>
    rw [byteList_nil]
    exact ⟨List.not_mem_nil, Avoids.nil⟩
  | case2 b =>
    rw [byteList_single]
    exact Unlabelled.word (isWord_u8Word b)
  | case3 b b' bytes ih =>
    have hcomma : Unlabelled ", ".toList := Unlabelled.literal rfl
    rw [byteList_cons_cons]
    exact (Unlabelled.word (isWord_u8Word b)).append (hcomma.append ih)

theorem Unlabelled.field {before behind : List Char} (h : Unlabelled before) (bytes : List UInt8)
    (h' : Unlabelled behind) : Unlabelled (before ++ ((byteList bytes).toList ++ behind)) :=
  h.append ((unlabelled_byteList bytes).append h')

theorem unlabelled_rowLines {opening : String} (hopen : Unlabelled opening.toList)
    (rows : List (List UInt8)) :
    Unlabelled (String.join (rows.map fun row => opening ++ byteList row ++ "],\n")).toList := by
  induction rows with
  | nil => exact ⟨List.not_mem_nil, Avoids.nil⟩
  | cons row rows ih =>
    have hclose : Unlabelled "],\n".toList := Unlabelled.literal rfl
    rw [List.map_cons, String.join_cons]
    simp only [String.toList_append]
    exact ((hopen.append (unlabelled_byteList row)).append hclose).append ih

theorem unlabelled_toString (n : ℕ) : Unlabelled (toString n).toList := by
  have hdigits : (toString n).toList = Nat.toDigits 10 n := by simp [Nat.toString_eq_repr]
  rw [hdigits]
  exact Unlabelled.word (isWord_toDigits n)

theorem unlabelled_useSource (vkCommitment : Option CommitmentVerifyingKey) :
    Unlabelled (useSource vkCommitment).toList := by
  cases vkCommitment with
  | none => exact Unlabelled.literal rfl
  | some ck => exact Unlabelled.literal rfl

theorem unlabelled_commitmentSource (vkCommitment : Option CommitmentVerifyingKey) :
    Unlabelled (commitmentSource vkCommitment).toList := by
  cases vkCommitment with
  | none => exact Unlabelled.literal rfl
  | some ck =>
    have hopen : Unlabelled "    vk_commitment: Some(CommitmentVerifyingKey \x7b\n".toList :=
      Unlabelled.literal rfl
    have hg2 : Unlabelled "        g2: [".toList := Unlabelled.literal rfl
    have hgSigma : Unlabelled "        g_sigma_neg_g2: [".toList := Unlabelled.literal rfl
    have hclose : Unlabelled "],\n".toList := Unlabelled.literal rfl
    have hend : Unlabelled "    \x7d),\n".toList := Unlabelled.literal rfl
    have hparts := hopen.append <| (hg2.field ck.g2.toList hclose).append <|
      (hgSigma.field ck.gSigmaNegG2.toList hclose).append hend
    unfold commitmentSource
    simp only [String.toList_append, List.append_assoc] at hparts ⊢
    exact hparts

theorem unlabelled_vkSource (vk : Groth16VerifyingkeyOwned) {constName : String}
    (hname : RustIdentifier constName) :
    Unlabelled (vkSource vk constName .production).toList := by
  have hword := Unlabelled.word hname.1
  have hheader₁ : Unlabelled "// This file is generated by groth16_solana::vk::gnark.\n".toList :=
    Unlabelled.literal rfl
  have hheader₂ : Unlabelled "// Do not edit by hand.\n\n".toList := Unlabelled.literal rfl
  have hwarning : Unlabelled (headerWarning .production).toList := Unlabelled.literal rfl
  have hstatic : Unlabelled "static ".toList := Unlabelled.literal rfl
  have hrowsOpen : Unlabelled "_VK_IC: &[[u8; 64]] = &[\n".toList := Unlabelled.literal rfl
  have hrowOpen : Unlabelled "    [".toList := Unlabelled.literal rfl
  have hrows := unlabelled_rowLines hrowOpen (vk.vkIc.map Vector.toList)
  have hrowsEnd : Unlabelled "];\n\n".toList := Unlabelled.literal rfl
  have hconst : Unlabelled "pub const ".toList := Unlabelled.literal rfl
  have htype : Unlabelled ": Groth16Verifyingkey = Groth16Verifyingkey \x7b\n".toList :=
    Unlabelled.literal rfl
  have hcount : Unlabelled "    nr_pubinputs: ".toList := Unlabelled.literal rfl
  have hcountEnd : Unlabelled ",\n".toList := Unlabelled.literal rfl
  have halpha : Unlabelled "    vk_alpha_g1: [".toList := Unlabelled.literal rfl
  have hbeta : Unlabelled "    vk_beta_g2: [".toList := Unlabelled.literal rfl
  have hgamma : Unlabelled "    vk_gamma_g2: [".toList := Unlabelled.literal rfl
  have hdelta : Unlabelled "    vk_delta_g2: [".toList := Unlabelled.literal rfl
  have hclose : Unlabelled "],\n".toList := Unlabelled.literal rfl
  have hic : Unlabelled "    vk_ic: ".toList := Unlabelled.literal rfl
  have hicEnd : Unlabelled "_VK_IC,\n".toList := Unlabelled.literal rfl
  have hend : Unlabelled "\x7d;\n".toList := Unlabelled.literal rfl
  rw [List.map_map] at hrows
  have hparts := hheader₁.append <| hheader₂.append <| hwarning.append <|
    (unlabelled_useSource vk.vkCommitment).append <| hstatic.append <| hword.append <|
    hrowsOpen.append <| Unlabelled.append hrows <| hrowsEnd.append <| hconst.append <|
    hword.append <| htype.append <| hcount.append <|
    (unlabelled_toString vk.nrPubinputs).append <| hcountEnd.append <|
    (halpha.field vk.vkAlphaG1.toList hclose).append <|
    (hbeta.field vk.vkBetaG2.toList hclose).append <|
    (hgamma.field vk.vkGammaG2.toList hclose).append <|
    (hdelta.field vk.vkDeltaG2.toList hclose).append <| hic.append <| hword.append <|
    hicEnd.append <| (unlabelled_commitmentSource vk.vkCommitment).append hend
  unfold vkSource
  simp only [String.toList_append, List.append_assoc] at hparts ⊢
  exact hparts

theorem unlabelled_circomSource (key : CircomKey) :
    Unlabelled (circomSource key .production).toList := by
  have hheader₁ : Unlabelled "// This file is generated by groth16_solana::vk::circom.\n".toList :=
    Unlabelled.literal rfl
  have hheader₂ : Unlabelled "// Do not edit by hand.\n\n".toList := Unlabelled.literal rfl
  have hwarning : Unlabelled (headerWarning .production).toList := Unlabelled.literal rfl
  have huse : Unlabelled "use groth16_solana::groth16::Groth16Verifyingkey;\n\n".toList :=
    Unlabelled.literal rfl
  have hskip : Unlabelled "#[rustfmt::skip]\n".toList := Unlabelled.literal rfl
  have hconst : Unlabelled
      "pub const VERIFYINGKEY: Groth16Verifyingkey = Groth16Verifyingkey \x7b\n".toList :=
        Unlabelled.literal rfl
  have hcount : Unlabelled "\tnr_pubinputs: ".toList := Unlabelled.literal rfl
  have hcountEnd : Unlabelled ",\n\n".toList := Unlabelled.literal rfl
  have halpha : Unlabelled "\tvk_alpha_g1: [".toList := Unlabelled.literal rfl
  have hbeta : Unlabelled "\tvk_beta_g2: [".toList := Unlabelled.literal rfl
  have hgamma : Unlabelled "\tvk_gamma_g2: [".toList := Unlabelled.literal rfl
  have hdelta : Unlabelled "\tvk_delta_g2: [".toList := Unlabelled.literal rfl
  have hclose : Unlabelled "],\n\n".toList := Unlabelled.literal rfl
  have hic : Unlabelled "\tvk_ic: &[\n".toList := Unlabelled.literal rfl
  have hrowOpen : Unlabelled "\t\t[".toList := Unlabelled.literal rfl
  have hrows := unlabelled_rowLines hrowOpen key.icBytes
  have hicEnd : Unlabelled "\t],\n\n".toList := Unlabelled.literal rfl
  have hcommitment : Unlabelled "\tvk_commitment: None,\n".toList := Unlabelled.literal rfl
  have hend : Unlabelled "\x7d;\n".toList := Unlabelled.literal rfl
  have hparts := hheader₁.append <| hheader₂.append <| hwarning.append <| huse.append <|
    hskip.append <| hconst.append <| hcount.append <|
    (unlabelled_toString key.nrPubinputs).append <| hcountEnd.append <|
    (halpha.field key.alphaBytes hclose).append <| (hbeta.field key.betaBytes hclose).append <|
    (hgamma.field key.gammaBytes hclose).append <| (hdelta.field key.deltaBytes hclose).append <|
    hic.append <| hrows.append <| hicEnd.append <| hcommitment.append hend
  unfold circomSource
  simp only [String.toList_append, List.append_assoc] at hparts ⊢
  exact hparts

theorem unlabelled_digestSource {constName : String} (digest : List UInt8)
    (hname : RustIdentifier constName) :
    Unlabelled (digestSource constName (byteList digest)).toList := by
  have hcomment : Unlabelled
      "\n/// SHA-256 of the proving key file this verifying key was generated with.\n".toList :=
        Unlabelled.literal rfl
  have hattributes : Unlabelled "#[allow(dead_code)]\n#[rustfmt::skip]\n".toList := Unlabelled.literal rfl
  have hconst : Unlabelled "pub const ".toList := Unlabelled.literal rfl
  have htype : Unlabelled "_PROVING_KEY_SHA256: [u8; 32] = [".toList := Unlabelled.literal rfl
  have hclose : Unlabelled "];\n".toList := Unlabelled.literal rfl
  have hparts := hcomment.append <| hattributes.append <| hconst.append <|
    (Unlabelled.word hname.1).append <| htype.append <| (unlabelled_byteList digest).append hclose
  unfold digestSource
  simp only [String.toList_append, List.append_assoc] at hparts ⊢
  exact hparts

theorem unlabelled_flagSource {constName : String} (insecure : Bool)
    (hname : RustIdentifier constName) :
    Unlabelled (flagSource constName insecure).toList := by
  have hcomment₁ : Unlabelled
      "\n/// `true` for a test setup whose secret randomness is public or untrusted:\n".toList :=
        Unlabelled.literal rfl
  have hcomment₂ :
      Unlabelled "/// whoever knows it can make this key accept a proof for any public\n".toList :=
    Unlabelled.literal rfl
  have hcomment₃ :
      Unlabelled "/// inputs without a valid witness. Must not be deployed to devnet or\n".toList :=
    Unlabelled.literal rfl
  have hcomment₄ : Unlabelled "/// mainnet.\n".toList := Unlabelled.literal rfl
  have hattribute : Unlabelled "#[allow(dead_code)]\n".toList := Unlabelled.literal rfl
  have hconst : Unlabelled "pub const ".toList := Unlabelled.literal rfl
  have htype : Unlabelled "_INSECURE_TEST_SETUP: bool = ".toList := Unlabelled.literal rfl
  have hclose : Unlabelled ";\n".toList := Unlabelled.literal rfl
  have hparts := hcomment₁.append <| hcomment₂.append <| hcomment₃.append <| hcomment₄.append <|
    hattribute.append <| hconst.append <| (Unlabelled.word hname.1).append <| htype.append <|
    (Unlabelled.word (isWord_boolText insecure)).append hclose
  unfold flagSource
  simp only [String.toList_append, List.append_assoc] at hparts ⊢
  exact hparts

theorem unlabelled_markerLiteral {txt : SetupTxt} (hname : IsWord txt.name.toList) :
    Unlabelled (String.ofList (escapeNul txt.toMarker.toList)).toList := by
  have hmarker {c : Char} (hc : ¬ isWordChar c) (hother : c ∉ ['=', ' ', '\x00']) (hraw : c ≠ '#') :
      c ∉ txt.toMarker.toList := by
    have hall := forall_mem_toMarker (p := fun d => d ≠ c) (fun d hd heq => hc (heq ▸ hd))
      (fun d hd heq => hother (heq ▸ hd))
      (fun d hd => ne_of_mem_of_not_mem hd (notMem_of_isWord hname hc hraw))
    exact fun hmem => hall c hmem rfl
  rw [String.toList_ofList]
  have hmark := hmarker (c := '!') (by decide) (by decide) (by decide)
  have hslash := hmarker (c := '/') (by decide) (by decide) (by decide)
  exact Unlabelled.of_notMem (notMem_escapeNul (by decide) hmark) (notMem_escapeNul (by decide) hslash)

theorem unlabelled_markerSource {constName symbol markerLiteral : String}
    (hname : RustIdentifier constName) (hsymbol : ∀ c ∈ symbol.toList, isWordChar c)
    (hmarker : Unlabelled markerLiteral.toList) :
    Unlabelled (markerSource constName symbol markerLiteral).toList := by
  have hcomment₁ : Unlabelled
      "\n/// The two consts above as a delimited string, exported so it stays in\n".toList :=
        Unlabelled.literal rfl
  have hcomment₂ : Unlabelled "/// the program binary; read it back with\n".toList :=
    Unlabelled.literal rfl
  have hcomment₃ : Unlabelled "/// `groth16_solana::vk::setup::find_setup_txts`.\n".toList :=
    Unlabelled.literal rfl
  have hexport : Unlabelled "#[unsafe(export_name = \"".toList := Unlabelled.literal rfl
  have hsymbolText : Unlabelled symbol.toList :=
    Unlabelled.of_notMem (fun hmem => absurd (hsymbol _ hmem) (by decide))
      (fun hmem => absurd (hsymbol _ hmem) (by decide))
  have hexportEnd : Unlabelled "\")]\n".toList := Unlabelled.literal rfl
  have hskip : Unlabelled "#[rustfmt::skip]\n".toList := Unlabelled.literal rfl
  have hstatic : Unlabelled "pub static ".toList := Unlabelled.literal rfl
  have htype : Unlabelled "_SETUP_TXT: &str = \"".toList := Unlabelled.literal rfl
  have hclose : Unlabelled "\";\n".toList := Unlabelled.literal rfl
  have hparts := hcomment₁.append <| hcomment₂.append <| hcomment₃.append <| hexport.append <|
    hsymbolText.append <| hexportEnd.append <| hskip.append <| hstatic.append <|
    (Unlabelled.word hname.1).append <| htype.append <| hmarker.append hclose
  unfold markerSource
  simp only [String.toList_append, List.append_assoc] at hparts ⊢
  exact hparts

theorem unlabelled_metadataRustSource (vkSource : String) {constName : String}
    (provingKeySha256 : Bytes 32) (hname : RustIdentifier constName) :
    Unlabelled (metadataRustSource vkSource constName .production provingKeySha256).toList := by
  have hmarker (txt : SetupTxt) (htxt : IsWord txt.name.toList) := unlabelled_markerSource hname
    (isWordChar_of_mem_exportSymbol vkSource txt.toMarker) (unlabelled_markerLiteral htxt)
  have hempty : Unlabelled "".toList := Unlabelled.literal rfl
  unfold metadataRustSource
  simp only [String.toList_append]
  exact (((unlabelled_digestSource _ hname).append (unlabelled_flagSource _ hname)).append
    (hmarker _ hname.1)).append hempty

/-! ## Insecure files -/

theorem warning_headerWarning : warningStart <:+: (headerWarning .insecureTest).toList := by
  have hliteral {l : List Char} (h : warningStart <+: l) :
      warningStart <+: (String.ofList l).toList := by
    rwa [String.toList_ofList]
  have hline : warningStart <+:
      "// INSECURE TEST SETUP: the secret setup randomness is public or\n".toList :=
    hliteral (by decide)
  have hlines (s₁ s₂ s₃ s₄ : String) (h : warningStart <+: s₁.toList) :
      warningStart <+: (s₁ ++ s₂ ++ s₃ ++ s₄).toList := by
    rw [String.toList_append, String.toList_append, String.toList_append, List.append_assoc,
      List.append_assoc]
    exact h.trans (List.prefix_append _ _)
  exact (hlines _ _ _ _ hline).isInfix

/-- The warning is the third part of a file. -/
theorem warning_thirdPart (part₁ part₂ rest : List Char) :
    warningStart <:+: part₁ ++ (part₂ ++ ((headerWarning .insecureTest).toList ++ rest)) := by
  refine warning_headerWarning.trans ?_
  rw [← List.append_assoc, ← List.append_assoc]
  exact List.infix_append _ _ _

theorem warning_vkSource (vk : Groth16VerifyingkeyOwned) (constName : String) :
    warningStart <:+: (vkSource vk constName .insecureTest).toList := by
  unfold vkSource
  simp only [String.toList_append, List.append_assoc]
  exact warning_thirdPart _ _ _

theorem warning_circomSource (key : CircomKey) :
    warningStart <:+: (circomSource key .insecureTest).toList := by
  unfold circomSource
  simp only [String.toList_append, List.append_assoc]
  exact warning_thirdPart _ _ _

theorem guardMacro_metadataRustSource (vkSource constName : String) (provingKeySha256 : Bytes 32) :
    guardMacro <:+: (metadataRustSource vkSource constName .insecureTest provingKeySha256).toList := by
  have hguard : guardMacro <:+: (compileGuard constName).toList := by
    have hmacro : guardMacro <:+: "compile_error!(\"".toList := by decide
    refine hmacro.trans ?_
    unfold compileGuard
    simp only [String.toList_append, List.append_assoc]
    exact List.infix_append' _ _ _
  refine hguard.trans ?_
  unfold metadataRustSource
  simp only [String.toList_append]
  exact (List.suffix_append _ _).isInfix

end Groth16Solana
