import Groth16Solana.Vk.SetupLabel

/-! # The bytes an exported symbol is hashed from

They are a source text and a marker with nothing in between. A marker shows where it starts, and the text
is read back as its key. -/

set_option autoImplicit false

namespace Groth16Solana
open Foundations TokenTree

/-- What `metadata_rust_source` feeds to SHA-256. -/
def symbolPreimage (vk : Groth16VerifyingkeyOwned) (constName : String) (setup : SetupKind)
    (provingKeySha256 : Bytes 32) : List UInt8 :=
  asBytes (vkSource vk constName setup) ++
    asBytes (fileTxt constName setup provingKeySha256).toMarker

/-- The attribute that exports the marker under the name hashed from `preimage`. -/
def exportAttribute (preimage : List UInt8) : String :=
  "#[unsafe(export_name = \"" ++ symbolName (toHex (sha256 preimage).toList) ++ "\")]\n"

/-! ## Splitting the bytes -/

theorem asBytes_injective : Function.Injective asBytes := by
  intro s t h
  have hread := fromUtf8_eq_some_iff.mpr h
  rw [fromUtf8_eq_some_iff.mpr rfl] at hread
  exact (Option.some.inj hread).symm

theorem toMarker_pos (txt : SetupTxt) : 0 < (asBytes txt.toMarker).length := by
  rw [asBytes_toMarker]
  simp

/-- A marker that ends in a marker is that marker. -/
theorem eq_nil_of_toMarker_append {txt txt' : SetupTxt} {front : List UInt8} (hname : txt.WellNamed)
    (h : asBytes txt.toMarker = front ++ asBytes txt'.toMarker) : front = [] := by
  by_contra hne
  have hlt := List.length_pos_iff.mpr hne
  have hoccurs : txt.OccursAt (asBytes txt.toMarker) 0 := List.prefix_rfl
  have hoccurs' : txt'.OccursAt (asBytes txt.toMarker) front.length := by
    rw [SetupTxt.OccursAt, h, List.drop_left]
  have hdisjoint := hoccurs.disjoint hname hoccurs' hlt
  have hlen := congrArg List.length h
  have hpos := toMarker_pos txt'
  rw [List.length_append] at hlen
  omega

/-- Bytes in front of a marker end where the marker starts. -/
theorem append_toMarker_inj {txt txt' : SetupTxt} {front front' : List UInt8} (hname : txt.WellNamed)
    (hname' : txt'.WellNamed)
    (h : front ++ asBytes txt.toMarker = front' ++ asBytes txt'.toMarker) :
    front = front' ∧ asBytes txt.toMarker = asBytes txt'.toMarker := by
  rcases List.append_eq_append_iff.mp h with ⟨middle, rfl, hmarker⟩ | ⟨middle, rfl, hmarker⟩
  · obtain rfl := eq_nil_of_toMarker_append hname hmarker
    exact ⟨(List.append_nil front).symm, hmarker⟩
  · obtain rfl := eq_nil_of_toMarker_append hname' hmarker
    exact ⟨List.append_nil front', hmarker.symm⟩

/-- A marker is read as what it was written for. -/
theorem toMarker_inj {txt txt' : SetupTxt} (hname : txt.WellNamed) (hname' : txt'.WellNamed)
    (h : asBytes txt.toMarker = asBytes txt'.toMarker) : txt = txt' := by
  rw [asBytes_toMarker, asBytes_toMarker, List.cons_append, List.cons_append, terminated_cons,
    terminated_cons, List.append_cancel_left_eq, List.cons.injEq, terminated_append, terminated_append,
    List.append_cancel_right_eq] at h
  have hread : parseBody (terminated 0 txt.bodyBytes) 0 = .ok txt := parseBody_bodyBytes hname
  rw [h.2, parseBody_bodyBytes hname'] at hread
  exact (Except.ok.inj hread).symm

/-! ## Reading the source -/

theorem HoldsItems.unique {text : List Char} {items items' : List (List TokenTree)}
    (hfree : SemicolonFree items) (hfree' : SemicolonFree items') (h : HoldsItems text items)
    (h' : HoldsItems text items') : items = items' := by
  obtain ⟨tokens, hlex, hgroups⟩ := h
  obtain ⟨tokens', hlex', hgroups'⟩ := h'
  obtain ⟨-, rfl⟩ := Prod.mk.inj (hlex.symm.trans hlex')
  have htrees := (groupTokens_eq hgroups).symm.trans (groupTokens_eq hgroups')
  rw [← pieces_itemTrees hfree, ← pieces_itemTrees hfree', Option.some.inj htrees]

theorem arrayTree_inj {n : ℕ} {bytes bytes' : Bytes n}
    (h : arrayTree bytes.toList = arrayTree bytes'.toList) : bytes = bytes' := by
  have hread := congrArg (fun tree => readBytes n [tree]) h
  have hread' : some bytes = some bytes' :=
    (readBytes_u8Trees bytes).symm.trans (hread.trans (readBytes_u8Trees bytes'))
  exact Option.some.inj hread'

theorem staticTrees_inj {constName : String} {rows rows' : List (Bytes 64)}
    (h : staticTrees constName rows = staticTrees constName rows') : rows = rows' := by
  have hitem := congrArg readItem h
  rw [readItem_staticTrees, readItem_staticTrees] at hitem
  have hvalue := congrArg (fun item => readRowList item.value) (Option.some.inj hitem)
  simp only [readRowList_rowTrees] at hvalue
  exact Option.some.inj hvalue

theorem constTrees_inj {constName : String} {vk vk' : Groth16VerifyingkeyOwned}
    (h : constTrees constName vk = constTrees constName vk') :
    keyFields constName vk = keyFields constName vk' := by
  have hitem := congrArg readItem h
  rw [readItem_constTrees, readItem_constTrees] at hitem
  have hvalue := congrArg (fun item => readRecord "Groth16Verifyingkey" item.value)
    (Option.some.inj hitem)
  simp only [readRecord_keyFields] at hvalue
  exact Option.some.inj hvalue

/-- Equal items hold equal keys: each part is read back as itself. -/
theorem keyItems_inj {constName : String} {vk vk' : Groth16VerifyingkeyOwned}
    (h : keyItems constName vk = keyItems constName vk') : vk = vk' := by
  obtain ⟨nrPubinputs, alpha, beta, gamma, delta, rows, key⟩ := vk
  obtain ⟨nrPubinputs', alpha', beta', gamma', delta', rows', key'⟩ := vk'
  simp only [keyItems, List.cons.injEq, and_true] at h
  obtain ⟨-, hstatic, hconst⟩ := h
  obtain rfl := staticTrees_inj hstatic
  have hfields := constTrees_inj hconst
  simp only [keyFields, List.cons.injEq, Prod.mk.injEq, true_and, and_true] at hfields
  obtain ⟨hcount, halpha, hbeta, hgamma, hdelta, hkey⟩ := hfields
  have hdigits := congrArg decimal (Token.word.inj (TokenTree.leaf.inj hcount))
  rw [decimal_toDigits, decimal_toDigits] at hdigits
  have hcommitment := congrArg (readOption [] readCommitmentKey) hkey
  rw [readOption_commitmentValue, readOption_commitmentValue, if_neg (by simp [bindsName_nil]),
    if_neg (by simp [bindsName_nil])] at hcommitment
  rw [Option.some.inj hdigits, arrayTree_inj halpha, arrayTree_inj hbeta, arrayTree_inj hgamma,
    arrayTree_inj hdelta, Option.some.inj hcommitment]

theorem vkSource_inj {vk vk' : Groth16VerifyingkeyOwned} {constName : String} {setup : SetupKind}
    (hname : RustIdentifier constName) (h : vkSource vk constName setup = vkSource vk' constName setup) :
    vk = vk' := by
  have hholds := holdsItems_vkSource vk setup hname
  rw [h] at hholds
  exact keyItems_inj (hholds.unique (otherItems_keyItems constName vk).free
    (otherItems_keyItems constName vk').free (holdsItems_vkSource vk' setup hname))

/-! ## The preimage -/

theorem decide_insecure_inj {setup setup' : SetupKind}
    (h : decide (setup = .insecureTest) = decide (setup' = .insecureTest)) : setup = setup' := by
  cases setup <;> cases setup' <;> simp_all

theorem symbolPreimage_inj {vk vk' : Groth16VerifyingkeyOwned} {constName constName' : String}
    {setup setup' : SetupKind} {provingKeySha256 provingKeySha256' : Bytes 32}
    (hname : RustIdentifier constName) (hname' : RustIdentifier constName')
    (h : symbolPreimage vk constName setup provingKeySha256 =
      symbolPreimage vk' constName' setup' provingKeySha256') :
    vk = vk' ∧ constName = constName' ∧ setup = setup' ∧ provingKeySha256 = provingKeySha256' := by
  have hwell : (fileTxt constName setup provingKeySha256).WellNamed := wellNamed_fileTxt hname
  have hwell' : (fileTxt constName' setup' provingKeySha256').WellNamed := wellNamed_fileTxt hname'
  obtain ⟨hsource, hmarker⟩ := append_toMarker_inj hwell hwell' h
  obtain ⟨rfl, hsetup, rfl⟩ := SetupTxt.mk.inj (toMarker_inj hwell hwell' hmarker)
  obtain rfl := decide_insecure_inj hsetup
  exact ⟨vkSource_inj hname (asBytes_injective hsource), rfl, rfl, rfl⟩

/-- The attribute is what follows the three comment lines. -/
theorem infix_afterComments (line₁ line₂ line₃ opening symbol closing rest : List Char) :
    opening ++ (symbol ++ closing) <:+:
      line₁ ++ (line₂ ++ (line₃ ++ (opening ++ (symbol ++ (closing ++ rest))))) :=
  ⟨line₁ ++ line₂ ++ line₃, rest, by simp only [List.append_assoc]⟩

theorem exportAttribute_markerSource (preimage : List UInt8) (constName markerLiteral : String) :
    (exportAttribute preimage).toList <:+:
      (markerSource constName (symbolName (toHex (sha256 preimage).toList)) markerLiteral).toList := by
  unfold markerSource exportAttribute
  generalize symbolName (toHex (sha256 preimage).toList) = symbol
  simp only [String.toList_append, List.append_assoc]
  exact infix_afterComments _ _ _ _ _ _ _

/-- A generated file exports its marker under the name hashed from the preimage. -/
theorem exportAttribute_of_ok {vk : Groth16VerifyingkeyOwned} {constName source : String}
    {setup : SetupKind} {provingKeySha256 : Bytes 32}
    (h : bsb22VkToRustConst vk constName setup provingKeySha256 = .ok source) :
    (exportAttribute (symbolPreimage vk constName setup provingKeySha256)).toList <:+:
      source.toList := by
  unfold bsb22VkToRustConst at h
  split at h
  next => cases h
  next =>
    obtain rfl := Except.ok.inj h
    refine (exportAttribute_markerSource _ constName (String.ofList (escapeNul
      (fileTxt constName setup provingKeySha256).toMarker.toList))).trans ?_
    unfold metadataRustSource
    rw [String.toList_append, String.toList_append, String.toList_append]
    exact (List.infix_append _ _ _).trans (List.suffix_append _ _).isInfix

/-! ## The name -/

theorem take_toHex (n : ℕ) (bytes : List UInt8) :
    (toHex bytes).toList.take (2 * n) = (toHex (bytes.take n)).toList := by
  simp only [toHex, String.toList_ofList]
  induction bytes generalizing n with
  | nil => simp
  | cons b bytes ih =>
    cases n with
    | zero => simp
    | succ n =>
      have hdigits : (hexByte b).length = 2 := rfl
      rw [List.take_succ_cons, List.flatMap_cons, List.flatMap_cons, ← ih, Nat.mul_succ, Nat.add_comm,
        List.take_append, hdigits, Nat.add_sub_cancel_left, List.take_of_length_le (by omega)]

theorem toHex_injective : Function.Injective toHex := by
  intro bytes bytes' h
  have hdigits := hexBytes_toHex bytes
  rw [h] at hdigits
  exact hdigits.unique (hexBytes_toHex bytes')

/-- The name keeps eight bytes of the hash. -/
theorem hash_of_exportAttribute {preimage preimage' : List UInt8}
    (h : exportAttribute preimage = exportAttribute preimage') :
    (sha256 preimage).toList.take 8 = (sha256 preimage').toList.take 8 := by
  have htext := congrArg String.toList h
  unfold exportAttribute symbolName at htext
  simp only [String.toList_append, String.toList_ofList, List.append_cancel_left_eq,
    List.append_cancel_right_eq] at htext
  have hhex : (toHex ((sha256 preimage).toList.take 8)).toList =
      (toHex ((sha256 preimage').toList.take 8)).toList := by
    rw [← take_toHex, ← take_toHex]
    exact htext
  exact toHex_injective (String.toList_injective hhex)

/-- Two calls hash the same bytes only for the same key, name, setup and digest. Calls for different keys
export one name only if the hashes of different bytes begin alike. -/
theorem exported_symbol_identifies {vk vk' : Groth16VerifyingkeyOwned}
    {constName constName' source source' : String} {setup setup' : SetupKind}
    {provingKeySha256 provingKeySha256' : Bytes 32} (hname : RustIdentifier constName)
    (hname' : RustIdentifier constName')
    (hsource : bsb22VkToRustConst vk constName setup provingKeySha256 = .ok source)
    (hsource' : bsb22VkToRustConst vk' constName' setup' provingKeySha256' = .ok source') :
    (exportAttribute (symbolPreimage vk constName setup provingKeySha256)).toList <:+:
        source.toList ∧
      (exportAttribute (symbolPreimage vk' constName' setup' provingKeySha256')).toList <:+:
        source'.toList ∧
      (symbolPreimage vk constName setup provingKeySha256 =
          symbolPreimage vk' constName' setup' provingKeySha256' →
        vk = vk' ∧ constName = constName' ∧ setup = setup' ∧
          provingKeySha256 = provingKeySha256') ∧
      (vk ≠ vk' → exportAttribute (symbolPreimage vk constName setup provingKeySha256) =
          exportAttribute (symbolPreimage vk' constName' setup' provingKeySha256') →
        symbolPreimage vk constName setup provingKeySha256 ≠
            symbolPreimage vk' constName' setup' provingKeySha256' ∧
          (sha256 (symbolPreimage vk constName setup provingKeySha256)).toList.take 8 =
            (sha256 (symbolPreimage vk' constName' setup' provingKeySha256')).toList.take 8) := by
  refine ⟨exportAttribute_of_ok hsource, exportAttribute_of_ok hsource', ?_, ?_⟩
  · exact symbolPreimage_inj hname hname'
  · intro hne hsymbol
    exact ⟨fun heq => hne (symbolPreimage_inj hname hname' heq).1, hash_of_exportAttribute hsymbol⟩

/-- The sample key with another `δ`. -/
def resetupVk : Groth16VerifyingkeyOwned := { sampleVk with vkDeltaG2 := Vector.replicate 128 10 }

theorem exported_symbol_identifies_sample :
    symbolPreimage sampleVk "VERIFYINGKEY" .insecureTest (Bytes.zero 32) ≠
      symbolPreimage resetupVk "VERIFYINGKEY" .insecureTest (Bytes.zero 32) := by
  have hsource : bsb22VkToRustConst sampleVk "VERIFYINGKEY" .insecureTest (Bytes.zero 32) = .ok _ :=
    if_neg fun hforgeable => absurd hforgeable.1 (by decide)
  have hsource' : bsb22VkToRustConst resetupVk "VERIFYINGKEY" .insecureTest (Bytes.zero 32) = .ok _ :=
    if_neg fun hforgeable => absurd hforgeable.1 (by decide)
  have hidentifies := exported_symbol_identifies rustIdentifier_verifyingkey rustIdentifier_verifyingkey
    hsource hsource'
  intro heq
  have hdelta := congrArg (fun vk => vk.vkDeltaG2[0]) (hidentifies.2.2.1 heq).1
  exact absurd hdelta (by decide)

end Groth16Solana
