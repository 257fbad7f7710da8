import Groth16Solana.Vk.ConstTokens
import Groth16Solana.Vk.Markers

/-! # The tokens of the metadata items

The items behind the key are whole tokens in balanced groups, so a reader of the file gets past them.
Two of them hold text of the caller in a string literal: the marker, with its NULs escaped, and the
name in the message of the guard. -/

set_option autoImplicit false

namespace Groth16Solana
open Foundations TokenTree

/-! ## Text that stands for itself -/

/-- A string literal may hold the text as it is. -/
def PlainText (text : List Char) : Prop := ∀ c ∈ text, isPlainChar c

theorem PlainText.append {text text' : List Char} (h : PlainText text) (h' : PlainText text') :
    PlainText (text ++ text') :=
  List.forall_mem_append.mpr ⟨h, h'⟩

theorem PlainText.literal {l : List Char} (h : l.all isPlainChar) :
    PlainText (String.ofList l).toList := by
  rw [PlainText, String.toList_ofList]
  exact List.all_eq_true.mp h

theorem isPlainChar_of_isWordChar {c : Char} (h : isWordChar c) : isPlainChar c := by
  rw [isPlainChar, Bool.and_eq_true, bne_iff_ne, bne_iff_ne]
  constructor
  · rintro rfl
    exact absurd h (by decide)
  · rintro rfl
    exact absurd h (by decide)

theorem plainText_of_isWord {w : List Char} (h : IsWord w) : PlainText w := by
  intro c hc
  have hquote := ne_of_mem_of_not_mem hc (notMem_of_isWord (c := '"') h (by decide) (by decide))
  have hbackslash := ne_of_mem_of_not_mem hc (notMem_of_isWord (c := '\\') h (by decide) (by decide))
  rw [isPlainChar, Bool.and_eq_true, bne_iff_ne, bne_iff_ne]
  exact ⟨hquote, hbackslash⟩

theorem isWordChar_of_mem_toHex {bytes : List UInt8} {c : Char} (h : c ∈ (toHex bytes).toList) :
    isWordChar c := by
  have hdigit : ∀ n < 16, isWordChar (Nat.digitChar n) := by decide
  rw [toHex, String.toList_ofList, List.mem_flatMap] at h
  obtain ⟨b, -, hc⟩ := h
  have hb := b.toNat_lt
  obtain rfl | rfl := List.mem_pair.mp hc
  · exact hdigit _ (by omega)
  · exact hdigit _ (by omega)

theorem isWord_boolText (b : Bool) : IsWord (boolText b).toList := by
  cases b with
  | false => exact ⟨'f', "alse".toList, List.all_eq_true.mp (by decide), Or.inl (by decide)⟩
  | true => exact ⟨'t', "rue".toList, List.all_eq_true.mp (by decide), Or.inl (by decide)⟩

/-- Around its name a marker has word characters and three others. -/
theorem forall_mem_toMarker {p : Char → Prop} {txt : SetupTxt} (hword : ∀ c, isWordChar c → p c)
    (hother : ∀ c ∈ ['=', ' ', '\x00'], p c) (hname : ∀ c ∈ txt.name.toList, p c) :
    ∀ c ∈ txt.toMarker.toList, p c := by
  have hliteral {l : List Char} (hl : l.all fun c => isWordChar c || ['=', ' ', '\x00'].contains c) :
      ∀ c ∈ (String.ofList l).toList, p c := by
    intro c hc
    rw [String.toList_ofList] at hc
    have hcase := List.all_eq_true.mp hl c hc
    rw [Bool.or_eq_true, List.contains_iff_mem] at hcase
    exact hcase.elim (hword c) (hother c)
  have hflag : ∀ c ∈ (boolText txt.insecureTestSetup).toList, p c := by
    cases txt.insecureTestSetup with
    | false => exact hliteral (by decide)
    | true => exact hliteral (by decide)
  have hdigits : ∀ c ∈ (toHex txt.provingKeySha256.toList).toList, p c :=
    fun c hc => hword c (isWordChar_of_mem_toHex hc)
  have hbegin : ∀ c ∈ setupTxtBegin.toList, p c := hliteral (by decide)
  have hend : ∀ c ∈ setupTxtEnd.toList, p c := hliteral (by decide)
  have hzero : ∀ c ∈ "\x00".toList, p c := hliteral (by decide)
  have hkey₁ : ∀ c ∈ fieldName.toList, p c := hliteral (by decide)
  have hkey₂ : ∀ c ∈ fieldInsecureTestSetup.toList, p c := hliteral (by decide)
  have hkey₃ : ∀ c ∈ fieldProvingKeySha256.toList, p c := hliteral (by decide)
  unfold SetupTxt.toMarker
  simp only [String.toList_append, List.forall_mem_append]
  exact ⟨⟨⟨⟨⟨⟨⟨⟨⟨⟨⟨⟨⟨hbegin, hkey₁⟩, hzero⟩, hname⟩, hzero⟩, hkey₂⟩, hzero⟩, hflag⟩, hzero⟩, hkey₃⟩,
    hzero⟩, hdigits⟩, hzero⟩, hend⟩

theorem plainText_toMarker {txt : SetupTxt} (hname : PlainText txt.name.toList) :
    PlainText txt.toMarker.toList :=
  forall_mem_toMarker (fun _ => isPlainChar_of_isWordChar) (List.all_eq_true.mp (by decide)) hname

/-! ## The items -/

/-- `#[..]`. -/
def attributeTokens (inner : List Token) : List Token :=
  [.punct '#', .punct '['] ++ inner ++ [.punct ']']

def deadCodeTokens : List Token :=
  attributeTokens [kw "allow", .punct '(', kw "dead_code", .punct ')']

def rustfmtSkipTokens : List Token :=
  attributeTokens [kw "rustfmt", .punct ':', .punct ':', kw "skip"]

def digestTokens (constName : String) (digest : List UInt8) : List Token :=
  deadCodeTokens ++ rustfmtSkipTokens ++
    [kw "pub", kw "const", .word (constName.toList ++ "_PROVING_KEY_SHA256".toList), .punct ':',
      .punct '[', kw "u8", .punct ';', kw "32", .punct ']', .punct '=', .punct '['] ++
    u8Tokens digest ++ [.punct ']', .punct ';']

theorem lexes_digestSource {constName : String} (digest : List UInt8)
    (hname : RustIdentifier constName) :
    Lexes (digestSource constName (byteList digest)).toList (digestTokens constName digest) := by
  have hcomment : Lexes
      "\n/// SHA-256 of the proving key file this verifying key was generated with.\n".toList [] :=
        Lexes.literal
  have hattributes : Lexes "#[allow(dead_code)]\n#[rustfmt::skip]\n".toList
      (deadCodeTokens ++ rustfmtSkipTokens) := Lexes.literal
  have hconst : Lexes "pub const ".toList [kw "pub", kw "const"] := Lexes.literal
  have hdigestName := Lexes.word hname.1 (endsWord_literal :
    endsWord "_PROVING_KEY_SHA256: [u8; 32] = [".toList "_PROVING_KEY_SHA256".toList
      [.punct ':', .punct '[', kw "u8", .punct ';', kw "32", .punct ']', .punct '=', .punct '['])
  have hclose : endsWord "];\n".toList [] [.punct ']', .punct ';'] := by decide
  have hparts := hcomment.append <| hattributes.append <| hconst.append <| hdigestName.append <|
    lexes_byteList digest hclose
  unfold digestSource
  simp only [String.toList_append, List.append_assoc] at hparts ⊢
  exact hparts.of_eq (by simp [digestTokens])

def flagTokens (constName : String) (insecure : Bool) : List Token :=
  deadCodeTokens ++
    [kw "pub", kw "const", .word (constName.toList ++ "_INSECURE_TEST_SETUP".toList), .punct ':',
      kw "bool", .punct '=', kw (boolText insecure), .punct ';']

theorem lexes_flagSource {constName : String} (insecure : Bool) (hname : RustIdentifier constName) :
    Lexes (flagSource constName insecure).toList (flagTokens constName insecure) := by
  have hcomment₁ : Lexes
      "\n/// `true` for a test setup whose secret randomness is public or untrusted:\n".toList [] :=
        Lexes.literal
  have hcomment₂ :
      Lexes "/// whoever knows it can make this key accept a proof for any public\n".toList [] :=
        Lexes.literal
  have hcomment₃ :
      Lexes "/// inputs without a valid witness. Must not be deployed to devnet or\n".toList [] :=
        Lexes.literal
  have hcomment₄ : Lexes "/// mainnet.\n".toList [] := Lexes.literal
  have hattribute : Lexes "#[allow(dead_code)]\n".toList deadCodeTokens := Lexes.literal
  have hconst : Lexes "pub const ".toList [kw "pub", kw "const"] := Lexes.literal
  have hflagName := Lexes.word hname.1 (endsWord_literal :
    endsWord "_INSECURE_TEST_SETUP: bool = ".toList "_INSECURE_TEST_SETUP".toList
      [.punct ':', kw "bool", .punct '='])
  have hflag := Lexes.word (isWord_boolText insecure)
    (by decide : endsWord ";\n".toList [] [.punct ';'])
  have hparts := hcomment₁.append <| hcomment₂.append <| hcomment₃.append <| hcomment₄.append <|
    hattribute.append <| hconst.append <| hflagName.append hflag
  unfold flagSource
  simp only [String.toList_append, List.append_assoc] at hparts ⊢
  exact hparts.of_eq (by simp [flagTokens, kw])

def markerTokens (constName symbol marker : List Char) : List Token :=
  [.punct '#', .punct '[', kw "unsafe", .punct '(', kw "export_name", .punct '=', .str symbol,
    .punct ')', .punct ']'] ++ rustfmtSkipTokens ++
    [kw "pub", kw "static", .word (constName ++ "_SETUP_TXT".toList), .punct ':', .punct '&', kw "str",
      .punct '=', .str marker, .punct ';']

/-- The literal of the marker denotes the marker. -/
theorem lexes_markerSource {constName symbol marker : String} (hname : RustIdentifier constName)
    (hsymbol : PlainText symbol.toList) (hmarker : PlainText marker.toList) :
    Lexes (markerSource constName symbol (String.ofList (escapeNul marker.toList))).toList
      (markerTokens constName.toList symbol.toList marker.toList) := by
  have hcomment₁ : Lexes
      "\n/// The two consts above as a delimited string, exported so it stays in\n".toList [] :=
        Lexes.literal
  have hcomment₂ : Lexes "/// the program binary; read it back with\n".toList [] := Lexes.literal
  have hcomment₃ : Lexes "/// `groth16_solana::vk::setup::find_setup_txts`.\n".toList [] := Lexes.literal
  have hexport := Lexes.string (lexRun_literal :
      lexRun .code "#[unsafe(export_name = \"".toList =
        (.str [], [.punct '#', .punct '[', kw "unsafe", .punct '(', kw "export_name", .punct '=']))
    (lexRun_plainChars hsymbol)
    (endsStr_literal : endsStr "\")]\n".toList [] [.punct ')', .punct ']'])
  have hskip : Lexes "#[rustfmt::skip]\n".toList rustfmtSkipTokens := Lexes.literal
  have hstatic : Lexes "pub static ".toList [kw "pub", kw "static"] := Lexes.literal
  have hmarkerName := Lexes.word hname.1 (endsWord_literal :
    endsWord "_SETUP_TXT: &str = ".toList "_SETUP_TXT".toList
      [.punct ':', .punct '&', kw "str", .punct '='])
  have hopen : lexRun .code (constName.toList ++ "_SETUP_TXT: &str = \"".toList) =
      (.str [], [.word (constName.toList ++ "_SETUP_TXT".toList), .punct ':', .punct '&', kw "str",
        .punct '=']) := by
    have hquote : "_SETUP_TXT: &str = \"".toList = "_SETUP_TXT: &str = ".toList ++ "\"".toList := rfl
    rw [hquote, ← List.append_assoc, lexRun_append, hmarkerName]
    rfl
  have hvalue := Lexes.string hopen (lexRun_escapeNul hmarker)
    (endsStr_literal : endsStr "\";\n".toList [] [.punct ';'])
  have hparts := hcomment₁.append <| hcomment₂.append <| hcomment₃.append <| hexport.append <|
    hskip.append <| hstatic.append hvalue
  unfold markerSource
  simp only [String.toList_append, String.toList_ofList, List.append_assoc] at hparts ⊢
  exact hparts.of_eq (by simp [markerTokens])

def guardMessage (constName : String) : List Char :=
  constName.toList ++ " comes from an insecure test setup: whoever knows its ".toList ++
    "setup randomness can make it accept a proof for any public inputs. Enable the ".toList ++
    "`insecure-test-setup` feature only in test builds, not for a devnet or mainnet ".toList ++
    "deployment.".toList

def guardTokens (constName : String) : List Token :=
  [.punct '#', .punct '[', kw "cfg", .punct '(', kw "not", .punct '(', kw "feature", .punct '=',
    .str "insecure-test-setup".toList, .punct ')', .punct ')', .punct ']', kw "compile_error",
    .punct '!', .punct '(', .str (guardMessage constName), .punct ')', .punct ';']

theorem lexes_compileGuard {constName : String} (hname : RustIdentifier constName) :
    Lexes (compileGuard constName).toList (guardTokens constName) := by
  have hattribute : Lexes "\n#[cfg(not(feature = \"insecure-test-setup\"))]\n".toList
      [.punct '#', .punct '[', kw "cfg", .punct '(', kw "not", .punct '(', kw "feature", .punct '=',
        .str "insecure-test-setup".toList, .punct ')', .punct ')', .punct ']'] := Lexes.literal
  have hmessage₁ : PlainText " comes from an insecure test setup: whoever knows its ".toList :=
    PlainText.literal rfl
  have hmessage₂ : PlainText
      "setup randomness can make it accept a proof for any public inputs. Enable the ".toList :=
        PlainText.literal rfl
  have hmessage₃ : PlainText
      "`insecure-test-setup` feature only in test builds, not for a devnet or mainnet ".toList :=
        PlainText.literal rfl
  have hvalue := Lexes.string (lexRun_literal :
      lexRun .code "compile_error!(\"".toList =
        (.str [], [kw "compile_error", .punct '!', .punct '(']))
    (lexRun_plainChars
      ((((plainText_of_isWord hname.1).append hmessage₁).append hmessage₂).append hmessage₃))
    (endsStr_literal :
      endsStr "deployment.\");\n".toList "deployment.".toList [.punct ')', .punct ';'])
  have hparts := hattribute.append hvalue
  unfold compileGuard
  simp only [String.toList_append, List.append_assoc, List.append_nil,
    List.reverse_reverse] at hparts ⊢
  refine hparts.of_eq ?_
  simp only [guardTokens, guardMessage, List.append_assoc, List.cons_append, List.nil_append]

theorem isWordChar_of_mem_symbolName {symbolHash : String}
    (h : ∀ c ∈ symbolHash.toList, isWordChar c) :
    ∀ c ∈ (symbolName symbolHash).toList, isWordChar c := by
  have hstart : ∀ c ∈ "groth16_solana_vk_setup_".toList, isWordChar c := List.all_eq_true.mp (by decide)
  have hdigits : ∀ c ∈ symbolHash.toList.take 16, isWordChar c :=
    fun c hc => h c (List.mem_of_mem_take hc)
  unfold symbolName
  simp only [String.toList_append, String.toList_ofList]
  exact List.forall_mem_append.mpr ⟨hstart, hdigits⟩

theorem isWordChar_of_mem_exportSymbol (vkSource marker : String) :
    ∀ c ∈ (exportSymbol vkSource marker).toList, isWordChar c :=
  isWordChar_of_mem_symbolName fun _ hc => isWordChar_of_mem_toHex hc

theorem plainText_exportSymbol (vkSource marker : String) :
    PlainText (exportSymbol vkSource marker).toList :=
  fun c hc => isPlainChar_of_isWordChar (isWordChar_of_mem_exportSymbol vkSource marker c hc)

/-! ## The groups -/

/-- Items, a semicolon behind each. -/
def itemTrees (items : List (List TokenTree)) : List TokenTree :=
  items.flatMap fun item => item ++ [.leaf (.punct ';')]

/-- The text is made of whole items. -/
def HoldsItems (text : List Char) (items : List (List TokenTree)) : Prop :=
  ∃ tokens, Lexes text tokens ∧ Groups tokens (itemTrees items)

/-- A semicolon ends an item and stands in none. -/
def SemicolonFree (items : List (List TokenTree)) : Prop :=
  ∀ item ∈ items, ∀ tree ∈ item, isPunct ';' tree = false

theorem pieces_itemTrees {items : List (List TokenTree)} (hfree : SemicolonFree items) :
    pieces ';' (itemTrees items) = items := by
  rw [itemTrees, pieces_flatMap _ items hfree, List.map_id']

theorem itemValue_itemTrees {items : List (List TokenTree)} (hfree : SemicolonFree items)
    (keyword name : List Char) :
    itemValue (itemTrees items) keyword name = (((items.filterMap readItem).find? fun item =>
      item.keyword = keyword ∧ item.name = name).map RustItem.value) := by
  rw [itemValue, pieces_itemTrees hfree]
  cases (items.filterMap readItem).find? _ <;> rfl

theorem itemValue_append {items items' : List (List TokenTree)} {keyword name : List Char}
    (hfree : SemicolonFree items) (hfree' : SemicolonFree items')
    (hskip : ∀ item ∈ items, ∀ bound, readItem item = some bound →
      (bound.keyword, bound.name) ≠ (keyword, name)) :
    itemValue (itemTrees (items ++ items')) keyword name =
      itemValue (itemTrees items') keyword name := by
  have hnone : ((items.filterMap readItem).find? fun item =>
      item.keyword = keyword ∧ item.name = name) = none := by
    rw [List.find?_eq_none]
    intro bound hbound
    obtain ⟨item, hitem, hread⟩ := List.mem_filterMap.mp hbound
    simpa using hskip item hitem bound hread
  rw [itemValue_itemTrees (List.forall_mem_append.mpr ⟨hfree, hfree'⟩), itemValue_itemTrees hfree',
    List.filterMap_append, List.find?_append, hnone, Option.none_or]

theorem bindsName_itemTrees {items : List (List TokenTree)} (hfree : SemicolonFree items)
    (name : List Char) :
    bindsName (itemTrees items) name = (items.filterMap readItem).any (RustItem.binds name) := by
  rw [bindsName, pieces_itemTrees hfree]

theorem bindsName_append {items items' : List (List TokenTree)} (hfree : SemicolonFree items)
    (hfree' : SemicolonFree items') (name : List Char) :
    bindsName (itemTrees (items ++ items')) name =
      (bindsName (itemTrees items) name || bindsName (itemTrees items') name) := by
  rw [bindsName_itemTrees (List.forall_mem_append.mpr ⟨hfree, hfree'⟩), bindsName_itemTrees hfree,
    bindsName_itemTrees hfree', List.filterMap_append, List.any_append]

/-- An item whose name has an underscore binds no name without one. -/
theorem binds_eq_false {name : List Char} {item : RustItem} (hitem : '_' ∈ item.name)
    (hname : '_' ∉ name) : item.binds name = false := by
  have hbare : bareName item.name ≠ name := by
    rintro rfl
    exact hname (mem_bareName hitem (by decide) (by decide))
  simp [RustItem.binds, hbare]

theorem HoldsItems.nil : HoldsItems [] [] := ⟨[], Lexes.nil, Groups.nil⟩

theorem HoldsItems.append {text text' : List Char} {items items' : List (List TokenTree)}
    (h : HoldsItems text items) (h' : HoldsItems text' items') :
    HoldsItems (text ++ text') (items ++ items') := by
  obtain ⟨tokens, hlex, hgroups⟩ := h
  obtain ⟨tokens', hlex', hgroups'⟩ := h'
  refine ⟨tokens ++ tokens', hlex.append hlex', ?_⟩
  rw [itemTrees, List.flatMap_append]
  exact hgroups.append hgroups'

theorem holdsItems_single {text : List Char} {tokens : List Token} {item : List TokenTree}
    (h : Lexes text tokens) (hgroups : Groups tokens (item ++ [.leaf (.punct ';')])) :
    HoldsItems text [item] := by
  refine ⟨tokens, h, ?_⟩
  rwa [itemTrees, List.flatMap_singleton]

theorem groups_close {opening closing : Char} {tokens : List Token} {trees : List TokenTree}
    (hcloser : closer opening = some closing) (h : Groups tokens trees) :
    Groups (.punct opening :: tokens ++ [.punct closing, .punct ';'])
      [.group opening trees, .leaf (.punct ';')] :=
  Groups.group hcloser h (Groups.nil.punct (by decide))

def deadCodeTrees : List TokenTree :=
  [.leaf (.punct '#'), .group '[' [.leaf (kw "allow"), .group '(' [.leaf (kw "dead_code")]]]

def rustfmtSkipTrees : List TokenTree :=
  [.leaf (.punct '#'),
    .group '[' [.leaf (kw "rustfmt"), .leaf (.punct ':'), .leaf (.punct ':'), .leaf (kw "skip")]]

def digestName (constName : String) : List Char := constName.toList ++ "_PROVING_KEY_SHA256".toList

def flagName (constName : String) : List Char := constName.toList ++ "_INSECURE_TEST_SETUP".toList

def textName (constName : String) : List Char := constName.toList ++ "_SETUP_TXT".toList

def digestItem (constName : String) (digest : List UInt8) : List TokenTree :=
  deadCodeTrees ++ rustfmtSkipTrees ++
    [.leaf (kw "pub"), .leaf (kw "const"), .leaf (.word (digestName constName)), .leaf (.punct ':'),
      .group '[' [.leaf (kw "u8"), .leaf (.punct ';'), .leaf (kw "32")], .leaf (.punct '='),
      .group '[' (u8Trees digest)]

def flagItem (constName : String) (insecure : Bool) : List TokenTree :=
  deadCodeTrees ++
    [.leaf (kw "pub"), .leaf (kw "const"), .leaf (.word (flagName constName)), .leaf (.punct ':'),
      .leaf (kw "bool"), .leaf (.punct '='), .leaf (kw (boolText insecure))]

def textItem (constName : String) (symbol marker : List Char) : List TokenTree :=
  [.leaf (.punct '#'), .group '[' [.leaf (kw "unsafe"), .group '('
      [.leaf (kw "export_name"), .leaf (.punct '='), .leaf (.str symbol)]]] ++
    rustfmtSkipTrees ++
    [.leaf (kw "pub"), .leaf (kw "static"), .leaf (.word (textName constName)), .leaf (.punct ':'),
      .leaf (.punct '&'), .leaf (kw "str"), .leaf (.punct '='), .leaf (.str marker)]

def guardItem (constName : String) : List TokenTree :=
  [.leaf (.punct '#'), .group '[' [.leaf (kw "cfg"), .group '(' [.leaf (kw "not"), .group '('
      [.leaf (kw "feature"), .leaf (.punct '='), .leaf (.str "insecure-test-setup".toList)]]],
    .leaf (kw "compile_error"), .leaf (.punct '!'),
    .group '(' [.leaf (.str (guardMessage constName))]]

theorem holdsItems_digestSource {constName : String} (digest : List UInt8)
    (hname : RustIdentifier constName) :
    HoldsItems (digestSource constName (byteList digest)).toList [digestItem constName digest] := by
  have hitem : Groups
      (deadCodeTokens ++ rustfmtSkipTokens ++
        [kw "pub", kw "const", .word (digestName constName), .punct ':', .punct '[', kw "u8",
          .punct ';', kw "32", .punct ']', .punct '='])
      (deadCodeTrees ++ rustfmtSkipTrees ++
        [.leaf (kw "pub"), .leaf (kw "const"), .leaf (.word (digestName constName)),
          .leaf (.punct ':'), .group '[' [.leaf (kw "u8"), .leaf (.punct ';'), .leaf (kw "32")],
          .leaf (.punct '=')]) :=
    fun _ _ => rfl
  have hdigest := groups_close (rfl : closer '[' = some ']') (groups_u8Tokens digest)
  have hgroups := hitem.append hdigest
  have htokens : deadCodeTokens ++ rustfmtSkipTokens ++
      [kw "pub", kw "const", .word (digestName constName), .punct ':', .punct '[', kw "u8",
        .punct ';', kw "32", .punct ']', .punct '='] ++
      (.punct '[' :: u8Tokens digest ++ [.punct ']', .punct ';']) = digestTokens constName digest := by
    simp [digestTokens, digestName]
  refine holdsItems_single (lexes_digestSource digest hname) ?_
  rw [← htokens]
  simpa [digestItem] using hgroups

theorem holdsItems_flagSource {constName : String} (insecure : Bool)
    (hname : RustIdentifier constName) :
    HoldsItems (flagSource constName insecure).toList [flagItem constName insecure] :=
  holdsItems_single (lexes_flagSource insecure hname) fun _ _ => rfl

theorem holdsItems_markerSource {constName symbol marker : String}
    (hname : RustIdentifier constName) (hsymbol : PlainText symbol.toList)
    (hmarker : PlainText marker.toList) :
    HoldsItems (markerSource constName symbol (String.ofList (escapeNul marker.toList))).toList
      [textItem constName symbol.toList marker.toList] :=
  holdsItems_single (lexes_markerSource hname hsymbol hmarker) fun _ _ => rfl

theorem holdsItems_compileGuard {constName : String} (hname : RustIdentifier constName) :
    HoldsItems (compileGuard constName).toList [guardItem constName] :=
  holdsItems_single (lexes_compileGuard hname) fun _ _ => rfl

def metadataItems (constName : String) (symbol : List Char) (setup : SetupKind)
    (provingKeySha256 : Bytes 32) : List (List TokenTree) :=
  let insecure := decide (setup = .insecureTest)
  let marker := SetupTxt.toMarker { name := constName, insecureTestSetup := insecure, provingKeySha256 }
  [digestItem constName provingKeySha256.toList, flagItem constName insecure,
    textItem constName symbol marker.toList] ++ if insecure then [guardItem constName] else []

theorem readItem_digestItem (constName : String) (digest : List UInt8) :
    readItem (digestItem constName digest) =
      some ⟨"const".toList, digestName constName, [.group '[' (u8Trees digest)]⟩ := rfl

theorem readItem_flagItem (constName : String) (insecure : Bool) :
    readItem (flagItem constName insecure) =
      some ⟨"const".toList, flagName constName, [.leaf (kw (boolText insecure))]⟩ := rfl

theorem readItem_textItem (constName : String) (symbol marker : List Char) :
    readItem (textItem constName symbol marker) =
      some ⟨"static".toList, textName constName, [.leaf (.str marker)]⟩ := rfl

theorem semicolonFree_metadataItems (constName : String) (symbol : List Char) (setup : SetupKind)
    (provingKeySha256 : Bytes 32) :
    SemicolonFree (metadataItems constName symbol setup provingKeySha256) := by
  cases setup <;>
    simp [SemicolonFree, metadataItems, digestItem, flagItem, textItem, guardItem, deadCodeTrees,
      rustfmtSkipTrees, isPunct, kw]

theorem bindsName_metadataItems (constName : String) (symbol : List Char) (setup : SetupKind)
    (provingKeySha256 : Bytes 32) {name : List Char} (hname : '_' ∉ name) :
    bindsName (itemTrees (metadataItems constName symbol setup provingKeySha256)) name = false := by
  have hdigest : '_' ∈ digestName constName := List.mem_append_right _ (by decide)
  have hflag : '_' ∈ flagName constName := List.mem_append_right _ (by decide)
  have htext : '_' ∈ textName constName := List.mem_append_right _ (by decide)
  have hguard : readItem (guardItem constName) = none := rfl
  rw [bindsName_itemTrees (semicolonFree_metadataItems _ _ _ _)]
  cases setup <;>
    simp [metadataItems, readItem_digestItem, readItem_flagItem, readItem_textItem, hguard,
      binds_eq_false, hdigest, hflag, htext, hname]

theorem holdsItems_metadataRustSource (vkSource : String) {constName : String} (setup : SetupKind)
    (provingKeySha256 : Bytes 32) (hname : RustIdentifier constName) :
    ∃ symbol, HoldsItems (metadataRustSource vkSource constName setup provingKeySha256).toList
      (metadataItems constName symbol setup provingKeySha256) := by
  have hdigest := holdsItems_digestSource provingKeySha256.toList hname
  have hplain := plainText_of_isWord hname.1
  have hmarker (txt : SetupTxt) (htxt : PlainText txt.name.toList) := holdsItems_markerSource hname
    (plainText_exportSymbol vkSource txt.toMarker) (plainText_toMarker htxt)
  refine ⟨(exportSymbol vkSource (SetupTxt.toMarker
    { name := constName, insecureTestSetup := decide (setup = .insecureTest),
      provingKeySha256 })).toList, ?_⟩
  unfold metadataRustSource
  cases setup with
  | production =>
    simp only [String.toList_append]
    exact ((hdigest.append (holdsItems_flagSource _ hname)).append (hmarker _ hplain)).append
      HoldsItems.nil
  | insecureTest =>
    simp only [String.toList_append]
    exact ((hdigest.append (holdsItems_flagSource _ hname)).append (hmarker _ hplain)).append
      (holdsItems_compileGuard hname)

end Groth16Solana
