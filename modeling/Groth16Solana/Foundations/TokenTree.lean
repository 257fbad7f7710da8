import Mathlib.Algebra.Ring.Nat
import Groth16Solana.Foundations.Bytes
import Groth16Solana.Foundations.Lexer

/-! # Token trees and literals

Tokens are grouped by their brackets, and the reader of a list, an array or a struct literal works on
the contents of one group. -/

set_option autoImplicit false

namespace Foundations

inductive TokenTree where
  | leaf (token : Token)
  | group (opening : Char) (trees : List TokenTree)

namespace TokenTree

def closer : Char → Option Char
  | '(' => some ')'
  | '[' => some ']'
  | '{' => some '}'
  | _ => none

def isCloser (c : Char) : Bool := c == ')' || c == ']' || c == '}'

/-- The groups still open, each with the trees before it, and the trees of the innermost one, all in
reverse. -/
structure GroupState where
  stack : List (Char × List TokenTree)
  trees : List TokenTree

def groupStep (state : GroupState) : Token → Option GroupState
  | .punct c =>
    if (closer c).isSome then some ⟨(c, state.trees) :: state.stack, []⟩
    else if isCloser c then
      match state.stack with
      | (opening, before) :: stack =>
        if closer opening = some c then some ⟨stack, .group opening state.trees.reverse :: before⟩
          else none
      | [] => none
    else some ⟨state.stack, .leaf (.punct c) :: state.trees⟩
  | token => some ⟨state.stack, .leaf token :: state.trees⟩

def groupTokens (tokens : List Token) : Option (List TokenTree) := do
  let state ← tokens.foldlM groupStep ⟨[], []⟩
  if state.stack.isEmpty then some state.trees.reverse else none

/-- The tokens are those of the trees. -/
def Groups (tokens : List Token) (trees : List TokenTree) : Prop :=
  ∀ stack before, tokens.foldlM groupStep ⟨stack, before⟩ = some ⟨stack, trees.reverse ++ before⟩

theorem groupTokens_eq {tokens : List Token} {trees : List TokenTree} (h : Groups tokens trees) :
    groupTokens tokens = some trees := by
  simp [groupTokens, h [] []]

namespace Groups

variable {tokens tokens' : List Token} {trees trees' : List TokenTree}

theorem nil : Groups [] [] := fun _ _ => rfl

theorem append (h : Groups tokens trees) (h' : Groups tokens' trees') :
    Groups (tokens ++ tokens') (trees ++ trees') := by
  intro stack before
  rw [List.foldlM_append, h stack before]
  simp [h' stack]

theorem word (w : List Char) (h : Groups tokens trees) :
    Groups (.word w :: tokens) (.leaf (.word w) :: trees) := by
  intro stack before
  simp [groupStep, h stack]

theorem punct {c : Char} (hc : ((closer c).isSome || isCloser c) = false)
    (h : Groups tokens trees) :
    Groups (.punct c :: tokens) (.leaf (.punct c) :: trees) := by
  rw [Bool.or_eq_false_iff] at hc
  intro stack before
  simp [groupStep, hc.1, hc.2, h stack]

theorem comma : Groups [.punct ','] [.leaf (.punct ',')] := nil.punct (by decide)

theorem colon (h : Groups tokens trees) :
    Groups (.punct ':' :: tokens) (.leaf (.punct ':') :: trees) :=
  h.punct (by decide)

theorem group {opening closing : Char} (hcloser : closer opening = some closing)
    (h : Groups tokens trees) (h' : Groups tokens' trees') :
    Groups (.punct opening :: tokens ++ .punct closing :: tokens') (.group opening trees :: trees') := by
  have hclosing : isCloser closing ∧ closer closing = none := by
    unfold closer at hcloser
    split at hcloser
    · obtain rfl := Option.some.inj hcloser
      decide
    · obtain rfl := Option.some.inj hcloser
      decide
    · obtain rfl := Option.some.inj hcloser
      decide
    · simp at hcloser
  intro stack before
  simp [groupStep, hcloser, hclosing, h _ _, h' stack]

end Groups

/-! ## Lists and literals -/

def isPunct (c : Char) : TokenTree → Bool
  | .leaf (.punct d) => c == d
  | _ => false

/-- The pieces between the separators, without an empty last piece. -/
def pieces (separator : Char) (trees : List TokenTree) : List (List TokenTree) :=
  let pieces := trees.splitOnP (isPunct separator)
  if pieces.getLast?.any List.isEmpty then pieces.dropLast else pieces

theorem pieces_nil (separator : Char) : pieces separator [] = [] := by
  simp [pieces]

theorem pieces_cons {separator : Char} {piece rest : List TokenTree}
    (h : ∀ tree ∈ piece, isPunct separator tree = false) :
    pieces separator (piece ++ .leaf (.punct separator) :: rest) = piece :: pieces separator rest := by
  have hsplit :=
    List.splitOnP_append_cons_of_forall_mem h (.leaf (.punct separator)) (by simp [isPunct]) rest
  obtain ⟨head, tail, htail⟩ := List.exists_cons_of_ne_nil (List.splitOnP_ne_nil (isPunct separator) rest)
  simp only [pieces, hsplit]
  rw [htail, List.getLast?_cons_cons, List.dropLast_cons_cons]
  split <;> rfl

theorem pieces_single {separator : Char} {piece : List TokenTree} (hne : piece ≠ [])
    (h : ∀ tree ∈ piece, isPunct separator tree = false) : pieces separator piece = [piece] := by
  simp [pieces, List.splitOnP_eq_singleton h, hne]

theorem pieces_flatMap {α : Type} {separator : Char} (piece : α → List TokenTree) (l : List α)
    (h : ∀ x ∈ l, ∀ tree ∈ piece x, isPunct separator tree = false) :
    pieces separator (l.flatMap fun x => piece x ++ [.leaf (.punct separator)]) = l.map piece := by
  induction l with
  | nil => exact pieces_nil separator
  | cons x l ih =>
    rw [List.forall_mem_cons] at h
    rw [List.flatMap_cons, List.append_assoc, List.singleton_append, pieces_cons h.1, ih h.2,
      List.map_cons]

def decimal (digits : List Char) : Option ℕ :=
  if digits ≠ [] ∧ digits.all Char.isDigit then some (Nat.ofDigitChars 10 digits 0) else none

theorem decimal_toDigits (n : ℕ) : decimal (Nat.toDigits 10 n) = some n := by
  have hdigits : (Nat.toDigits 10 n).all Char.isDigit :=
    List.all_eq_true.mpr fun _ => Nat.isDigit_of_mem_toDigits (by decide) (by decide)
  rw [decimal, if_pos ⟨Nat.toDigits_ne_nil, hdigits⟩, Nat.ofDigitChars_ten_toDigits]

/-- A literal with the suffix `u8`. -/
def readU8 : List TokenTree → Option UInt8
  | [.leaf (.word w)] =>
    if w.drop (w.length - 2) = ['u', '8'] then do
      let value ← decimal (w.take (w.length - 2))
      if value < 256 then some (UInt8.ofNat value) else none
    else none
  | _ => none

/-- A literal of type `usize` without a suffix. -/
def readUsize : List TokenTree → Option ℕ
  | [.leaf (.word w)] => do
    let value ← decimal w
    if value < 2 ^ 64 then some value else none
  | _ => none

theorem readUsize_toDigits {n : ℕ} (h : n < 2 ^ 64) :
    readUsize [.leaf (.word (Nat.toDigits 10 n))] = some n := by
  simp only [readUsize, decimal_toDigits, Option.bind_eq_bind, Option.bind_some]
  rw [if_pos h]

def readBytes (n : ℕ) : List TokenTree → Option (Bytes n)
  | [.group '[' trees] => do
    let bytes ← (pieces ',' trees).mapM readU8
    if h : bytes.length = n then some (Bytes.ofList bytes h) else none
  | _ => none

/-- The fields of a struct literal of type `name`. -/
def readRecord (name : String) : List TokenTree → Option (List (List Char × List TokenTree))
  | [.leaf (.word w), .group '{' trees] =>
    if w = name.toList then (pieces ',' trees).mapM fun
      | .leaf (.word field) :: .leaf (.punct ':') :: value => some (field, value)
      | _ => none
    else none
  | _ => none

/-- The fields of a struct literal, a comma behind each. -/
def recordTrees (fields : List (List Char × List TokenTree)) : List TokenTree :=
  fields.flatMap fun field =>
    (.leaf (.word field.1) :: .leaf (.punct ':') :: field.2) ++ [.leaf (.punct ',')]

theorem readRecord_recordTrees {name : String} (fields : List (List Char × List TokenTree))
    (h : ∀ field ∈ fields, ∀ tree ∈ field.2, isPunct ',' tree = false) :
    readRecord name [.leaf (.word name.toList), .group '{' (recordTrees fields)] = some fields := by
  have hpieces : pieces ',' (recordTrees fields) =
      fields.map fun field => .leaf (.word field.1) :: .leaf (.punct ':') :: field.2 :=
    pieces_flatMap _ fields (by simpa [isPunct] using h)
  rw [readRecord, if_pos rfl, hpieces, List.mapM_map]
  exact (List.mapM_pure (m := Option) (f := id)).trans (by rw [List.map_id]; rfl)

/-! ## Items -/

structure RustItem where
  keyword : List Char
  name : List Char
  value : List TokenTree

def dropAttributes : List TokenTree → List TokenTree
  | .leaf (.punct '#') :: .group '[' _ :: trees => dropAttributes trees
  | trees => trees

def dropVisibility : List TokenTree → List TokenTree
  | .leaf (.word ['p', 'u', 'b']) :: trees => trees
  | trees => trees

/-- The item, when it binds a name to a value. -/
def readItem (trees : List TokenTree) : Option RustItem :=
  match dropVisibility (dropAttributes trees) with
  | .leaf (.word keyword) :: .leaf (.word name) :: .leaf (.punct ':') :: rest =>
    some ⟨keyword, name, (rest.dropWhile fun tree => !isPunct '=' tree).drop 1⟩
  | _ => none

/-- The value that a file's item binds to a name. -/
def itemValue (trees : List TokenTree) (keyword name : List Char) : Option (List TokenTree) := do
  let item ← ((pieces ';' trees).filterMap readItem).find? fun item =>
    item.keyword = keyword ∧ item.name = name
  return item.value

/-- The name without the mark of a raw identifier. -/
def bareName : List Char → List Char
  | 'r' :: '#' :: name => name
  | name => name

theorem mem_bareName {c : Char} {name : List Char} (h : c ∈ name) (hr : c ≠ 'r') (hhash : c ≠ '#') :
    c ∈ bareName name := by
  unfold bareName
  split
  · simpa [hr, hhash] using h
  · exact h

/-- The item is a const or a static of the name. -/
def RustItem.binds (name : List Char) (item : RustItem) : Bool :=
  (item.keyword == "const".toList || item.keyword == "static".toList) && bareName item.name == name

/-- A const or a static of the file hides what else has the name. -/
def bindsName (trees : List TokenTree) (name : List Char) : Bool :=
  ((pieces ';' trees).filterMap readItem).any (RustItem.binds name)

theorem bindsName_nil (name : List Char) : bindsName [] name = false := by
  rw [bindsName, pieces_nil]
  rfl

/-! ## Byte lists -/

/-- `format!("{}u8", b)`. -/
def u8Word (b : UInt8) : List Char := Nat.toDigits 10 b.toNat ++ ['u', '8']

theorem isWord_toDigits (n : ℕ) : IsWord (Nat.toDigits 10 n) := by
  obtain ⟨c, rest, hdigits⟩ := List.exists_cons_of_ne_nil (Nat.toDigits_ne_nil (n := n) (b := 10))
  refine ⟨c, rest, ?_, Or.inl hdigits⟩
  intro d hd
  have hdigit : d.isDigit := Nat.isDigit_of_mem_toDigits (by decide) (by decide) (hdigits ▸ hd)
  simp [isWordChar, Char.isAlphanum, hdigit]

theorem isWord_u8Word (b : UInt8) : IsWord (u8Word b) :=
  (isWord_toDigits b.toNat).append (List.all_eq_true.mp (by decide))

theorem readU8_u8Word (b : UInt8) : readU8 [.leaf (.word (u8Word b))] = some b := by
  have hlen : (u8Word b).length - 2 = (Nat.toDigits 10 b.toNat).length := by simp [u8Word]
  simp [readU8, hlen]
  simp [u8Word, decimal_toDigits, b.toNat_lt]

/-- The literals of `bytes` with commas between them. -/
def u8Tokens : List UInt8 → List Token
  | [] => []
  | [b] => [.word (u8Word b)]
  | b :: b' :: bytes => .word (u8Word b) :: .punct ',' :: u8Tokens (b' :: bytes)

def u8Trees (bytes : List UInt8) : List TokenTree := (u8Tokens bytes).map .leaf

theorem groups_u8Tokens (bytes : List UInt8) : Groups (u8Tokens bytes) (u8Trees bytes) := by
  induction bytes using u8Tokens.induct with
  | case1 => exact Groups.nil
  | case2 b => exact Groups.nil.word _
  | case3 b b' bytes ih => exact (ih.punct (by decide)).word _

theorem pieces_u8Trees (bytes : List UInt8) :
    pieces ',' (u8Trees bytes) = bytes.map fun b => [.leaf (.word (u8Word b))] := by
  induction bytes using u8Tokens.induct with
  | case1 => exact pieces_nil ','
  | case2 b => exact pieces_single (by simp [u8Trees, u8Tokens]) (by simp [u8Trees, u8Tokens, isPunct])
  | case3 b b' bytes ih =>
    have hword : pieces ',' ([.leaf (.word (u8Word b))] ++ .leaf (.punct ',') :: u8Trees (b' :: bytes)) =
        [.leaf (.word (u8Word b))] :: pieces ',' (u8Trees (b' :: bytes)) :=
      pieces_cons (by simp [isPunct])
    rw [List.map_cons, ← ih, ← hword]
    rfl

theorem readBytes_u8Trees {n : ℕ} (bytes : Bytes n) :
    readBytes n [.group '[' (u8Trees bytes.toList)] = some bytes := by
  have hmap : (bytes.toList.map fun b => [TokenTree.leaf (.word (u8Word b))]).mapM readU8 =
      some bytes.toList := by
    induction bytes.toList with
    | nil => rfl
    | cons b rest ih => simp [readU8_u8Word, ih]
  simp only [readBytes, pieces_u8Trees, hmap, Option.bind_eq_bind, Option.bind_some]
  rw [dif_pos Vector.length_toList]
  rfl

end TokenTree

end Foundations
