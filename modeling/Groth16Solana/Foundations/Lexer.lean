import Mathlib.Data.List.TakeWhile
import Mathlib.Data.Nat.Notation

/-! # Lexing Rust source

A one-character-at-a-time lexer for the Rust that generators write: words, string literals,
punctuation, white space and line comments. A word is a run of word characters, so it is an
identifier, a keyword or a number with its suffix; every character outside ASCII counts as one, which
takes in all of Rust's identifiers. -/

set_option autoImplicit false

namespace Foundations

inductive Token where
  | word (chars : List Char)
  | str (chars : List Char)
  | punct (c : Char)
deriving DecidableEq

/-- Where in a token the lexer is; what it has read of the token is in reverse. -/
inductive LexMode where
  | code
  | word (read : List Char)
  | slash
  | comment
  | str (read : List Char)
  | escape (read : List Char)
  | hex (read : List Char)
  | hexLow (read : List Char) (high : ℕ)
  | failed
deriving DecidableEq

def isWordChar (c : Char) : Bool := c.isAlphanum || c == '_' || decide (128 ≤ c.toNat)

def isSpaceChar (c : Char) : Bool := c == ' ' || c == '\n' || c == '\t' || c == '\r'

def isPunctChar (c : Char) : Bool := "#[](){}:;,=&!.-".toList.contains c

def hexCharValue (c : Char) : Option ℕ :=
  if '0' ≤ c ∧ c ≤ '9' then some (c.toNat - 48)
  else if 'a' ≤ c ∧ c ≤ 'f' then some (c.toNat - 87)
  else if 'A' ≤ c ∧ c ≤ 'F' then some (c.toNat - 55)
  else none

def lexCode (c : Char) : LexMode × List Token :=
  if isWordChar c then (.word [c], [])
  else if isSpaceChar c then (.code, [])
  else if isPunctChar c then (.code, [.punct c])
  else if c = '/' then (.slash, [])
  else if c = '"' then (.str [], [])
  else (.failed, [])

def lexEscape (read : List Char) (c : Char) : LexMode :=
  if c = 'x' then .hex read
  else if c = 'n' then .str ('\n' :: read)
  else if c = 'r' then .str ('\r' :: read)
  else if c = 't' then .str ('\t' :: read)
  else if c = '0' then .str ('\x00' :: read)
  else if c = '\\' ∨ c = '"' then .str (c :: read)
  else .failed

def lexStep : LexMode → Char → LexMode × List Token
  | .code, c => lexCode c
  | .word read, c =>
    if isWordChar c then (.word (c :: read), [])
    -- a raw identifier
    else if c = '#' ∧ read = ['r'] then (.word (c :: read), [])
    else ((lexCode c).1, .word read.reverse :: (lexCode c).2)
  | .slash, c => if c = '/' then (.comment, []) else (.failed, [])
  | .comment, c => if c = '\n' then (.code, []) else (.comment, [])
  | .str read, c =>
    if c = '"' then (.code, [.str read.reverse])
    else if c = '\\' then (.escape read, [])
    else (.str (c :: read), [])
  | .escape read, c => (lexEscape read c, [])
  | .hex read, c =>
    match hexCharValue c with
    | some high => (.hexLow read high, [])
    | none => (.failed, [])
  | .hexLow read high, c =>
    match hexCharValue c with
    | some low => if high < 8 then (.str (Char.ofNat (16 * high + low) :: read), []) else (.failed, [])
    | none => (.failed, [])
  | .failed, _ => (.failed, [])

def lexRun : LexMode → List Char → LexMode × List Token
  | mode, [] => (mode, [])
  | mode, c :: text =>
    let step := lexStep mode c
    let run := lexRun step.1 text
    (run.1, step.2 ++ run.2)

/-- The tokens of a whole source file. -/
def lex (source : String) : Option (List Token) :=
  match lexRun .code source.toList with
  | (.code, tokens) => some tokens
  | (.comment, tokens) => some tokens
  | (.word read, tokens) => some (tokens ++ [.word read.reverse])
  | _ => none

theorem lexRun_append (mode : LexMode) (text text' : List Char) :
    lexRun mode (text ++ text') =
      ((lexRun (lexRun mode text).1 text').1,
        (lexRun mode text).2 ++ (lexRun (lexRun mode text).1 text').2) := by
  induction text generalizing mode with
  | nil => simp [lexRun]
  | cons c text ih => simp [lexRun, ih]

/-- The text is made of whole tokens. -/
def Lexes (text : List Char) (tokens : List Token) : Prop := lexRun .code text = (.code, tokens)

theorem lex_eq {source : String} {tokens : List Token} (h : Lexes source.toList tokens) :
    lex source = some tokens := by
  rw [Lexes] at h
  rw [lex, h]

namespace Lexes

variable {text text' : List Char} {tokens tokens' : List Token}

theorem nil : Lexes [] [] := rfl

theorem append (h : Lexes text tokens) (h' : Lexes text' tokens') :
    Lexes (text ++ text') (tokens ++ tokens') := by
  rw [Lexes] at h h' ⊢
  rw [lexRun_append, h, h']

/-- A fixed text, which the kernel lexes as a list of characters. -/
theorem literal {l : List Char} (h : lexRun .code l = (.code, tokens) := by decide +kernel) :
    Lexes (String.ofList l).toList tokens := by
  rwa [Lexes, String.toList_ofList]

theorem of_eq (h : Lexes text tokens) (htokens : tokens = tokens') : Lexes text tokens' :=
  htokens ▸ h

end Lexes

/-! ## Words -/

/-- A run of word characters, or a raw identifier. -/
def IsWord (w : List Char) : Prop :=
  ∃ c rest, (∀ d ∈ c :: rest, isWordChar d) ∧ (w = c :: rest ∨ w = 'r' :: '#' :: c :: rest)

theorem lexRun_wordChars {read w : List Char} (h : ∀ c ∈ w, isWordChar c) :
    lexRun (.word read) w = (.word (w.reverse ++ read), []) := by
  induction w generalizing read with
  | nil => rfl
  | cons c w ih =>
    rw [List.forall_mem_cons] at h
    simp [lexRun, lexStep, h.1, ih h.2]

theorem lexRun_word {w : List Char} (h : IsWord w) : lexRun .code w = (.word w.reverse, []) := by
  obtain ⟨c, rest, hchars, rfl | rfl⟩ := h
  · rw [List.forall_mem_cons] at hchars
    simp [lexRun, lexStep, lexCode, hchars.1, lexRun_wordChars hchars.2]
  · have hr : isWordChar 'r' := by decide
    have hhash : ¬ isWordChar '#' := by decide
    rw [List.forall_mem_cons] at hchars
    simp [lexRun, lexStep, lexCode, hr, hhash, hchars.1, lexRun_wordChars hchars.2]

theorem IsWord.append {w w' : List Char} (h : IsWord w) (h' : ∀ c ∈ w', isWordChar c) :
    IsWord (w ++ w') := by
  obtain ⟨c, rest, hchars, hw⟩ := h
  refine ⟨c, rest ++ w', ?_, ?_⟩
  · rw [← List.cons_append]
    exact List.forall_mem_append.mpr ⟨hchars, h'⟩
  · rcases hw with rfl | rfl
    · exact Or.inl rfl
    · exact Or.inr rfl

theorem notMem_of_isWord {w : List Char} {c : Char} (h : IsWord w) (hc : ¬ isWordChar c)
    (hraw : c ≠ '#') : c ∉ w := by
  obtain ⟨d, rest, hchars, rfl | rfl⟩ := h
  · exact fun hmem => hc (hchars c hmem)
  · intro hmem
    rcases List.mem_cons.mp hmem with rfl | hmem
    · exact hc (by decide)
    · rcases List.mem_cons.mp hmem with rfl | hmem
      · exact hraw rfl
      · exact hc (hchars c hmem)

/-- What may stand behind a word that has been read: the end of the word and whole tokens that do not
prolong it. -/
def endsWord (text suffix : List Char) (tokens : List Token) : Bool :=
  text.takeWhile isWordChar == suffix &&
    match text.dropWhile isWordChar with
    | [] => false
    | c :: text => c != '#' && lexRun .code (c :: text) == (.code, tokens)

theorem lexRun_endWord {read text : List Char} {c : Char} {tokens : List Token}
    (hc : ¬ isWordChar c) (hraw : c ≠ '#') (h : Lexes (c :: text) tokens) :
    lexRun (.word read) (c :: text) = (.code, .word read.reverse :: tokens) := by
  have hstep : lexStep (.word read) c = ((lexCode c).1, .word read.reverse :: (lexCode c).2) := by
    simp [lexStep, hc, hraw]
  obtain ⟨hmode, htokens⟩ := Prod.mk.inj h
  simp only [lexRun, hstep, List.cons_append]
  exact Prod.ext hmode (congrArg (Token.word read.reverse :: ·) htokens)

theorem Lexes.word {w text suffix : List Char} {tokens : List Token} (hw : IsWord w)
    (h : endsWord text suffix tokens) : Lexes (w ++ text) (.word (w ++ suffix) :: tokens) := by
  rw [endsWord, Bool.and_eq_true, beq_iff_eq] at h
  obtain ⟨rfl, hrest⟩ := h
  have hsuffix : ∀ d ∈ text.takeWhile isWordChar, isWordChar d := fun d => List.mem_takeWhile_imp
  have hsplit : text.takeWhile isWordChar ++ text.dropWhile isWordChar = text :=
    List.takeWhile_append_dropWhile
  cases hdrop : text.dropWhile isWordChar with
  | nil => simp [hdrop] at hrest
  | cons c rest =>
    rw [hdrop, Bool.and_eq_true, bne_iff_ne, beq_iff_eq] at hrest
    have hc : ¬ isWordChar c := by
      have hhead := List.head_dropWhile_not isWordChar (by simp [hdrop] : text.dropWhile isWordChar ≠ [])
      simpa [hdrop] using hhead
    have htext : w ++ text = (w ++ text.takeWhile isWordChar) ++ c :: rest := by
      rw [List.append_assoc, ← hdrop, hsplit]
    rw [Lexes, htext, lexRun_append, lexRun_word (hw.append hsuffix), lexRun_endWord hc hrest.1 hrest.2]
    simp

theorem lexRun_of_endsWord {text : List Char} {tokens : List Token} (h : endsWord text [] tokens) :
    lexRun .code text = (.code, tokens) := by
  rw [endsWord, Bool.and_eq_true, beq_iff_eq] at h
  obtain ⟨htake, hrest⟩ := h
  have hdrop : text.dropWhile isWordChar = text := by
    have hsplit : text.takeWhile isWordChar ++ text.dropWhile isWordChar = text :=
      List.takeWhile_append_dropWhile
    rwa [htake] at hsplit
  rw [hdrop] at hrest
  cases text with
  | nil => simp at hrest
  | cons c text =>
    rw [Bool.and_eq_true, beq_iff_eq] at hrest
    exact hrest.2

theorem endsWord_literal {l suffix : List Char} {tokens : List Token}
    (h : endsWord l suffix tokens := by decide +kernel) :
    endsWord (String.ofList l).toList suffix tokens := by
  rwa [String.toList_ofList]

/-! ## String literals -/

/-- A character that stands for itself in a string literal. -/
def isPlainChar (c : Char) : Bool := c != '"' && c != '\\'

theorem lexRun_plainChars {read text : List Char} (h : ∀ c ∈ text, isPlainChar c) :
    lexRun (.str read) text = (.str (text.reverse ++ read), []) := by
  induction text generalizing read with
  | nil => rfl
  | cons c text ih =>
    rw [List.forall_mem_cons, isPlainChar, Bool.and_eq_true, bne_iff_ne, bne_iff_ne] at h
    simp [lexRun, lexStep, h.1.1, h.1.2, ih h.2]

/-- `text.replace('\0', "\\x00")`. -/
def escapeNul (text : List Char) : List Char :=
  text.flatMap fun c => if c = '\x00' then ['\\', 'x', '0', '0'] else [c]

theorem notMem_escapeNul {text : List Char} {c : Char} (hc : c ∉ ['\\', 'x', '0']) (h : c ∉ text) :
    c ∉ escapeNul text := by
  rw [escapeNul, List.mem_flatMap]
  rintro ⟨d, hd, hmem⟩
  split at hmem
  · simp_all
  · rw [List.mem_singleton] at hmem
    exact h (hmem ▸ hd)

theorem lexRun_escapeNul {read text : List Char} (h : ∀ c ∈ text, isPlainChar c) :
    lexRun (.str read) (escapeNul text) = (.str (text.reverse ++ read), []) := by
  induction text generalizing read with
  | nil => rfl
  | cons c text ih =>
    rw [List.forall_mem_cons] at h
    have hc : lexRun (.str read) (if c = '\x00' then ['\\', 'x', '0', '0'] else [c]) =
        (.str (c :: read), []) := by
      by_cases hzero : c = '\x00'
      · subst hzero
        rfl
      · rw [if_neg hzero]
        exact lexRun_plainChars (List.forall_mem_singleton.mpr h.1)
    rw [escapeNul, List.flatMap_cons, lexRun_append, hc, ← escapeNul, ih h.2]
    simp

/-- What may stand behind the content of a string literal that has been read: its rest, the closing
quote and whole tokens. -/
def endsStr (text suffix : List Char) (tokens : List Token) : Bool :=
  text.takeWhile isPlainChar == suffix &&
    match text.dropWhile isPlainChar with
    | '"' :: text => lexRun .code text == (.code, tokens)
    | _ => false

theorem lexRun_endsStr {read text suffix : List Char} {tokens : List Token}
    (h : endsStr text suffix tokens) :
    lexRun (.str read) text = (.code, .str (read.reverse ++ suffix) :: tokens) := by
  rw [endsStr, Bool.and_eq_true, beq_iff_eq] at h
  obtain ⟨rfl, hrest⟩ := h
  have hplain : ∀ c ∈ text.takeWhile isPlainChar, isPlainChar c := fun c => List.mem_takeWhile_imp
  have hsplit : text.takeWhile isPlainChar ++ text.dropWhile isPlainChar = text :=
    List.takeWhile_append_dropWhile
  split at hrest
  next rest hdrop =>
    rw [← hsplit, hdrop, lexRun_append, lexRun_plainChars hplain]
    rw [beq_iff_eq] at hrest
    simp [lexRun, lexStep, hrest, ← hdrop, hsplit]
  next => simp at hrest

theorem endsStr_literal {l suffix : List Char} {tokens : List Token}
    (h : endsStr l suffix tokens := by decide +kernel) :
    endsStr (String.ofList l).toList suffix tokens := by
  rwa [String.toList_ofList]

theorem lexRun_literal {l : List Char} {run : LexMode × List Token}
    (h : lexRun .code l = run := by decide +kernel) :
    lexRun .code (String.ofList l).toList = run := by
  rwa [String.toList_ofList]

theorem Lexes.string {before content behind read read' suffix : List Char}
    {tokens tokens' : List Token} (hbefore : lexRun .code before = (.str read, tokens))
    (hcontent : lexRun (.str read) content = (.str read', []))
    (hbehind : endsStr behind suffix tokens') :
    Lexes (before ++ (content ++ behind)) (tokens ++ .str (read'.reverse ++ suffix) :: tokens') := by
  rw [Lexes, lexRun_append, hbefore, lexRun_append, hcontent, lexRun_endsStr hbehind]
  rfl

end Foundations
