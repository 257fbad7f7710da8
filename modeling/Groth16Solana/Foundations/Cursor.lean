import Groth16Solana.Foundations.BigEndian
import Groth16Solana.Foundations.Outcome

/-! # Reading a byte string from front to back

A `Reader` moves a cursor over a buffer or fails. `Recognizes p lang` says that `p` returns `a` just
after bytes of `lang a`; a reader composed of smaller ones recognizes the composition of their
languages. -/

set_option autoImplicit false

namespace Foundations

structure Cursor where
  buf : List UInt8
  pos : ℕ
  pos_le : pos ≤ buf.length

namespace Cursor

def new (buf : List UInt8) : Cursor := ⟨buf, 0, Nat.zero_le _⟩

def remaining (self : Cursor) : ℕ := self.buf.length - self.pos

def rest (self : Cursor) : List UInt8 := self.buf.drop self.pos

theorem rest_length (self : Cursor) : self.rest.length = self.remaining := List.length_drop

theorem pos_eq_iff (self : Cursor) : self.pos = self.buf.length ↔ self.rest = [] := by
  have hle := self.pos_le
  rw [rest, List.drop_eq_nil_iff]
  omega

/-- The cursor moves over `bytes`. -/
def Advances (c : Cursor) (bytes : List UInt8) (c' : Cursor) : Prop :=
  c'.buf = c.buf ∧ c.rest = bytes ++ c'.rest

theorem Advances.nil_iff {c c' : Cursor} : c.Advances [] c' ↔ c' = c := by
  constructor
  · rintro ⟨hbuf, hrest⟩
    obtain ⟨buf, pos, hle⟩ := c
    obtain ⟨buf', pos', hle'⟩ := c'
    cases hbuf
    have hlen := congrArg List.length hrest
    simp only [rest, List.nil_append, List.length_drop] at hlen
    obtain rfl : pos = pos' := by omega
    rfl
  · rintro rfl
    exact ⟨rfl, rfl⟩

theorem Advances.append_iff {c c'' : Cursor} {x y : List UInt8} :
    c.Advances (x ++ y) c'' ↔ ∃ c', c.Advances x c' ∧ c'.Advances y c'' := by
  constructor
  · rintro ⟨hbuf, hrest⟩
    have hlen := congrArg List.length hrest
    rw [List.append_assoc, List.length_append, rest_length, remaining] at hlen
    have hle := c.pos_le
    have hmid : c.buf.drop (c.pos + x.length) = y ++ c''.rest := by
      rw [← List.drop_drop, ← rest, hrest, List.append_assoc, List.drop_left]
    refine ⟨⟨c.buf, c.pos + x.length, by omega⟩, ⟨rfl, ?_⟩, hbuf, hmid⟩
    rw [hrest, List.append_assoc]
    exact congrArg (x ++ ·) hmid.symm
  · rintro ⟨c', ⟨hbuf, hrest⟩, hbuf', hrest'⟩
    exact ⟨hbuf'.trans hbuf, by rw [hrest, hrest', List.append_assoc]⟩

theorem Advances.trans {c c' c'' : Cursor} {x y : List UInt8} (h : c.Advances x c')
    (h' : c'.Advances y c'') : c.Advances (x ++ y) c'' :=
  Advances.append_iff.mpr ⟨c', h, h'⟩

end Cursor

/-- A computation that moves a cursor or fails. -/
abbrev Reader (ε α : Type) := StateT Cursor (Except ε) α

/-- `p` returns `a` just after bytes of `lang a`. -/
def Recognizes {ε α : Type} (p : Reader ε α) (lang : α → List UInt8 → Prop) : Prop :=
  ∀ c a c', p.run c = .ok (a, c') ↔ ∃ bytes, lang a bytes ∧ c.Advances bytes c'

namespace Recognizes

variable {ε α β : Type} {lang lang' : α → List UInt8 → Prop}

theorem congr {p : Reader ε α} (hp : Recognizes p lang) (h : ∀ a bytes, lang a bytes ↔ lang' a bytes) :
    Recognizes p lang' := by
  intro c a c'
  simp only [hp c a c', h]

theorem return_ (a : α) : Recognizes (pure a : Reader ε α) fun b bytes => b = a ∧ bytes = [] := by
  intro c b c'
  have hrun : (pure a : Reader ε α).run c = .ok (a, c) := rfl
  rw [hrun, Except.ok.injEq, Prod.mk.injEq]
  constructor
  · rintro ⟨rfl, rfl⟩
    exact ⟨[], ⟨rfl, rfl⟩, Cursor.Advances.nil_iff.mpr rfl⟩
  · rintro ⟨bytes, ⟨rfl, rfl⟩, hadvances⟩
    exact ⟨rfl, (Cursor.Advances.nil_iff.mp hadvances).symm⟩

theorem fail (err : ε) : Recognizes (throw err : Reader ε α) fun _ _ => False := by
  intro c b c'
  have hrun : (throw err : Reader ε α).run c = .error err := rfl
  simp [hrun]

theorem bind {p : Reader ε α} {f : α → Reader ε β} {lang' : α → β → List UInt8 → Prop}
    (hp : Recognizes p lang) (hf : ∀ a, Recognizes (f a) (lang' a)) :
    Recognizes (p >>= f) fun b bytes => ∃ a x y, lang a x ∧ lang' a b y ∧ bytes = x ++ y := by
  intro c b c''
  rw [StateT.run_bind, bind_eq_ok]
  constructor
  · rintro ⟨⟨a, c'⟩, hrun, hrun'⟩
    obtain ⟨x, hx, hadvances⟩ := (hp c a c').mp hrun
    obtain ⟨y, hy, hadvances'⟩ := (hf a c' b c'').mp hrun'
    exact ⟨x ++ y, ⟨a, x, y, hx, hy, rfl⟩, hadvances.trans hadvances'⟩
  · rintro ⟨_, ⟨a, x, y, hx, hy, rfl⟩, hadvances⟩
    obtain ⟨c', hfirst, hsecond⟩ := Cursor.Advances.append_iff.mp hadvances
    exact ⟨(a, c'), (hp c a c').mpr ⟨x, hx, hfirst⟩, (hf a c' b c'').mpr ⟨y, hy, hsecond⟩⟩

/-- A reader in front of its bytes stops behind them. -/
theorem exists_run {p : Reader ε α} (hp : Recognizes p lang) {a : α} {x y : List UInt8}
    (hlang : lang a x) {c : Cursor} (hrest : c.rest = x ++ y) :
    ∃ c', c'.rest = y ∧ p.run c = .ok (a, c') := by
  have hend : (⟨c.buf, c.buf.length, le_rfl⟩ : Cursor).rest = [] := (Cursor.pos_eq_iff _).mp rfl
  have hadvances : c.Advances (x ++ y) ⟨c.buf, c.buf.length, le_rfl⟩ :=
    ⟨rfl, by rw [hend, List.append_nil, hrest]⟩
  obtain ⟨c', hfirst, -⟩ := Cursor.Advances.append_iff.mp hadvances
  exact ⟨c', List.append_cancel_left (hfirst.2.symm.trans hrest), (hp c a c').mpr ⟨x, hlang, hfirst⟩⟩

theorem run_new_iff {p : Reader ε α} (hp : Recognizes p lang) {buf : List UInt8} {a : α} :
    (∃ c', p.run (Cursor.new buf) = .ok (a, c') ∧ c'.pos = buf.length) ↔ lang a buf := by
  have hstart : (Cursor.new buf).rest = buf := rfl
  constructor
  · rintro ⟨c', hrun, hend⟩
    obtain ⟨bytes, hlang, hbuf, hrest⟩ := (hp _ a c').mp hrun
    have hbuf' : c'.buf = buf := hbuf
    rw [(c'.pos_eq_iff).mp (by rw [hbuf', hend]), List.append_nil, hstart] at hrest
    exact hrest ▸ hlang
  · intro hlang
    refine ⟨⟨buf, buf.length, le_rfl⟩, (hp _ a _).mpr ⟨buf, hlang, rfl, ?_⟩, rfl⟩
    rw [hstart, (Cursor.pos_eq_iff _).mp rfl, List.append_nil]

end Recognizes

/-! ## Checks -/

section Checks

variable {ε α : Type} {lang : α → List UInt8 → Prop} (err : ε)

/-- `if cond { return Err(err); }`. -/
def refuse (cond : Prop) [Decidable cond] : Reader ε Unit := if cond then throw err else pure ()

/-- `cursor.remaining()`. -/
def remaining : Reader ε ℕ := fun self => .ok (self.remaining, self)

theorem recognizes_refuse (cond : Prop) [Decidable cond] :
    Recognizes (refuse err cond) fun _ bytes => ¬ cond ∧ bytes = [] := by
  unfold refuse
  by_cases hcond : cond
  · rw [if_pos hcond]
    exact (Recognizes.fail err).congr (by simp [hcond])
  · rw [if_neg hcond]
    exact (Recognizes.return_ ()).congr (by simp [hcond])

theorem run_check_remaining (p : Reader ε α) (bad : ℕ → Prop) [DecidablePred bad] (c : Cursor) :
    (remaining >>= fun left => refuse err (bad left) >>= fun _ => p).run c =
      if bad c.remaining then .error err else p.run c := by
  have hrun : (remaining >>= fun left => refuse err (bad left) >>= fun _ => p).run c =
      (refuse err (bad c.remaining) >>= fun _ => p).run c := rfl
  rw [hrun, refuse]
  split
  · rfl
  · rfl

/-- A check of how many bytes are left refuses nothing when the reader behind it needs as many. -/
theorem Recognizes.check_remaining {p : Reader ε α} (hp : Recognizes p lang) (bad : ℕ → Prop)
    [DecidablePred bad] (hlang : ∀ a x k, lang a x → ¬ bad (x.length + k)) :
    Recognizes (do
      let left ← remaining
      refuse err (bad left)
      p) lang := by
  intro c a c'
  rw [run_check_remaining]
  by_cases hbad : bad c.remaining
  · rw [if_pos hbad]
    simp only [reduceCtorEq, false_iff]
    rintro ⟨bytes, hbytes, -, hrest⟩
    have hlen := congrArg List.length hrest
    rw [List.length_append, Cursor.rest_length] at hlen
    exact hlang a bytes _ hbytes (hlen ▸ hbad)
  · rw [if_neg hbad]
    exact hp c a c'

end Checks

/-! ## Reading bytes -/

section Take

variable {ε : Type} (err : ε)

def takeBytes (n : ℕ) : Reader ε (Bytes n) := fun self =>
  if h : self.pos + n ≤ self.buf.length then
    .ok (Bytes.ofList ((self.buf.drop self.pos).take n) (by rw [List.length_take, List.length_drop]; omega),
      ⟨self.buf, self.pos + n, h⟩)
  else .error err

theorem recognizes_takeBytes (n : ℕ) :
    Recognizes (takeBytes err n) fun out bytes => bytes = out.toList := by
  intro c out c'
  have hrun : (takeBytes err n).run c = takeBytes err n c := rfl
  rw [hrun, takeBytes]
  have hle := c.pos_le
  split
  next h =>
    rw [Except.ok.injEq, Prod.mk.injEq]
    constructor
    · rintro ⟨rfl, rfl⟩
      refine ⟨_, rfl, rfl, ?_⟩
      simp only [Cursor.rest, Bytes.toList_ofList]
      rw [← List.drop_drop, List.take_append_drop]
    · rintro ⟨_, rfl, hadvances⟩
      obtain ⟨buf, pos, hpos⟩ := c
      obtain ⟨buf', pos', hpos'⟩ := c'
      obtain ⟨rfl, hrest⟩ := hadvances
      have hlen := congrArg List.length hrest
      simp only [Cursor.rest, List.length_append, List.length_drop, Vector.length_toList] at hrest hlen hle h
      obtain rfl : pos' = pos + n := by omega
      refine ⟨Vector.toList_inj.mp ?_, rfl⟩
      rw [Bytes.toList_ofList, hrest]
      exact List.take_left' Vector.length_toList
  next h =>
    simp only [reduceCtorEq, false_iff]
    rintro ⟨_, rfl, -, hrest⟩
    have hlen := congrArg List.length hrest
    rw [List.length_append, Cursor.rest_length, Cursor.remaining, Vector.length_toList] at hlen
    omega

def takeU32 : Reader ε ℕ := do
  let s ← takeBytes err 4
  return beNat s.toList

theorem recognizes_takeU32 :
    Recognizes (takeU32 err) fun v bytes => v < 2 ^ 32 ∧ bytes = beList 4 v := by
  refine ((recognizes_takeBytes err 4).bind fun s => Recognizes.return_ (beNat s.toList)).congr ?_
  intro v bytes
  constructor
  · rintro ⟨s, _, _, rfl, ⟨rfl, rfl⟩, rfl⟩
    have hlen : s.toList.length = 4 := Vector.length_toList
    exact ⟨beNat_lt_of_length hlen, by rw [List.append_nil, beList_of_beNat hlen rfl]⟩
  · rintro ⟨hv, rfl⟩
    exact ⟨beBytes 4 v, beList 4 v, [], rfl, ⟨(beNat_beList_of_lt hv).symm, rfl⟩, by simp⟩

end Take

section Many

variable {ε α : Type} {p : Reader ε α} {encode : α → List UInt8}

/-- `n` readings in a row. -/
def takeMany (p : Reader ε α) : ℕ → Reader ε (List α)
  | 0 => return []
  | n + 1 => do
    let a ← p
    let as ← takeMany p n
    return a :: as

theorem recognizes_takeMany (hp : Recognizes p fun a bytes => bytes = encode a) (n : ℕ) :
    Recognizes (takeMany p n) fun as bytes => as.length = n ∧ bytes = as.flatMap encode := by
  induction n with
  | zero =>
    refine (Recognizes.return_ []).congr ?_
    intro as bytes
    rw [List.length_eq_zero_iff]
    constructor
    · rintro ⟨rfl, rfl⟩
      exact ⟨rfl, rfl⟩
    · rintro ⟨rfl, rfl⟩
      exact ⟨rfl, rfl⟩
  | succ n ih =>
    refine (hp.bind fun a => ih.bind fun as => Recognizes.return_ (a :: as)).congr ?_
    intro as bytes
    constructor
    · rintro ⟨a, _, _, rfl, ⟨as, _, _, ⟨rfl, rfl⟩, ⟨rfl, rfl⟩, rfl⟩, rfl⟩
      simp
    · rintro ⟨hlen, rfl⟩
      obtain ⟨a, as, rfl⟩ := List.exists_cons_of_length_eq_add_one hlen
      exact ⟨a, _, _, rfl, ⟨as, _, _, ⟨by simpa using hlen, rfl⟩, ⟨rfl, rfl⟩, rfl⟩, by simp⟩

end Many

end Foundations
