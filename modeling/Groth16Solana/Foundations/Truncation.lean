import Groth16Solana.Foundations.Cursor

/-! # Buffers that end too early

A reader refuses cuts when it fails, always with the same error, on a buffer that ends inside bytes it
would read. Composed readers refuse cuts when their parts do: the cut is in the first part, or the first
part is read and the cut is in the second. -/

set_option autoImplicit false

namespace Foundations

def RefusesCuts {ε α : Type} (err : ε) (p : Reader ε α) (lang : α → List UInt8 → Prop) : Prop :=
  ∀ c a bytes, lang a bytes → c.rest <+: bytes → c.rest.length < bytes.length → p.run c = .error err

/-- `p` returns `a` just after bytes of `lang a`, and fails with `err` inside them. -/
structure Reads {ε α : Type} (err : ε) (p : Reader ε α) (lang : α → List UInt8 → Prop) : Prop where
  recognizes : Recognizes p lang
  refusesCuts : RefusesCuts err p lang

namespace Reads

variable {ε α β : Type} {err : ε} {p : Reader ε α} {lang lang' : α → List UInt8 → Prop}

theorem congr (hp : Reads err p lang) (h : ∀ a bytes, lang a bytes ↔ lang' a bytes) :
    Reads err p lang' := by
  refine ⟨hp.recognizes.congr h, ?_⟩
  intro c a bytes hlang hprefix hshort
  exact hp.refusesCuts c a bytes ((h a bytes).mpr hlang) hprefix hshort

/-- A reader that reads no bytes is never cut. -/
theorem of_nil (hp : Recognizes p lang) (hnil : ∀ a bytes, lang a bytes → bytes = []) :
    Reads err p lang := by
  refine ⟨hp, ?_⟩
  intro c a bytes hlang _ hshort
  rw [hnil a bytes hlang] at hshort
  exact absurd hshort (Nat.not_lt_zero _)

theorem return_ (a : α) : Reads err (pure a : Reader ε α) fun b bytes => b = a ∧ bytes = [] :=
  of_nil (Recognizes.return_ a) fun _ _ h => h.2

theorem refuse_ (err' : ε) (cond : Prop) [Decidable cond] :
    Reads err (refuse err' cond) fun _ bytes => ¬ cond ∧ bytes = [] :=
  of_nil (recognizes_refuse err' cond) fun _ _ h => h.2

theorem bind {f : α → Reader ε β} {lang' : α → β → List UInt8 → Prop} (hp : Reads err p lang)
    (hf : ∀ a, Reads err (f a) (lang' a)) :
    Reads err (p >>= f) fun b bytes => ∃ a x y, lang a x ∧ lang' a b y ∧ bytes = x ++ y := by
  refine ⟨hp.recognizes.bind fun a => (hf a).recognizes, ?_⟩
  rintro c b _ ⟨a, x, y, hx, hy, rfl⟩ hprefix hshort
  rw [StateT.run_bind]
  by_cases hcut : c.rest.length < x.length
  · have hfirst : c.rest <+: x :=
      List.prefix_of_prefix_length_le hprefix (List.prefix_append x y) hcut.le
    rw [hp.refusesCuts c a x hx hfirst hcut, error_bind]
  · have hwhole : x <+: c.rest :=
      List.prefix_of_prefix_length_le (List.prefix_append x y) hprefix (Nat.not_lt.mp hcut)
    obtain ⟨left, hleft⟩ := hwhole
    obtain ⟨c', rfl, hrun⟩ := hp.recognizes.exists_run hx hleft.symm
    rw [← hleft, List.prefix_append_right_inj] at hprefix
    rw [← hleft, List.length_append, List.length_append] at hshort
    rw [hrun, ok_bind]
    exact (hf a).refusesCuts c' b y hy hprefix (by omega)

theorem choice {q : Reader ε α} (cond : Prop) [Decidable cond] (hp : Reads err p lang)
    (hq : Reads err q lang') :
    Reads err (if cond then p else q) fun a bytes => if cond then lang a bytes else lang' a bytes := by
  by_cases hcond : cond
  · rw [if_pos hcond]
    exact hp.congr (by simp [hcond])
  · rw [if_neg hcond]
    exact hq.congr (by simp [hcond])

theorem takeBytes_ (err : ε) (n : ℕ) :
    Reads err (takeBytes err n) fun out bytes => bytes = out.toList := by
  refine ⟨recognizes_takeBytes err n, ?_⟩
  rintro c out _ rfl - hshort
  have hle := c.pos_le
  rw [Vector.length_toList, Cursor.rest_length, Cursor.remaining] at hshort
  exact dif_neg (by omega)

theorem takeU32_ (err : ε) : Reads err (takeU32 err) fun v bytes => v < 2 ^ 32 ∧ bytes = beList 4 v := by
  refine ⟨recognizes_takeU32 err, ?_⟩
  rintro c v _ ⟨-, rfl⟩ hprefix hshort
  have hword := (takeBytes_ err 4).bind fun s => return_ (beNat s.toList)
  refine hword.refusesCuts c (beNat (beBytes 4 v).toList) (beList 4 v) ?_ hprefix hshort
  exact ⟨beBytes 4 v, beList 4 v, [], rfl, ⟨rfl, rfl⟩, by simp⟩

theorem takeMany_ {encode : α → List UInt8} (hp : Reads err p fun a bytes => bytes = encode a) (n : ℕ) :
    Reads err (takeMany p n) fun as bytes => as.length = n ∧ bytes = as.flatMap encode := by
  refine ⟨recognizes_takeMany hp.recognizes n, ?_⟩
  induction n with
  | zero =>
    rintro c as _ ⟨hlen, rfl⟩ - hshort
    rw [List.length_eq_zero_iff.mp hlen] at hshort
    exact absurd hshort (Nat.not_lt_zero _)
  | succ n ih =>
    rintro c as _ ⟨hlen, rfl⟩ hprefix hshort
    obtain ⟨a, as, rfl⟩ := List.exists_cons_of_length_eq_add_one hlen
    have hrest : Reads err (takeMany p n) _ := ⟨recognizes_takeMany hp.recognizes n, ih⟩
    have hturn := hp.bind fun a => hrest.bind fun as => return_ (a :: as)
    refine hturn.refusesCuts c (a :: as) _ ?_ hprefix hshort
    exact ⟨a, _, _, rfl, ⟨as, _, _, ⟨by simpa using hlen, rfl⟩, ⟨rfl, rfl⟩, rfl⟩, by simp⟩

/-- A check of how many bytes are left may refuse a cut buffer first. -/
theorem check_remaining (hp : Reads err p lang) (bad : ℕ → Prop) [DecidablePred bad]
    (hlang : ∀ a x k, lang a x → ¬ bad (x.length + k)) :
    Reads err (do
      let left ← remaining
      refuse err (bad left)
      p) lang := by
  refine ⟨hp.recognizes.check_remaining err bad hlang, ?_⟩
  intro c a bytes hbytes hprefix hshort
  rw [run_check_remaining]
  by_cases hbad : bad c.remaining
  · rw [if_pos hbad]
  · rw [if_neg hbad]
    exact hp.refusesCuts c a bytes hbytes hprefix hshort

/-! ## Whole buffers -/

/-- A buffer cut anywhere inside bytes of the language is refused. -/
theorem run_new_take (hp : Reads err p lang) {buf : List UInt8} {a : α} (h : lang a buf) {k : ℕ}
    (hk : k < buf.length) : p.run (Cursor.new (buf.take k)) = .error err := by
  refine hp.refusesCuts (Cursor.new (buf.take k)) a buf h (List.take_prefix k buf) ?_
  have hrest : (Cursor.new (buf.take k)).rest = buf.take k := rfl
  rw [hrest, List.length_take]
  omega

/-- Bytes behind are left where they are. -/
theorem run_new_append (hp : Reads err p lang) {buf : List UInt8} {a : α} (h : lang a buf)
    (behind : List UInt8) :
    ∃ c', p.run (Cursor.new (buf ++ behind)) = .ok (a, c') ∧ c'.pos = buf.length := by
  have hrest : (Cursor.new (buf ++ behind)).rest = buf ++ behind := rfl
  refine ⟨⟨buf ++ behind, buf.length, by simp⟩, ?_, rfl⟩
  refine (hp.recognizes _ a _).mpr ⟨buf, h, rfl, ?_⟩
  rw [hrest, Cursor.rest, List.drop_left]

end Reads

end Foundations
