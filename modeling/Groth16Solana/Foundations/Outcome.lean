import Mathlib.Data.List.Forall2

/-! # Fallible computations

Rust's `Result` is `Except`: the `?` operator is its bind, `ok_or` and `map_err` are the two
definitions below, and each of the three is inverted once here. -/

set_option autoImplicit false

namespace Foundations

variable {ε ε' α β : Type*}

/-- `opt.ok_or(err)`. -/
def okOr (err : ε) : Option α → Except ε α
  | some a => .ok a
  | none => .error err

/-- `res.map_err(|_| err)`. -/
def mapErr (err : ε') : Except ε α → Except ε' α
  | .ok a => .ok a
  | .error _ => .error err

@[simp] theorem okOr_some (err : ε) (a : α) : okOr err (some a) = .ok a := rfl

@[simp] theorem okOr_none (err : ε) : okOr err (none : Option α) = .error err := rfl

@[simp] theorem mapErr_ok (err : ε') (a : α) : mapErr err (.ok a : Except ε α) = .ok a := rfl

@[simp] theorem mapErr_error (err : ε') (e : ε) :
    mapErr err (.error e : Except ε α) = .error err := rfl

@[simp] theorem ok_bind {ε α β : Type} (a : α) (f : α → Except ε β) : (Except.ok a >>= f) = f a := rfl

@[simp] theorem error_bind {ε α β : Type} (e : ε) (f : α → Except ε β) :
    (Except.error e >>= f) = Except.error e := rfl

theorem bind_eq_ok {ε α β : Type} {x : Except ε α} {f : α → Except ε β} {b : β} :
    (x >>= f) = .ok b ↔ ∃ a, x = .ok a ∧ f a = .ok b := by
  cases x with
  | error e => simp
  | ok a => simp

theorem bind_eq_error {ε α β : Type} {x : Except ε α} {f : α → Except ε β} {e : ε} :
    (x >>= f) = .error e ↔ x = .error e ∨ ∃ a, x = .ok a ∧ f a = .error e := by
  cases x with
  | error e' => simp
  | ok a => simp

theorem okOr_eq_ok {err : ε} {o : Option α} {a : α} : okOr err o = .ok a ↔ o = some a := by
  cases o <;> simp

theorem okOr_eq_error {err e : ε} {o : Option α} : okOr err o = .error e ↔ o = none ∧ err = e := by
  cases o <;> simp

theorem toOption_eq_some {x : Except ε α} {a : α} : x.toOption = some a ↔ x = .ok a := by
  cases x <;> simp [Except.toOption]

theorem mapErr_eq_ok {err : ε'} {x : Except ε α} {a : α} : mapErr err x = .ok a ↔ x = .ok a := by
  cases x <;> simp

theorem mapErr_eq_error {err e : ε'} {x : Except ε α} :
    mapErr err x = .error e ↔ (∃ e', x = .error e') ∧ err = e := by
  cases x <;> simp

theorem mapM_eq_some_iff {α β : Type} {f : α → Option β} {list : List α} {values : List β} :
    list.mapM f = some values ↔ List.Forall₂ (fun a b => f a = some b) list values := by
  induction list generalizing values with
  | nil => cases values <;> simp
  | cons a list ih =>
    rw [List.mapM_cons]
    constructor
    · intro h
      obtain ⟨b, hb, h⟩ := Option.bind_eq_some_iff.mp h
      obtain ⟨rest, hrest, h⟩ := Option.bind_eq_some_iff.mp h
      obtain rfl := Option.some.inj h
      exact List.Forall₂.cons hb (ih.mp hrest)
    · intro h
      cases h with
      | cons hb hrest =>
        rw [hb, ih.mpr hrest]
        rfl

theorem exists_of_forall₂ {α β : Type} {R : α → β → Prop} {list : List α} {values : List β}
    (h : List.Forall₂ R list values) : ∀ a ∈ list, ∃ b, R a b := by
  induction h with
  | nil => exact List.forall_mem_nil _
  | cons hb hrest ih => exact List.forall_mem_cons.mpr ⟨⟨_, hb⟩, ih⟩

theorem exists_forall₂ {α β : Type} {R : α → β → Prop} {list : List α}
    (h : ∀ a ∈ list, ∃ b, R a b) : ∃ values, List.Forall₂ R list values := by
  induction list with
  | nil => exact ⟨[], List.Forall₂.nil⟩
  | cons a list ih =>
    rw [List.forall_mem_cons] at h
    obtain ⟨⟨b, hb⟩, hrest⟩ := h
    obtain ⟨values, hvalues⟩ := ih hrest
    exact ⟨b :: values, List.Forall₂.cons hb hvalues⟩

/-! ## Checks in a row -/

section Checks
variable {ε α : Type} {f : α → Except ε Unit} {list : List α}

theorem forM_eq_ok_iff : list.forM f = .ok () ↔ ∀ a ∈ list, f a = .ok () := by
  induction list with
  | nil => exact ⟨fun _ => List.forall_mem_nil _, fun _ => rfl⟩
  | cons a list ih =>
    have hrun : (a :: list).forM f = (f a >>= fun _ => list.forM f) := rfl
    rw [hrun, bind_eq_ok, List.forall_mem_cons, ← ih]
    constructor
    · rintro ⟨⟨⟩, ha, hlist⟩
      exact ⟨ha, hlist⟩
    · rintro ⟨ha, hlist⟩
      exact ⟨(), ha, hlist⟩

/-- The error is that of the first check that fails. -/
theorem forM_eq_error_iff {err : ε} :
    list.forM f = .error err ↔
      ∃ before a after, list = before ++ a :: after ∧ (∀ b ∈ before, f b = .ok ()) ∧
        f a = .error err := by
  induction list with
  | nil =>
    constructor
    · intro h
      cases h
    · rintro ⟨before, a, after, hlist, -⟩
      simp at hlist
  | cons a list ih =>
    have hrun : (a :: list).forM f = (f a >>= fun _ => list.forM f) := rfl
    rw [hrun, bind_eq_error]
    constructor
    · rintro (ha | ⟨⟨⟩, ha, hlist⟩)
      · exact ⟨[], a, list, rfl, List.forall_mem_nil _, ha⟩
      · obtain ⟨before, b, after, rfl, hbefore, hb⟩ := ih.mp hlist
        exact ⟨a :: before, b, after, rfl, List.forall_mem_cons.mpr ⟨ha, hbefore⟩, hb⟩
    · rintro ⟨before, b, after, hlist, hbefore, hb⟩
      cases before with
      | nil =>
        obtain ⟨rfl, -⟩ := List.cons.inj hlist
        exact Or.inl hb
      | cons c before =>
        obtain ⟨rfl, htail⟩ := List.cons.inj hlist
        rw [List.forall_mem_cons] at hbefore
        exact Or.inr ⟨(), hbefore.1, ih.mpr ⟨before, b, after, htail, hbefore.2, hb⟩⟩

end Checks

/-! ## Loops as chains of states -/

/-- The chain of a loop's turns is its first turn and the chain of the others. -/
theorem exists_chain_succ_iff {α : Type} {k : ℕ} {R : ∀ j, j < k + 1 → α → α → Prop}
    {P : α → Prop} {a : α} :
    (∃ states : ℕ → α, states 0 = a ∧ P (states (k + 1)) ∧
        ∀ j (hj : j < k + 1), R j hj (states j) (states (j + 1))) ↔
      ∃ a', R 0 (Nat.succ_pos k) a a' ∧ ∃ states : ℕ → α, states 0 = a' ∧ P (states k) ∧
        ∀ j (hj : j < k), R (j + 1) (Nat.succ_lt_succ hj) (states j) (states (j + 1)) := by
  constructor
  · rintro ⟨states, rfl, hlast, hturns⟩
    exact ⟨states 1, hturns 0 (Nat.succ_pos k), fun j => states (j + 1), rfl, hlast,
      fun j hj => hturns (j + 1) (Nat.succ_lt_succ hj)⟩
  · rintro ⟨a', hfirst, states, rfl, hlast, hturns⟩
    refine ⟨fun j => Nat.casesOn j a states, rfl, hlast, ?_⟩
    intro j hj
    cases j with
    | zero => exact hfirst
    | succ j => exact hturns j (Nat.lt_of_succ_lt_succ hj)

/-! ## Computations that fail more often -/

/-- What the first computation returns the second one returns as well. The first one may fail where
the second one does not, and both may fail differently. -/
def OkLe (x : Except ε α) (y : Except ε' α) : Prop := ∀ a, x = .ok a → y = .ok a

theorem OkLe.refl (x : Except ε α) : OkLe x x := fun _ h => h

theorem OkLe.error (e : ε) (y : Except ε' α) : OkLe (.error e) y := by
  intro a h
  cases h

theorem OkLe.mapErr {x y : Except ε α} (h : OkLe x y) (err : ε') :
    OkLe (mapErr err x) (mapErr err y) := by
  intro a hx
  exact mapErr_eq_ok.mpr (h a (mapErr_eq_ok.mp hx))

theorem OkLe.okOr {o o' : Option α} (h : ∀ a, o = some a → o' = some a) (err : ε) :
    OkLe (okOr err o) (okOr err o') := by
  intro a ho
  exact okOr_eq_ok.mpr (h a (okOr_eq_ok.mp ho))

theorem OkLe.bind {ε α β : Type} {x y : Except ε α} {f g : α → Except ε β} (h : OkLe x y)
    (hnext : ∀ a, OkLe (f a) (g a)) : OkLe (x >>= f) (y >>= g) := by
  intro b hx
  obtain ⟨a, hxa, hfa⟩ := bind_eq_ok.mp hx
  exact bind_eq_ok.mpr ⟨a, h a hxa, hnext a b hfa⟩

/-! ## Loops with fuel -/

/-- Fuel above the bound gives `a`, and no fuel gives anything else. -/
structure Settles (run : ℕ → Option α) (bound : ℕ) (a : α) : Prop where
  enough : ∀ fuel, bound < fuel → run fuel = some a
  unique : ∀ fuel a', run fuel = some a' → a' = a

theorem settles_of_mono {run : ℕ → Option α} {bound : ℕ} {a : α}
    (hmono : ∀ fuel more a, run fuel = some a → run (fuel + more) = some a)
    (h : run (bound + 1) = some a) : Settles run bound a := by
  constructor
  · intro fuel hfuel
    have hrun := hmono (bound + 1) (fuel - (bound + 1)) a h
    rwa [Nat.add_sub_cancel' hfuel] at hrun
  · intro fuel a' h'
    have hrun := hmono (bound + 1) fuel a h
    have hrun' := hmono fuel (bound + 1) a' h'
    rw [Nat.add_comm, hrun'] at hrun
    exact Option.some.inj hrun

theorem settles_some (a : α) (bound : ℕ) : Settles (fun _ => some a) bound a where
  enough _ _ := rfl
  unique _ _ h := (Option.some.inj h).symm

theorem Settles.of_le {run : ℕ → Option α} {bound more : ℕ} {a : α} (h : Settles run bound a)
    (hle : bound ≤ more) : Settles run more a where
  enough fuel hfuel := h.enough fuel (Nat.lt_of_le_of_lt hle hfuel)
  unique := h.unique

/-- Two runs one after the other, on the same fuel. -/
theorem Settles.bind {run : ℕ → Option α} {next : ℕ → α → Option β} {bound : ℕ} {a : α} {b : β}
    (h : Settles run bound a) (hnext : Settles (fun fuel => next fuel a) bound b) :
    Settles (fun fuel => (run fuel).bind (next fuel)) bound b := by
  constructor
  · intro fuel hfuel
    rw [h.enough fuel hfuel, Option.bind_some, hnext.enough fuel hfuel]
  · intro fuel b' hb'
    obtain ⟨a', hrun, hnext'⟩ := Option.bind_eq_some_iff.mp hb'
    rw [h.unique fuel a' hrun] at hnext'
    exact hnext.unique fuel b' hnext'

theorem Settles.map {run : ℕ → Option α} {bound : ℕ} {a : α} (h : Settles run bound a) (f : α → β) :
    Settles (fun fuel => (run fuel).map f) bound (f a) := by
  constructor
  · intro fuel hfuel
    rw [h.enough fuel hfuel, Option.map_some]
  · intro fuel b hb
    obtain ⟨a', hrun, rfl⟩ := Option.map_eq_some_iff.mp hb
    rw [h.unique fuel a' hrun]

end Foundations
