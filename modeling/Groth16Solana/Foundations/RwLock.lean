import Mathlib.Data.List.Chain
import Mathlib.Logic.Function.Basic

/-! # A lock for readers and writers

Any number of callers hold the lock for reading or one of them for writing. The callers are the points
of a type. -/

set_option autoImplicit false

namespace Foundations

/-! ## Runs of a step relation -/

/-- A rank that falls in every step bounds the length of a run. -/
theorem run_length_le {α : Type*} {step : α → α → Prop} (rank : α → ℕ)
    (hrank : ∀ s s', step s s' → rank s' < rank s) {start : α} {states : List α}
    (hrun : List.IsChain step (start :: states)) : states.length ≤ rank start := by
  induction states generalizing start with
  | nil => exact Nat.zero_le _
  | cons next states ih =>
    obtain ⟨hfirst, hrest⟩ := List.isChain_cons_cons.mp hrun
    have hle := ih hrest
    have hlt := hrank _ _ hfirst
    rw [List.length_cons]
    omega

namespace RwLock

/-- What a caller has of the lock. Writers queue for their turn; the one whose turn it is keeps new
readers out and waits for those inside. -/
inductive Hold where
  | free
  | reading
  | queued
  | pending
  | writing
deriving DecidableEq

variable {τ : Type*} {hold : τ → Hold}

def Hold.Turn (own : Hold) : Prop := own = .pending ∨ own = .writing

/-- Where a caller may go from what it has. -/
inductive Grants (hold : τ → Hold) : Hold → Hold → Prop
  | rlock (h : ∀ u, ¬ (hold u).Turn) : Grants hold .free .reading
  | runlock : Grants hold .reading .free
  | queue : Grants hold .free .queued
  | turn (h : ∀ u, ¬ (hold u).Turn) : Grants hold .queued .pending
  | lock (h : ∀ u, hold u ≠ .reading) : Grants hold .pending .writing
  | unlock : Grants hold .writing .free
  | keep (own : Hold) : Grants hold own own

/-- One caller has the turn, and nobody reads beside a writer. -/
structure Exclusive (hold : τ → Hold) : Prop where
  turn : ∀ t u, (hold t).Turn → u ≠ t → ¬ (hold u).Turn
  alone : ∀ t u, hold t = .writing → hold u ≠ .reading

theorem exclusive_free : Exclusive (fun _ : τ => Hold.free) where
  turn t u h := by simp [Hold.Turn] at h
  alone t u h := by cases h

theorem Grants.turn_cases {before own : Hold} (h : Grants hold before own) (hown : own.Turn) :
    before.Turn ∨ ∀ u, ¬ (hold u).Turn := by
  cases h with
  | rlock hfree => exact Or.inr hfree
  | turn hfree => exact Or.inr hfree
  | lock => exact Or.inl (Or.inl rfl)
  | keep => exact Or.inl hown
  | runlock => simp [Hold.Turn] at hown
  | queue => simp [Hold.Turn] at hown
  | unlock => simp [Hold.Turn] at hown

theorem Grants.reading_cases {before : Hold} (h : Grants hold before .reading) :
    before = .reading ∨ ∀ u, ¬ (hold u).Turn := by
  cases h with
  | rlock hfree => exact Or.inr hfree
  | keep => exact Or.inl rfl

theorem Grants.writing_cases {before : Hold} (h : Grants hold before .writing) :
    before = .writing ∨ ∀ u, hold u ≠ .reading := by
  cases h with
  | lock hnone => exact Or.inr hnone
  | keep => exact Or.inl rfl

theorem Exclusive.update [DecidableEq τ] (h : Exclusive hold) {t : τ} {own : Hold}
    (hgrants : Grants hold (hold t) own) : Exclusive (Function.update hold t own) := by
  constructor
  · intro a u ha hne
    by_cases hat : a = t
    · subst hat
      rw [Function.update_self] at ha
      rw [Function.update_of_ne hne]
      rcases hgrants.turn_cases ha with hbefore | hfree
      · exact h.turn a u hbefore hne
      · exact hfree u
    · rw [Function.update_of_ne hat] at ha
      by_cases hut : u = t
      · subst hut
        rw [Function.update_self]
        intro hown
        rcases hgrants.turn_cases hown with hbefore | hfree
        · exact h.turn a u ha hne hbefore
        · exact hfree a ha
      · rw [Function.update_of_ne hut]
        exact h.turn a u ha hne
  · intro a u ha hu
    by_cases hat : a = t
    · subst hat
      rw [Function.update_self] at ha
      subst ha
      by_cases hua : u = a
      · rw [hua, Function.update_self] at hu
        cases hu
      · rw [Function.update_of_ne hua] at hu
        rcases hgrants.writing_cases with hbefore | hnone
        · exact h.alone a u hbefore hu
        · exact hnone u hu
    · rw [Function.update_of_ne hat] at ha
      by_cases hut : u = t
      · subst hut
        rw [Function.update_self] at hu
        subst hu
        rcases hgrants.reading_cases with hbefore | hfree
        · exact h.alone a u ha hbefore
        · exact hfree a (Or.inr ha)
      · rw [Function.update_of_ne hut] at hu
        exact h.alone a u ha hu

/-- Somebody holds the lock, or the next writer is let in, or everybody is. -/
theorem held_or_granted (hold : τ → Hold) :
    (∃ t, hold t = .reading ∨ hold t = .writing) ∨
      (∃ t, hold t = .pending ∧ Grants hold .pending .writing) ∨
      (∃ t, hold t = .queued ∧ Grants hold .queued .pending) ∨
      (∀ t, hold t = .free) ∧ Grants hold .free .reading := by
  by_cases hheld : ∃ t, hold t = .reading ∨ hold t = .writing
  · exact Or.inl hheld
  have hnone : ∀ u, hold u ≠ .reading ∧ hold u ≠ .writing := by
    intro u
    exact not_or.mp (not_exists.mp hheld u)
  by_cases hpending : ∃ t, hold t = .pending
  · obtain ⟨t, ht⟩ := hpending
    exact Or.inr (Or.inl ⟨t, ht, .lock fun u => (hnone u).1⟩)
  have hturn : ∀ u, ¬ (hold u).Turn := by
    intro u hu
    rcases hu with hu | hu
    · exact hpending ⟨u, hu⟩
    · exact (hnone u).2 hu
  by_cases hqueued : ∃ t, hold t = .queued
  · obtain ⟨t, ht⟩ := hqueued
    exact Or.inr (Or.inr (Or.inl ⟨t, ht, .turn hturn⟩))
  · refine Or.inr (Or.inr (Or.inr ⟨?_, .rlock hturn⟩))
    intro t
    cases h : hold t with
    | free => rfl
    | reading => exact absurd h (hnone t).1
    | queued => exact absurd ⟨t, h⟩ hqueued
    | pending => exact absurd ⟨t, h⟩ hpending
    | writing => exact absurd h (hnone t).2

end RwLock

end Foundations
