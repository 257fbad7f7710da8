import Mathlib.Algebra.BigOperators.Group.Finset.Basic
import Mathlib.Algebra.Order.BigOperators.Group.Finset
import Mathlib.Data.Fintype.BigOperators
import Mathlib.Data.Set.Basic
import Groth16Solana.Foundations.RwLock

/-! # The constraint-system cache of the gnark fixture (`gnark-fixture/main.go`)

`Setup`, `Prove` and `NativeVerify` run concurrently and share the map `csCache` behind an RWMutex.
`compile` looks a variant up under the read lock, and again under the write lock before it compiles.
The callers are the points of a type, a state has the place of each of them, and a step is one
statement of one caller. -/

set_option autoImplicit false

namespace Groth16Solana.Fixture
open Foundations RwLock

/-- The field that Compile reads of a circuit without its witnesses. -/
structure LookupsCircuit where
  nbLookups : ℤ

def newCircuit (variant : ℤ) : Except String LookupsCircuit :=
  if variant < 1 ∨ variant > 3 then
    .error ("unknown variant " ++ toString variant ++ " (must be 1, 2, or 3)")
  else .ok ⟨variant⟩

/-- `fmt.Errorf("compile variant %d: %w", variant, err)`. -/
def compileError (variant : ℤ) (err : String) : String :=
  "compile variant " ++ toString variant ++ ": " ++ err

/-! ## One caller -/

/-- Where a caller is in `compile`. -/
inductive Place (CS : Type) where
  | start
  /-- Behind `RLock`. -/
  | reading
  | hit (cs : CS)
  | miss
  /-- In front of `Lock`. -/
  | locking
  | queued
  | pending
  /-- Behind `Lock`. -/
  | writing
  | building
  | storing (cs : CS)
  /-- In front of the deferred `Unlock`. -/
  | returning (res : Except String CS)
  | done (res : Except String CS)

variable {CS : Type}

def Place.hold : Place CS → Hold
  | .start => .free
  | .reading => .reading
  | .hit _ => .reading
  | .miss => .reading
  | .locking => .free
  | .queued => .queued
  | .pending => .pending
  | .writing => .writing
  | .building => .writing
  | .storing _ => .writing
  | .returning _ => .writing
  | .done _ => .free

section
variable (frontendCompile : LookupsCircuit → Set (Except String CS))

/-- The statements of `compile(variant)`, with the map they leave. gnark's compiler returns one of its
possible results. -/
inductive Move (variant : ℤ) (csCache : ℤ → Option CS) : Place CS → Place CS → (ℤ → Option CS) → Prop
  | rlock : Move variant csCache .start .reading csCache
  | found {cs : CS} (h : csCache variant = some cs) :
      Move variant csCache .reading (.hit cs) csCache
  | missing (h : csCache variant = none) : Move variant csCache .reading .miss csCache
  | runlockHit (cs : CS) : Move variant csCache (.hit cs) (.done (.ok cs)) csCache
  | runlockMiss : Move variant csCache .miss .locking csCache
  | queue : Move variant csCache .locking .queued csCache
  | turn : Move variant csCache .queued .pending csCache
  | lock : Move variant csCache .pending .writing csCache
  | foundAgain {cs : CS} (h : csCache variant = some cs) :
      Move variant csCache .writing (.returning (.ok cs)) csCache
  | missingAgain (h : csCache variant = none) : Move variant csCache .writing .building csCache
  | unknown {err : String} (h : newCircuit variant = .error err) :
      Move variant csCache .building (.returning (.error err)) csCache
  | failed {circuit : LookupsCircuit} {err : String} (h : newCircuit variant = .ok circuit)
      (hcompile : .error err ∈ frontendCompile circuit) :
      Move variant csCache .building (.returning (.error (compileError variant err))) csCache
  | compiled {circuit : LookupsCircuit} {cs : CS} (h : newCircuit variant = .ok circuit)
      (hcompile : .ok cs ∈ frontendCompile circuit) :
      Move variant csCache .building (.storing cs) csCache
  | store (cs : CS) :
      Move variant csCache (.storing cs) (.returning (.ok cs))
        (Function.update csCache variant (some cs))
  | unlock (res : Except String CS) : Move variant csCache (.returning res) (.done res) csCache

/-- What a call may answer for a variant. -/
inductive Answers (variant : ℤ) : Except String CS → Prop
  | unknown {err : String} (h : newCircuit variant = .error err) : Answers variant (.error err)
  | failed {circuit : LookupsCircuit} {err : String} (h : newCircuit variant = .ok circuit)
      (hcompile : .error err ∈ frontendCompile circuit) :
      Answers variant (.error (compileError variant err))
  | compiled {circuit : LookupsCircuit} {cs : CS} (h : newCircuit variant = .ok circuit)
      (hcompile : .ok cs ∈ frontendCompile circuit) : Answers variant (.ok cs)

/-! ## All callers -/

structure State (τ CS : Type) where
  place : τ → Place CS
  csCache : ℤ → Option CS

variable {τ : Type}

def State.hold (s : State τ CS) (t : τ) : Hold := (s.place t).hold

/-- Nobody has called and the map is empty. -/
def start : State τ CS := ⟨fun _ => .start, fun _ => none⟩

variable [DecidableEq τ] (variant : τ → ℤ)

/-- One statement of one caller, where the lock lets it. -/
def Step (s s' : State τ CS) : Prop :=
  ∃ t place csCache, Move frontendCompile (variant t) s.csCache (s.place t) place csCache ∧
    Grants s.hold (s.hold t) place.hold ∧ s' = ⟨Function.update s.place t place, csCache⟩

/-! ## The invariant -/

/-- What a caller may rely on where it is. -/
def Place.Sound (variant : ℤ) (csCache : ℤ → Option CS) : Place CS → Prop
  | .start => True
  | .reading => True
  | .hit cs => csCache variant = some cs
  | .miss => True
  | .locking => True
  | .queued => True
  | .pending => True
  | .writing => True
  | .building => csCache variant = none
  | .storing cs => csCache variant = none ∧ Answers frontendCompile variant (.ok cs)
  | .returning res => Answers frontendCompile variant res ∧ ∀ cs, res = .ok cs → csCache variant = some cs
  | .done res => Answers frontendCompile variant res ∧ ∀ cs, res = .ok cs → csCache variant = some cs

structure Inv (s : State τ CS) : Prop where
  exclusive : Exclusive s.hold
  cached : ∀ v cs, s.csCache v = some cs → Answers frontendCompile v (.ok cs)
  sound : ∀ t, (s.place t).Sound frontendCompile (variant t) s.csCache

end

section
variable {frontendCompile : LookupsCircuit → Set (Except String CS)} {τ : Type} {variant : τ → ℤ}

theorem inv_start : Inv frontendCompile variant (start : State τ CS) where
  exclusive := exclusive_free
  cached v cs h := by cases h
  sound t := trivial

/-- Only a store writes the map, where it holds nothing yet. -/
theorem Move.csCache_cases {v : ℤ} {csCache csCache' : ℤ → Option CS} {place place' : Place CS}
    (h : Move frontendCompile v csCache place place' csCache') :
    csCache' = csCache ∨
      ∃ cs, place = .storing cs ∧ csCache' = Function.update csCache v (some cs) := by
  cases h with
  | store cs => exact Or.inr ⟨cs, rfl, rfl⟩
  | _ => exact Or.inl rfl

theorem Move.sound {v : ℤ} {csCache csCache' : ℤ → Option CS} {place place' : Place CS}
    (h : Move frontendCompile v csCache place place' csCache')
    (hcached : ∀ cs, csCache v = some cs → Answers frontendCompile v (.ok cs))
    (hsound : place.Sound frontendCompile v csCache) :
    place'.Sound frontendCompile v csCache' := by
  cases h with
  | rlock => trivial
  | found h => exact h
  | missing => trivial
  | runlockHit cs =>
    refine ⟨hcached cs hsound, ?_⟩
    intro cs' h
    rw [← Except.ok.inj h]
    exact hsound
  | runlockMiss => trivial
  | queue => trivial
  | turn => trivial
  | lock => trivial
  | foundAgain h =>
    refine ⟨hcached _ h, ?_⟩
    intro cs' h'
    rw [← Except.ok.inj h']
    exact h
  | missingAgain h => exact h
  | unknown h =>
    refine ⟨.unknown h, ?_⟩
    intro cs h'
    cases h'
  | failed h hcompile =>
    refine ⟨.failed h hcompile, ?_⟩
    intro cs h'
    cases h'
  | compiled h hcompile => exact ⟨hsound, .compiled h hcompile⟩
  | store cs =>
    refine ⟨hsound.2, ?_⟩
    intro cs' h
    rw [← Except.ok.inj h, Function.update_self]
  | unlock => exact hsound

/-- What a caller relies on stays when the map grows, except behind `Lock`. -/
theorem Place.Sound.grow {place : Place CS} {v : ℤ} {csCache csCache' : ℤ → Option CS}
    (h : place.Sound frontendCompile v csCache)
    (hgrow : ∀ cs, csCache v = some cs → csCache' v = some cs) (hhold : place.hold ≠ .writing) :
    place.Sound frontendCompile v csCache' := by
  cases place with
  | hit cs => exact hgrow cs h
  | returning res => exact ⟨h.1, fun cs hcs => hgrow cs (h.2 cs hcs)⟩
  | done res => exact ⟨h.1, fun cs hcs => hgrow cs (h.2 cs hcs)⟩
  | building => exact absurd rfl hhold
  | storing => exact absurd rfl hhold
  | _ => trivial

variable {s s' : State τ CS}

/-- A caller in front of a statement on the map. -/
def Place.AtMap : Place CS → Prop
  | .reading => True
  | .writing => True
  | .storing _ => True
  | _ => False

theorem Inv.same_answer (hinv : Inv frontendCompile variant s) {t u : τ} {cs cs' : CS}
    (hvariant : variant t = variant u) (ht : s.place t = .done (.ok cs))
    (hu : s.place u = .done (.ok cs')) : cs = cs' := by
  have hsound := hinv.sound t
  have hsound' := hinv.sound u
  rw [ht] at hsound
  rw [hu] at hsound'
  have hcs := hsound.2 cs rfl
  have hcs' := hsound'.2 cs' rfl
  rw [hvariant, hcs'] at hcs
  exact (Option.some.inj hcs).symm

/-- A store is alone at the map. -/
theorem Inv.store_alone (hinv : Inv frontendCompile variant s) {t u : τ} {cs : CS}
    (ht : s.place t = .storing cs) (hne : u ≠ t) : ¬ (s.place u).AtMap := by
  have hwriting : s.hold t = .writing := by rw [State.hold, ht, Place.hold]
  have hturn := hinv.exclusive.turn t u (Or.inr hwriting) hne
  have hreading := hinv.exclusive.alone t u hwriting
  rw [State.hold] at hturn hreading
  cases hplace : s.place u with
  | reading => exact absurd (by rw [hplace, Place.hold]) hreading
  | writing => exact absurd (by rw [hplace]; exact Or.inr rfl) hturn
  | storing cs => exact absurd (by rw [hplace]; exact Or.inr rfl) hturn
  | _ => exact not_false

variable [DecidableEq τ]

theorem hold_update (place : τ → Place CS) (csCache : ℤ → Option CS) (t : τ) (next : Place CS) :
    State.hold ⟨Function.update place t next, csCache⟩ =
      Function.update (fun u => (place u).hold) t next.hold := by
  funext u
  by_cases h : u = t
  · subst h
    simp only [State.hold, Function.update_self]
  · simp only [State.hold, Function.update_of_ne h]

/-- A step keeps what the map holds. -/
theorem Step.csCache_le (hinv : Inv frontendCompile variant s)
    (h : Step frontendCompile variant s s') (v : ℤ) (cs : CS) (hcs : s.csCache v = some cs) :
    s'.csCache v = some cs := by
  obtain ⟨t, place, csCache, hmove, -, rfl⟩ := h
  rcases hmove.csCache_cases with rfl | ⟨cs', hstoring, rfl⟩
  · exact hcs
  · have hsound := hinv.sound t
    rw [hstoring] at hsound
    have hne : v ≠ variant t := by
      rintro rfl
      rw [hsound.1] at hcs
      cases hcs
    show Function.update s.csCache (variant t) (some cs') v = some cs
    rw [Function.update_of_ne hne]
    exact hcs

theorem Step.inv (hinv : Inv frontendCompile variant s) (h : Step frontendCompile variant s s') :
    Inv frontendCompile variant s' := by
  have hgrow := h.csCache_le hinv
  obtain ⟨t, place, csCache, hmove, hgrants, rfl⟩ := h
  constructor
  · rw [hold_update]
    exact hinv.exclusive.update hgrants
  · intro v cs hcs
    rcases hmove.csCache_cases with rfl | ⟨cs', hstoring, rfl⟩
    · exact hinv.cached v cs hcs
    · have hcs' : Function.update s.csCache (variant t) (some cs') v = some cs := hcs
      by_cases hv : v = variant t
      · have hsound := hinv.sound t
        rw [hstoring] at hsound
        rw [hv, Function.update_self] at hcs'
        rw [hv, ← Option.some.inj hcs']
        exact hsound.2
      · rw [Function.update_of_ne hv] at hcs'
        exact hinv.cached v cs hcs'
  · intro u
    by_cases hu : u = t
    · subst hu
      show (Function.update s.place u place u).Sound _ _ _
      rw [Function.update_self]
      exact hmove.sound (hinv.cached _) (hinv.sound u)
    · show (Function.update s.place t place u).Sound _ _ _
      rw [Function.update_of_ne hu]
      rcases hmove.csCache_cases with rfl | ⟨cs', hstoring, -⟩
      · exact hinv.sound u
      · have hwriting : (s.hold t).Turn := by
          rw [State.hold, hstoring]
          exact Or.inr rfl
        have hother := hinv.exclusive.turn t u hwriting hu
        exact (hinv.sound u).grow (hgrow _) fun h => hother (Or.inr h)

/-! ## Every schedule ends -/

/-- How many statements a caller has left at most. -/
def Place.rank : Place CS → ℕ
  | .start => 10
  | .reading => 9
  | .hit _ => 1
  | .miss => 8
  | .locking => 7
  | .queued => 6
  | .pending => 5
  | .writing => 4
  | .building => 3
  | .storing _ => 2
  | .returning _ => 1
  | .done _ => 0

theorem Move.rank_lt {v : ℤ} {csCache csCache' : ℤ → Option CS} {place place' : Place CS}
    (h : Move frontendCompile v csCache place place' csCache') : place'.rank < place.rank := by
  cases h <;> simp [Place.rank]

theorem Step.rank_lt [Fintype τ] (h : Step frontendCompile variant s s') :
    ∑ t, (s'.place t).rank < ∑ t, (s.place t).rank := by
  obtain ⟨t, place, csCache, hmove, -, rfl⟩ := h
  apply Finset.sum_lt_sum
  · intro u _
    by_cases hu : u = t
    · subst hu
      simp only [Function.update_self]
      exact hmove.rank_lt.le
    · simp only [Function.update_of_ne hu]
      exact le_rfl
  · refine ⟨t, Finset.mem_univ t, ?_⟩
    simp only [Function.update_self]
    exact hmove.rank_lt

theorem exists_step {t : τ} {place next : Place CS} {csCache : ℤ → Option CS}
    (hplace : s.place t = place) (hmove : Move frontendCompile (variant t) s.csCache place next csCache)
    (hgrants : Grants s.hold place.hold next.hold) : ∃ s', Step frontendCompile variant s s' := by
  subst hplace
  exact ⟨_, t, next, csCache, hmove, hgrants, rfl⟩

/-- Whoever holds the lock goes on. -/
theorem exists_step_of_held (hcompile : ∀ circuit, (frontendCompile circuit).Nonempty) {t : τ}
    (hheld : s.hold t = .reading ∨ s.hold t = .writing) : ∃ s', Step frontendCompile variant s s' := by
  rw [State.hold] at hheld
  cases hplace : s.place t with
  | reading =>
    cases hcached : s.csCache (variant t) with
    | none => exact exists_step hplace (.missing hcached) (.keep _)
    | some cs => exact exists_step hplace (.found hcached) (.keep _)
  | hit cs => exact exists_step hplace (.runlockHit cs) .runlock
  | miss => exact exists_step hplace .runlockMiss .runlock
  | writing =>
    cases hcached : s.csCache (variant t) with
    | none => exact exists_step hplace (.missingAgain hcached) (.keep _)
    | some cs => exact exists_step hplace (.foundAgain hcached) (.keep _)
  | building =>
    cases hcircuit : newCircuit (variant t) with
    | error err => exact exists_step hplace (.unknown hcircuit) (.keep _)
    | ok circuit =>
      obtain ⟨res, hres⟩ := hcompile circuit
      cases res with
      | error err => exact exists_step hplace (.failed hcircuit hres) (.keep _)
      | ok cs => exact exists_step hplace (.compiled hcircuit hres) (.keep _)
  | storing cs => exact exists_step hplace (.store cs) (.keep _)
  | returning res => exact exists_step hplace (.unlock res) .unlock
  | start => simp [hplace, Place.hold] at hheld
  | locking => simp [hplace, Place.hold] at hheld
  | queued => simp [hplace, Place.hold] at hheld
  | pending => simp [hplace, Place.hold] at hheld
  | done res => simp [hplace, Place.hold] at hheld

theorem place_of_pending {place : Place CS} (h : place.hold = .pending) : place = .pending := by
  cases place <;> simp [Place.hold] at h ⊢

theorem place_of_queued {place : Place CS} (h : place.hold = .queued) : place = .queued := by
  cases place <;> simp [Place.hold] at h ⊢

theorem place_of_free {place : Place CS} (h : place.hold = .free) :
    place = .start ∨ place = .locking ∨ ∃ res, place = .done res := by
  cases place <;> simp [Place.hold] at h ⊢

/-- No deadlock: some caller can go on unless all have answered. -/
theorem done_of_stuck (hcompile : ∀ circuit, (frontendCompile circuit).Nonempty)
    (hstuck : ∀ s', ¬ Step frontendCompile variant s s') (t : τ) : ∃ res, s.place t = .done res := by
  have hno := not_exists.mpr hstuck
  rcases held_or_granted s.hold with ⟨u, hheld⟩ | ⟨u, hpending, hgrants⟩ | ⟨u, hqueued, hgrants⟩ |
      ⟨hfree, hgrants⟩
  · exact absurd (exists_step_of_held hcompile hheld) hno
  · exact absurd (exists_step (place_of_pending hpending) .lock hgrants) hno
  · exact absurd (exists_step (place_of_queued hqueued) .turn hgrants) hno
  · rcases place_of_free (hfree t) with hplace | hplace | hdone
    · exact absurd (exists_step hplace .rlock hgrants) hno
    · exact absurd (exists_step hplace .queue .queue) hno
    · exact hdone

/-! ## Runs -/

/-- The first state's entries are in the second one's map. -/
def CacheLe (s s' : State τ CS) : Prop := ∀ v cs, s.csCache v = some cs → s'.csCache v = some cs

theorem run_inv {first : State τ CS} {states : List (State τ CS)}
    (hrun : List.IsChain (Step frontendCompile variant) (first :: states))
    (hfirst : Inv frontendCompile variant first) :
    ∀ s ∈ first :: states, Inv frontendCompile variant s := by
  apply hrun.induction (Inv frontendCompile variant)
  · intro s s' hstep hinv
    exact hstep.inv hinv
  · intro _
    exact hfirst

theorem run_cacheLe {first : State τ CS} {states : List (State τ CS)}
    (hrun : List.IsChain (Step frontendCompile variant) (first :: states))
    (hfirst : Inv frontendCompile variant first) : List.Pairwise CacheLe (first :: states) := by
  induction states generalizing first with
  | nil => exact List.pairwise_singleton _ _
  | cons next states ih =>
    obtain ⟨hstep, hrest⟩ := List.isChain_cons_cons.mp hrun
    have hle : CacheLe first next := hstep.csCache_le hfirst
    have hlater := ih hrest (hstep.inv hfirst)
    refine List.pairwise_cons.mpr ⟨?_, hlater⟩
    intro s hs
    rcases List.mem_cons.mp hs with rfl | hs
    · exact hle
    · intro v cs hcs
      exact (List.pairwise_cons.mp hlater).1 s hs v cs (hle v cs hcs)

/-- In every interleaving of finitely many calls the answers are those of one compilation for each
variant, the map is never written beside another access and no entry is replaced; and the calls end,
after ten statements each at the most, with an answer for every caller. -/
theorem compile_shares_one_system [Fintype τ] (hcompile : ∀ circuit, (frontendCompile circuit).Nonempty)
    {states : List (State τ CS)}
    (hrun : List.IsChain (Step frontendCompile variant) (start :: states)) :
    (∀ s ∈ start :: states,
      (∀ t res, s.place t = .done res → Answers frontendCompile (variant t) res) ∧
      (∀ t u cs cs', variant t = variant u → s.place t = .done (.ok cs) →
        s.place u = .done (.ok cs') → cs = cs') ∧
      (∀ t u cs, s.place t = .storing cs → u ≠ t → ¬ (s.place u).AtMap) ∧
      ((∀ s', ¬ Step frontendCompile variant s s') → ∀ t, ∃ res, s.place t = .done res)) ∧
    List.Pairwise CacheLe (start :: states) ∧ states.length ≤ 10 * Fintype.card τ := by
  refine ⟨?_, run_cacheLe hrun inv_start, ?_⟩
  · intro s hs
    have hinv := run_inv hrun inv_start s hs
    refine ⟨?_, ?_, ?_, done_of_stuck hcompile⟩
    · intro t res ht
      have hsound := hinv.sound t
      rw [ht] at hsound
      exact hsound.1
    · intro t u cs cs' hvariant ht hu
      exact hinv.same_answer hvariant ht hu
    · intro t u cs ht hne
      exact hinv.store_alone ht hne
  · have hlen := run_length_le (fun s : State τ CS => ∑ t, (s.place t).rank)
      (fun s s' h => Step.rank_lt h) hrun
    have hstart : ∑ t : τ, ((start : State τ CS).place t).rank = Fintype.card τ * 10 :=
      Finset.sum_const_nat fun _ _ => rfl
    rw [Nat.mul_comm]
    exact hlen.trans hstart.le

end

/-! ## Two callers -/

/-- A compiler with two results for every circuit. -/
def countLookups (circuit : LookupsCircuit) : Set (Except String ℤ) :=
  {.ok circuit.nbLookups, .ok (circuit.nbLookups + 1)}

def pair (first second : Place ℤ) (csCache : ℤ → Option ℤ) : State Bool ℤ :=
  ⟨fun t => if t then second else first, csCache⟩

section
variable {first second next : Place ℤ} {csCache csCache' : ℤ → Option ℤ}

theorem pair_step_first (hmove : Move countLookups 2 csCache first next csCache')
    (hgrants : Grants (pair first second csCache).hold first.hold next.hold) :
    Step countLookups (fun _ : Bool => 2) (pair first second csCache) (pair next second csCache') := by
  refine ⟨false, next, csCache', hmove, hgrants, ?_⟩
  rw [pair, State.mk.injEq]
  refine ⟨?_, rfl⟩
  funext t
  cases t <;> rfl

theorem pair_step_second (hmove : Move countLookups 2 csCache second next csCache')
    (hgrants : Grants (pair first second csCache).hold second.hold next.hold) :
    Step countLookups (fun _ : Bool => 2) (pair first second csCache) (pair first next csCache') := by
  refine ⟨true, next, csCache', hmove, hgrants, ?_⟩
  rw [pair, State.mk.injEq]
  refine ⟨?_, rfl⟩
  funext t
  cases t <;> rfl

end

def empty : ℤ → Option ℤ := fun _ => none

def stored : ℤ → Option ℤ := Function.update empty 2 (some 3)

/-- Both callers miss side by side and queue; the second one compiles and the first one finds it. -/
def pairRun : List (State Bool ℤ) :=
  [pair .reading .start empty, pair .reading .reading empty, pair .miss .reading empty,
    pair .miss .miss empty, pair .locking .miss empty, pair .locking .locking empty,
    pair .queued .locking empty, pair .queued .queued empty, pair .queued .pending empty,
    pair .queued .writing empty, pair .queued .building empty, pair .queued (.storing 3) empty,
    pair .queued (.returning (.ok 3)) stored, pair .queued (.done (.ok 3)) stored,
    pair .pending (.done (.ok 3)) stored, pair .writing (.done (.ok 3)) stored,
    pair (.returning (.ok 3)) (.done (.ok 3)) stored, pair (.done (.ok 3)) (.done (.ok 3)) stored]

theorem start_eq_pair : start = pair .start .start empty := by
  rw [start, pair, State.mk.injEq]
  refine ⟨?_, rfl⟩
  funext t
  cases t <;> rfl

theorem isChain_pairRun :
    List.IsChain (Step countLookups fun _ : Bool => 2) (start :: pairRun) := by
  have hcircuit : newCircuit 2 = .ok ⟨2⟩ := if_neg (by decide)
  have hstored : stored 2 = some 3 := Function.update_self ..
  rw [start_eq_pair]
  refine .cons_cons (pair_step_first .rlock (.rlock ?_)) ?_
  · simp [pair, State.hold, Hold.Turn, Place.hold]
  refine .cons_cons (pair_step_second .rlock (.rlock ?_)) ?_
  · simp [pair, State.hold, Hold.Turn, Place.hold]
  refine .cons_cons (pair_step_first (.missing rfl) (.keep _)) ?_
  refine .cons_cons (pair_step_second (.missing rfl) (.keep _)) ?_
  refine .cons_cons (pair_step_first .runlockMiss .runlock) ?_
  refine .cons_cons (pair_step_second .runlockMiss .runlock) ?_
  refine .cons_cons (pair_step_first .queue .queue) ?_
  refine .cons_cons (pair_step_second .queue .queue) ?_
  refine .cons_cons (pair_step_second .turn (.turn ?_)) ?_
  · simp [pair, State.hold, Hold.Turn, Place.hold]
  refine .cons_cons (pair_step_second .lock (.lock ?_)) ?_
  · simp [pair, State.hold, Place.hold]
  refine .cons_cons (pair_step_second (.missingAgain rfl) (.keep _)) ?_
  refine .cons_cons (pair_step_second (.compiled hcircuit (Or.inr rfl)) (.keep _)) ?_
  refine .cons_cons (pair_step_second (.store 3) (.keep _)) ?_
  refine .cons_cons (pair_step_second (.unlock _) .unlock) ?_
  refine .cons_cons (pair_step_first .turn (.turn ?_)) ?_
  · simp [pair, State.hold, Hold.Turn, Place.hold]
  refine .cons_cons (pair_step_first .lock (.lock ?_)) ?_
  · simp [pair, State.hold, Place.hold]
  refine .cons_cons (pair_step_first (.foundAgain hstored) (.keep _)) ?_
  exact .cons_cons (pair_step_first (.unlock _) .unlock) (.singleton _)

/-- The two callers get the one system that the second one compiled, and while it stores it the first
one is not at the map. -/
theorem compile_shares_one_system_pair :
    (∀ t, (pair (.done (.ok 3)) (.done (.ok 3)) stored).place t = .done (.ok 3)) ∧
      (∀ t u cs cs', (pair (.done (.ok 3)) (.done (.ok 3)) stored).place t = .done (.ok cs) →
        (pair (.done (.ok 3)) (.done (.ok 3)) stored).place u = .done (.ok cs') → cs = cs') ∧
      ¬ ((pair .queued (.storing 3) empty).place false).AtMap ∧
      List.Pairwise CacheLe (start :: pairRun) ∧ pairRun.length ≤ 10 * Fintype.card Bool := by
  have hcompile : ∀ circuit, (countLookups circuit).Nonempty := by
    intro circuit
    exact ⟨.ok circuit.nbLookups, Or.inl rfl⟩
  obtain ⟨hstates, hgrows, hlen⟩ := compile_shares_one_system hcompile isChain_pairRun
  have hend := hstates (pair (.done (.ok 3)) (.done (.ok 3)) stored) (by simp [pairRun])
  have hstoring := hstates (pair .queued (.storing 3) empty) (by simp [pairRun])
  refine ⟨?_, ?_, ?_, hgrows, hlen⟩
  · intro t
    cases t <;> rfl
  · intro t u cs cs' ht hu
    exact hend.2.1 t u cs cs' rfl ht hu
  · exact hstoring.2.2.1 true false 3 rfl Bool.false_ne_true

end Groth16Solana.Fixture
