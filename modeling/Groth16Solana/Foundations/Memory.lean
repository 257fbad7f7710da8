import Groth16Solana.Foundations.Cursor

/-! # Reading bytes by index

Code that indexes its buffer panics out of bounds, and every `Vec::with_capacity` asks the allocator for
room. Both are part of a run here, and what was asked for stays known when the run fails. `Simulates` says
that code does what a reader does, without a panic and with every request in bounds. -/

set_option autoImplicit false

namespace Foundations

/-- A buffer, the position in it and the capacities asked for. -/
structure Memory where
  buf : List UInt8
  pos : ℕ
  capacities : List ℕ

def Memory.new (buf : List UInt8) : Memory := ⟨buf, 0, []⟩

/-- How a run ends without a value. -/
inductive Halt (ε : Type) where
  | returned (err : ε)
  | panicked
deriving DecidableEq

abbrev Code (ε α : Type) := ExceptT (Halt ε) (StateM Memory) α

namespace Code

variable {ε α β : Type}

/-- The value or the halt, and the memory left behind. -/
def exec (code : Code ε α) (mem : Memory) : Except (Halt ε) α × Memory := code.run.run mem

/-- `return Err(err)`. -/
def fail (err : ε) : Code ε α := throw (.returned err)

/-- `panic!()`. -/
def abort : Code ε α := throw .panicked

/-- `opt.ok_or(err)?`. -/
def okOr (err : ε) : Option α → Code ε α
  | some a => pure a
  | none => fail err

/-- `&xs[lo..hi]`. -/
def range (xs : List α) (lo hi : ℕ) : Code ε (List α) :=
  if lo ≤ hi ∧ hi ≤ xs.length then pure ((xs.take hi).drop lo) else abort

/-- `xs[i]`. -/
def index (xs : List α) (i : ℕ) : Code ε α :=
  match xs[i]? with
  | some a => pure a
  | none => abort

/-- `out.copy_from_slice(s)` into an array of `n` bytes. -/
def copyFromSlice (n : ℕ) (s : List UInt8) : Code ε (Bytes n) :=
  if h : s.length = n then pure (Bytes.ofList s h) else abort

/-- `Vec::with_capacity(capacity)`. -/
def withCapacity (capacity : ℕ) : Code ε Unit :=
  modify fun mem => { mem with capacities := capacity :: mem.capacities }

@[simp] theorem exec_pure (a : α) (mem : Memory) : exec (pure a : Code ε α) mem = (.ok a, mem) := rfl

@[simp] theorem exec_fail (err : ε) (mem : Memory) :
    exec (fail err : Code ε α) mem = (.error (.returned err), mem) := rfl

@[simp] theorem exec_get (mem : Memory) : exec (get : Code ε Memory) mem = (.ok mem, mem) := rfl

@[simp] theorem exec_set (mem mem' : Memory) : exec (set mem' : Code ε Unit) mem = (.ok (), mem') := rfl

@[simp] theorem exec_withCapacity (capacity : ℕ) (mem : Memory) :
    exec (withCapacity capacity : Code ε Unit) mem =
      (.ok (), { mem with capacities := capacity :: mem.capacities }) := rfl

theorem exec_bind_ok {code : Code ε α} {a : α} {mem mem' : Memory} (h : exec code mem = (.ok a, mem'))
    (f : α → Code ε β) : exec (code >>= f) mem = exec (f a) mem' := by
  unfold exec at *
  rw [ExceptT.run_bind, StateT.run_bind, h]
  rfl

theorem exec_bind_error {code : Code ε α} {halt : Halt ε} {mem mem' : Memory}
    (h : exec code mem = (.error halt, mem')) (f : α → Code ε β) :
    exec (code >>= f) mem = (.error halt, mem') := by
  unfold exec at *
  rw [ExceptT.run_bind, StateT.run_bind, h]
  rfl

theorem range_eq {xs : List α} {lo hi : ℕ} (h : lo ≤ hi ∧ hi ≤ xs.length) :
    (range xs lo hi : Code ε (List α)) = pure ((xs.take hi).drop lo) := if_pos h

theorem copyFromSlice_eq {n : ℕ} {s : List UInt8} (h : s.length = n) :
    (copyFromSlice n s : Code ε (Bytes n)) = pure (Bytes.ofList s h) := dif_pos h

end Code

/-! ## Code that does what a reader does -/

/-- The memory and the cursor stand at one place of `buf`, and no request was above `bound`. -/
structure Mirrors (buf : List UInt8) (bound : ℕ) (mem : Memory) (c : Cursor) : Prop where
  buf_eq : mem.buf = buf
  cursor_buf : c.buf = buf
  pos_eq : mem.pos = c.pos
  bounded : ∀ capacity ∈ mem.capacities, capacity ≤ bound

/-- How a run of the code may end where the reader's run ends so: never in a panic. -/
inductive Matches (buf : List UInt8) (bound : ℕ) {ε α : Type} :
    Except (Halt ε) α × Memory → Except ε (α × Cursor) → Prop
  | ok {a : α} {mem : Memory} {c : Cursor} (h : Mirrors buf bound mem c) :
    Matches buf bound (.ok a, mem) (.ok (a, c))
  | error {err : ε} {mem : Memory} (h : ∀ capacity ∈ mem.capacities, capacity ≤ bound) :
    Matches buf bound (.error (.returned err), mem) (.error err)

def Simulates (buf : List UInt8) (bound : ℕ) {ε α : Type} (code : Code ε α) (p : Reader ε α) : Prop :=
  ∀ mem c, Mirrors buf bound mem c → Matches buf bound (code.exec mem) (p.run c)

namespace Simulates

variable {ε α β : Type} {buf : List UInt8} {bound : ℕ} {code : Code ε α} {p : Reader ε α}

theorem pure_ (a : α) : Simulates buf bound (pure a : Code ε α) (pure a) := fun _ _ h => .ok h

/-- The second part may use what the first is known to return. -/
theorem bind_of (known : α → Prop) {f : α → Code ε β} {g : α → Reader ε β}
    (hcode : Simulates buf bound code p)
    (hknown : ∀ c a c', c.buf = buf → p.run c = .ok (a, c') → known a)
    (hf : ∀ a, known a → Simulates buf bound (f a) (g a)) :
    Simulates buf bound (code >>= f) (p >>= g) := by
  intro mem c hmirrors
  have hmatches := hcode mem c hmirrors
  rw [StateT.run_bind]
  generalize hexec : code.exec mem = ending at hmatches
  generalize hrun : p.run c = result at hmatches
  cases hmatches with
  | @ok a mem' c' hmirrors' =>
    rw [Code.exec_bind_ok hexec, ok_bind]
    exact hf a (hknown c a c' hmirrors.cursor_buf hrun) mem' c' hmirrors'
  | error hbounded =>
    rw [Code.exec_bind_error hexec, error_bind]
    exact .error hbounded

theorem bind {f : α → Code ε β} {g : α → Reader ε β} (hcode : Simulates buf bound code p)
    (hf : ∀ a, Simulates buf bound (f a) (g a)) : Simulates buf bound (code >>= f) (p >>= g) :=
  bind_of (fun _ => True) hcode (fun _ _ _ _ _ => trivial) fun a _ => hf a

/-- The code's first value may be the reader's in another form. -/
theorem bind_map {γ : Type} {form : α → γ} {code : Code ε γ} {f : γ → Code ε β} {g : α → Reader ε β}
    (hcode : Simulates buf bound code (form <$> p)) (hf : ∀ a, Simulates buf bound (f (form a)) (g a)) :
    Simulates buf bound (code >>= f) (p >>= g) := by
  intro mem c hmirrors
  have hmatches := hcode mem c hmirrors
  rw [StateT.run_map] at hmatches
  rw [StateT.run_bind]
  generalize hexec : code.exec mem = ending at hmatches
  cases hrun : p.run c with
  | ok result =>
    obtain ⟨a, c'⟩ := result
    rw [hrun] at hmatches
    cases hmatches with
    | ok hmirrors' =>
      rw [Code.exec_bind_ok hexec, ok_bind]
      exact hf a _ c' hmirrors'
  | error err =>
    rw [hrun] at hmatches
    cases hmatches with
    | error hbounded =>
      rw [Code.exec_bind_error hexec, error_bind]
      exact .error hbounded

/-- A check that returns early. -/
theorem guard (err : ε) (cond : Prop) [Decidable cond] (h : ¬ cond → Simulates buf bound code p) :
    Simulates buf bound (if cond then Code.fail err else code) (refuse err cond >>= fun _ => p) := by
  unfold refuse
  by_cases hcond : cond
  · rw [if_pos hcond, if_pos hcond]
    exact fun _ _ hmirrors => .error hmirrors.bounded
  · rw [if_neg hcond, if_neg hcond]
    exact h hcond

/-- Code may ask for room that is in bounds. -/
theorem withCapacity {capacity : ℕ} (hbound : capacity ≤ bound) (h : Simulates buf bound code p) :
    Simulates buf bound (Code.withCapacity capacity >>= fun _ => code) p := by
  intro mem c hmirrors
  rw [Code.exec_bind_ok (Code.exec_withCapacity capacity mem)]
  refine h _ c ⟨hmirrors.buf_eq, hmirrors.cursor_buf, hmirrors.pos_eq, ?_⟩
  exact List.forall_mem_cons.mpr ⟨hbound, hmirrors.bounded⟩

end Simulates

end Foundations
