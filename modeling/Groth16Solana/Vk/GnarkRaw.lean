import Groth16Solana.Foundations.Memory
import Groth16Solana.Vk.GnarkGrammar

/-! # The parser with its indices and its allocation (`vk/gnark.rs`)

The definitions follow the source down to the slices it indexes and the vector it allocates. -/

set_option autoImplicit false

namespace Groth16Solana.Raw
open Foundations

/-! ## The cursor -/

abbrev GnarkCode := Code Groth16Error

/-- An end that `checked_add` does not give is behind every buffer. -/
def take (n : ℕ) : GnarkCode (List UInt8) := do
  let self ← get
  let end' ← Code.okOr .bsb22InvalidVerifyingKeyBinary
    ((some (self.pos + n)).filter fun end' => end' ≤ self.buf.length)
  let out ← Code.range self.buf self.pos end'
  set { self with pos := end' }
  return out

def skip (n : ℕ) : GnarkCode Unit := do
  let _ ← take n

def remaining : GnarkCode ℕ := do
  let self ← get
  return self.buf.length - self.pos

/-- `take_64` and `take_128`. -/
def takeArray (n : ℕ) : GnarkCode (Bytes n) := do
  let s ← take n
  Code.copyFromSlice n s

def take64 : GnarkCode (Bytes 64) := takeArray 64

def take128 : GnarkCode (Bytes 128) := takeArray 128

def u32 : GnarkCode ℕ := do
  let s ← take 4
  let b₀ ← Code.index s 0
  let b₁ ← Code.index s 1
  let b₂ ← Code.index s 2
  let b₃ ← Code.index s 3
  return beNat [b₀, b₁, b₂, b₃]

/-! ## The parser -/

def readHead : GnarkCode (Bytes 64 × Bytes 128 × Bytes 128 × Bytes 128) := do
  let vkAlphaG1 ← take64
  skip 64
  let vkBetaG2 ← take128
  let vkGammaG2 ← take128
  skip 64
  let vkDeltaG2 ← take128
  return (vkAlphaG1, vkBetaG2, vkGammaG2, vkDeltaG2)

/-- The loop that pushes the rows, with the number of turns left. -/
def pushRows : ℕ → List (Bytes 64) → GnarkCode (List (Bytes 64))
  | 0, vkIc => return vkIc
  | n + 1, vkIc => do
    let row ← take64
    pushRows n (vkIc ++ [row])

def readRows : GnarkCode (ℕ × List (Bytes 64)) := do
  let nbK ← u32
  if nbK = 0 then Code.fail .bsb22InvalidVerifyingKeyBinary
  else do
    let left ← remaining
    if left / 64 < nbK then Code.fail .bsb22InvalidVerifyingKeyBinary
    else do
      Code.withCapacity nbK
      let vkIc ← pushRows nbK []
      return (nbK, vkIc)

/-- The loop over the committed-wire lists, with the number of turns left. -/
def checkCommittedWires : ℕ → GnarkCode Unit
  | 0 => return ()
  | n + 1 => do
    let innerLen ← u32
    if innerLen ≠ 0 then Code.fail .bsb22CommittedPublicInputsUnsupported
    else checkCommittedWires n

def readCommitment : GnarkCode (Option CommitmentVerifyingKey) := do
  let outerLen ← u32
  if 1 < outerLen then Code.fail .bsb22UnsupportedMultiCommitment
  else do
    checkCommittedWires outerLen
    let nbCommitments ← u32
    if 1 < nbCommitments then Code.fail .bsb22UnsupportedMultiCommitment
    else if nbCommitments ≠ outerLen then Code.fail .bsb22InvalidVerifyingKeyBinary
    else if nbCommitments = 1 then do
      let g2 ← take128
      let gSigmaNegG2 ← take128
      return some { g2, gSigmaNegG2 }
    else return none

def readFields : GnarkCode GnarkFields := do
  let (vkAlphaG1, vkBetaG2, vkGammaG2, vkDeltaG2) ← readHead
  let (nbK, vkIc) ← readRows
  let vkCommitment ← readCommitment
  return { vkAlphaG1, vkBetaG2, vkGammaG2, vkDeltaG2, nbK, vkIc, vkCommitment }

def finish (length : ℕ) (fields : GnarkFields) : GnarkCode Groth16VerifyingkeyOwned := do
  let cursor ← get
  if cursor.pos ≠ length then Code.fail .bsb22InvalidVerifyingKeyBinary
  else
    match nrPubinputsOf fields.nbK fields.vkCommitment.isSome with
    | .error err => Code.fail err
    | .ok nrPubinputs => return {
        nrPubinputs
        vkAlphaG1 := fields.vkAlphaG1
        vkBetaG2 := fields.vkBetaG2
        vkGammaG2 := fields.vkGammaG2
        vkDeltaG2 := fields.vkDeltaG2
        vkIc := fields.vkIc
        vkCommitment := fields.vkCommitment }

/-- The result of the call and the memory it leaves. -/
def parseGnarkVkBytes (bytes : List UInt8) :
    Except (Halt Groth16Error) Groth16VerifyingkeyOwned × Memory :=
  (readFields >>= finish bytes.length).exec (Memory.new bytes)

/-! ## The readers -/

section Readers
variable {buf : List UInt8} {bound : ℕ}

theorem exec_take (n : ℕ) (mem : Memory) :
    (take n).exec mem =
      if mem.pos + n ≤ mem.buf.length then
        (.ok ((mem.buf.drop mem.pos).take n), { mem with pos := mem.pos + n })
      else (.error (.returned .bsb22InvalidVerifyingKeyBinary), mem) := by
  unfold take
  rw [Code.exec_bind_ok (Code.exec_get mem)]
  by_cases hend : mem.pos + n ≤ mem.buf.length
  · rw [if_pos hend, Option.filter_some_pos (by simpa using hend), Code.okOr, pure_bind,
      Code.range_eq ⟨Nat.le_add_right _ _, hend⟩, pure_bind, Code.exec_bind_ok (Code.exec_set mem _),
      Code.exec_pure, List.take_drop]
  · rw [if_neg hend, Option.filter_some_neg (by simpa using hend), Code.okOr,
      Code.exec_bind_error (Code.exec_fail _ mem)]

/-- The slice holds what the reader copies. -/
theorem simulates_take (n : ℕ) :
    Simulates buf bound (take n) (Vector.toList <$> Groth16Solana.take n) := by
  intro mem c h
  have hrun : (Groth16Solana.take n).run c = takeBytes .bsb22InvalidVerifyingKeyBinary n c := rfl
  have hexec := exec_take n mem
  rw [h.buf_eq, h.pos_eq] at hexec
  rw [StateT.run_map, hrun, takeBytes, hexec]
  obtain ⟨hbuf, rfl, hpos, hbounded⟩ := h
  by_cases hend : c.pos + n ≤ c.buf.length
  · rw [if_pos hend, dif_pos hend]
    exact .ok ⟨rfl, rfl, rfl, hbounded⟩
  · rw [if_neg hend, dif_neg hend]
    exact .error hbounded

theorem simulates_skip (n : ℕ) : Simulates buf bound (skip n) (Groth16Solana.skip n) :=
  Simulates.bind_map (simulates_take n) fun _ => Simulates.pure_ ()

/-- The copy never panics: the slice has the length of the array. -/
theorem simulates_takeArray (n : ℕ) : Simulates buf bound (takeArray n) (Groth16Solana.take n) := by
  have hcopy (out : Bytes n) :
      Simulates buf bound (Code.copyFromSlice n out.toList : GnarkCode (Bytes n)) (pure out) := by
    rw [Code.copyFromSlice_eq Vector.length_toList]
    exact Simulates.pure_ out
  have hbind := (simulates_take n).bind_map hcopy
  rwa [bind_pure] at hbind

/-- The four indices are in bounds. -/
theorem simulates_u32 : Simulates buf bound u32 Groth16Solana.u32 := by
  refine Simulates.bind_map (simulates_take 4) ?_
  intro out
  have hlen : out.toList.length = 4 := Vector.length_toList
  obtain ⟨b₀, b₁, b₂, b₃, hout⟩ := List.length_eq_four.mp hlen
  rw [hout]
  exact Simulates.pure_ _

theorem simulates_readHead : Simulates buf bound readHead Groth16Solana.readHead :=
  (simulates_takeArray 64).bind fun _ => (simulates_skip 64).bind fun _ =>
    (simulates_takeArray 128).bind fun _ => (simulates_takeArray 128).bind fun _ =>
    (simulates_skip 64).bind fun _ => (simulates_takeArray 128).bind fun _ => Simulates.pure_ _

/-- The rows pushed so far stand in front of those still to be read. -/
theorem simulates_pushRows (n : ℕ) (vkIc : List (Bytes 64)) :
    Simulates buf bound (pushRows n vkIc)
      (takeMany Groth16Solana.take64 n >>= fun rows => pure (vkIc ++ rows)) := by
  induction n generalizing vkIc with
  | zero =>
    have hnil : (takeMany Groth16Solana.take64 0 >>= fun rows => pure (vkIc ++ rows)) =
        (pure vkIc : GnarkReader _) := by
      rw [takeMany, pure_bind, List.append_nil]
    rw [hnil]
    exact Simulates.pure_ vkIc
  | succ n ih =>
    have hturn : (takeMany Groth16Solana.take64 (n + 1) >>= fun rows => pure (vkIc ++ rows)) =
        (Groth16Solana.take64 >>= fun row => takeMany Groth16Solana.take64 n >>= fun rows =>
          pure (vkIc ++ [row] ++ rows) : GnarkReader _) := by
      simp only [takeMany, bind_assoc, pure_bind, List.append_assoc, List.singleton_append]
    rw [hturn]
    exact (simulates_takeArray 64).bind fun row => ih (vkIc ++ [row])

/-- The vector is asked for after the check that the buffer holds it. -/
theorem simulates_readRows (hbound : buf.length / 64 ≤ bound) :
    Simulates buf bound readRows Groth16Solana.readRows := by
  have hremaining : Simulates buf bound remaining (Foundations.remaining : GnarkReader ℕ) := by
    intro mem c h
    have hleft : mem.buf.length - mem.pos = c.remaining := by
      rw [h.buf_eq, h.pos_eq, Cursor.remaining, h.cursor_buf]
    unfold remaining
    rw [Code.exec_bind_ok (Code.exec_get mem), hleft]
    exact .ok h
  have hleft (c : Cursor) (left : ℕ) (c' : Cursor) (hbuf : c.buf = buf)
      (hrun : (Foundations.remaining : GnarkReader ℕ).run c = .ok (left, c')) : left ≤ buf.length := by
    cases hrun
    rw [Cursor.remaining, hbuf]
    exact Nat.sub_le _ _
  refine simulates_u32.bind fun nbK => Simulates.guard _ (nbK = 0) fun _ => ?_
  refine Simulates.bind_of (· ≤ buf.length) hremaining hleft fun left hle => ?_
  refine Simulates.guard _ (left / 64 < nbK) fun hroom => ?_
  have hcapacity : nbK ≤ bound := by
    have hdiv := Nat.div_le_div_right (c := 64) hle
    omega
  refine Simulates.withCapacity hcapacity ?_
  have hpush : Simulates buf bound (pushRows nbK []) _ := simulates_pushRows nbK []
  have hrows := hpush.bind fun vkIc => Simulates.pure_ (nbK, vkIc)
  simpa only [bind_assoc, pure_bind, List.nil_append] using hrows

theorem simulates_checkCommittedWires (n : ℕ) :
    Simulates buf bound (checkCommittedWires n)
      (takeMany readCommittedWires n >>= fun _ => pure ()) := by
  induction n with
  | zero => exact Simulates.pure_ ()
  | succ n ih =>
    have hturn : (takeMany readCommittedWires (n + 1) >>= fun _ => pure () : GnarkReader Unit) =
        (Groth16Solana.u32 >>= fun innerLen =>
          refuse .bsb22CommittedPublicInputsUnsupported (innerLen ≠ 0) >>= fun _ =>
          takeMany readCommittedWires n >>= fun _ => pure ()) := by
      simp only [takeMany, readCommittedWires, bind_assoc, pure_bind]
    rw [hturn]
    exact simulates_u32.bind fun innerLen => Simulates.guard _ (innerLen ≠ 0) fun _ => ih

theorem simulates_readCommitment :
    Simulates buf bound readCommitment Groth16Solana.readCommitment := by
  have hkey (nbCommitments : ℕ) : Simulates buf bound
      (if nbCommitments = 1 then do
        let g2 ← take128
        let gSigmaNegG2 ← take128
        return some { g2, gSigmaNegG2 }
      else return none)
      (if nbCommitments = 1 then do
        let g2 ← Groth16Solana.take128
        let gSigmaNegG2 ← Groth16Solana.take128
        return some ({ g2, gSigmaNegG2 } : CommitmentVerifyingKey)
      else return none) := by
    split
    · exact (simulates_takeArray 128).bind fun _ => (simulates_takeArray 128).bind fun _ =>
        Simulates.pure_ _
    · exact Simulates.pure_ none
  refine simulates_u32.bind fun outerLen => Simulates.guard _ (1 < outerLen) fun _ => ?_
  have hlists : Simulates buf bound (checkCommittedWires outerLen) _ :=
    simulates_checkCommittedWires outerLen
  have hwires := hlists.bind fun _ =>
    simulates_u32.bind fun nbCommitments =>
    Simulates.guard .bsb22UnsupportedMultiCommitment (1 < nbCommitments) fun _ =>
    Simulates.guard .bsb22InvalidVerifyingKeyBinary (nbCommitments ≠ outerLen) fun _ =>
    hkey nbCommitments
  simpa only [bind_assoc, pure_bind] using hwires

theorem simulates_readFields (hbound : buf.length / 64 ≤ bound) :
    Simulates buf bound readFields Groth16Solana.readFields :=
  simulates_readHead.bind fun _ => (simulates_readRows hbound).bind fun _ =>
    simulates_readCommitment.bind fun _ => Simulates.pure_ _

end Readers

/-! ## The whole call -/

/-- The call returns what the parser over readers returns, never panics, and asks for no more rows than
its input holds. -/
theorem parseGnarkVkBytes_spec (bytes : List UInt8) :
    (parseGnarkVkBytes bytes).1 = (Groth16Solana.parseGnarkVkBytes bytes).mapError .returned ∧
      ∀ capacity ∈ (parseGnarkVkBytes bytes).2.capacities, capacity ≤ bytes.length / 64 := by
  have hmatches := simulates_readFields (le_refl (bytes.length / 64)) (Memory.new bytes)
    (Cursor.new bytes) ⟨rfl, rfl, rfl, List.forall_mem_nil _⟩
  unfold parseGnarkVkBytes Groth16Solana.parseGnarkVkBytes
  generalize hexec : readFields.exec (Memory.new bytes) = ending at hmatches
  generalize Groth16Solana.readFields.run (Cursor.new bytes) = result at *
  cases hmatches with
  | error hbounded =>
    rw [Code.exec_bind_error hexec]
    exact ⟨rfl, hbounded⟩
  | @ok fields mem c h =>
    rw [Code.exec_bind_ok hexec, ok_bind]
    unfold finish
    rw [Code.exec_bind_ok (Code.exec_get mem), h.pos_eq]
    dsimp only
    by_cases hend : c.pos = bytes.length
    · rw [if_neg (not_not.mpr hend), if_neg (not_not.mpr hend)]
      cases nrPubinputsOf fields.nbK fields.vkCommitment.isSome with
      | ok nrPubinputs => exact ⟨rfl, h.bounded⟩
      | error err => exact ⟨rfl, h.bounded⟩
    · rw [if_pos hend, if_pos hend]
      exact ⟨rfl, h.bounded⟩

theorem parse_eq_ok_iff {bytes : List UInt8} {vk : Groth16VerifyingkeyOwned} :
    (parseGnarkVkBytes bytes).1 = .ok vk ↔ Groth16Solana.parseGnarkVkBytes bytes = .ok vk := by
  rw [(parseGnarkVkBytes_spec bytes).1]
  cases Groth16Solana.parseGnarkVkBytes bytes <;> simp [Except.mapError]

/-- A cut or an extension of an accepted file is malformed, and no file makes the parser ask for more
rows than it holds. -/
theorem accepted_prefixFree (bytes : List UInt8) :
    (∀ vk, (parseGnarkVkBytes bytes).1 = .ok vk →
      (∀ k < bytes.length, (parseGnarkVkBytes (bytes.take k)).1 =
        .error (.returned .bsb22InvalidVerifyingKeyBinary)) ∧
      (∀ behind ≠ [], (parseGnarkVkBytes (bytes ++ behind)).1 =
        .error (.returned .bsb22InvalidVerifyingKeyBinary)) ∧
      ∀ bytes' vk', (parseGnarkVkBytes bytes').1 = .ok vk' → bytes <+: bytes' → bytes' = bytes) ∧
    ∀ capacity ∈ (parseGnarkVkBytes bytes).2.capacities, capacity ≤ bytes.length / 64 := by
  refine ⟨?_, (parseGnarkVkBytes_spec bytes).2⟩
  intro vk hparse
  rw [parse_eq_ok_iff] at hparse
  have hextended (behind : List UInt8) (hbehind : behind ≠ []) :
      (parseGnarkVkBytes (bytes ++ behind)).1 =
        .error (.returned .bsb22InvalidVerifyingKeyBinary) := by
    rw [(parseGnarkVkBytes_spec _).1, parse_append_of_parse hparse hbehind]
    rfl
  refine ⟨?_, hextended, ?_⟩
  · intro k hk
    rw [(parseGnarkVkBytes_spec _).1, parse_take_of_parse hparse hk]
    rfl
  · intro bytes' vk' hparse' hfront
    obtain ⟨behind, rfl⟩ := hfront
    by_contra hne
    have hbehind : behind ≠ [] := fun hnil => hne (by rw [hnil, List.append_nil])
    rw [hextended behind hbehind] at hparse'
    cases hparse'

/-- The file of the sample key, cut and extended. -/
theorem accepted_prefixFree_sample :
    ∃ bytes, (parseGnarkVkBytes bytes).1 = .ok sampleVk ∧
      (∀ k < bytes.length, (parseGnarkVkBytes (bytes.take k)).1 =
        .error (.returned .bsb22InvalidVerifyingKeyBinary)) ∧
      ∀ behind ≠ [], (parseGnarkVkBytes (bytes ++ behind)).1 =
        .error (.returned .bsb22InvalidVerifyingKeyBinary) := by
  have hparse := parse_eq_ok_iff.mpr parse_sampleVk
  obtain ⟨hcut, hextended, -⟩ := (accepted_prefixFree _).1 sampleVk hparse
  exact ⟨_, hparse, hcut, hextended⟩

end Groth16Solana.Raw
