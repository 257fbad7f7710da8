import Groth16Solana.Vk.GnarkGrammar

/-! # The encodings of every key gnark has

A circuit may have any number of commitments, each to any list of public wires. The parser reads the
encodings of those it supports and names the reason for which it refuses another. -/

set_option autoImplicit false

namespace Groth16Solana
open Foundations

/-- A `VerifyingKey` of gnark, within the range of its counters. -/
structure GnarkVk where
  alphaG1 : Bytes 64
  betaG1 : Bytes 64
  betaG2 : Bytes 128
  gammaG2 : Bytes 128
  deltaG1 : Bytes 64
  deltaG2 : Bytes 128
  rows : List (Bytes 64)
  committedWires : List (List UInt64)
  commitmentKeys : List CommitmentVerifyingKey
  rows_pos : 1 ≤ rows.length
  rows_lt : rows.length < 2 ^ 32
  outer_lt : committedWires.length < 2 ^ 32
  inner_lt : ∀ wires ∈ committedWires, wires.length < 2 ^ 32
  lockstep : commitmentKeys.length = committedWires.length

namespace GnarkVk

def headBytes (self : GnarkVk) : List UInt8 :=
  self.alphaG1.toList ++ self.betaG1.toList ++ self.betaG2.toList ++ self.gammaG2.toList ++
    self.deltaG1.toList ++ self.deltaG2.toList

def rowBytes (self : GnarkVk) : List UInt8 :=
  beList 4 self.rows.length ++ self.rows.flatMap Vector.toList

/-- The bytes in front of the two BSB22 sections. -/
def front (self : GnarkVk) : List UInt8 := self.headBytes ++ self.rowBytes

def wireBytes (wires : List UInt64) : List UInt8 :=
  beList 4 wires.length ++ wires.flatMap fun wire => beList 8 wire.toNat

def keyBytes (key : CommitmentVerifyingKey) : List UInt8 := key.g2.toList ++ key.gSigmaNegG2.toList

/-- `WriteRawTo`. -/
def writeRaw (self : GnarkVk) : List UInt8 :=
  self.front ++ (beList 4 self.committedWires.length ++ (self.committedWires.flatMap wireBytes ++
    (beList 4 self.commitmentKeys.length ++ self.commitmentKeys.flatMap keyBytes)))

/-! ## Why a key is refused -/

def HasManyCommitments (self : GnarkVk) : Prop := 2 ≤ self.committedWires.length

def CommitsToPublicInputs (self : GnarkVk) : Prop :=
  ∃ wires, self.committedWires = [wires] ∧ wires ≠ []

/-- One row cannot be both the constant's and the commitment's. -/
def LacksCommitmentRow (self : GnarkVk) : Prop :=
  self.committedWires = [[]] ∧ self.rows.length = 1

end GnarkVk

/-! ## The sections -/

/-- A counter above one is refused whatever follows. -/
theorem readCommitment_of_outerLen {c : Cursor} {outerLen : ℕ} {rest : List UInt8}
    (hlt : outerLen < 2 ^ 32) (hmany : 1 < outerLen) (hrest : c.rest = beList 4 outerLen ++ rest) :
    readCommitment.run c = .error .bsb22UnsupportedMultiCommitment := by
  obtain ⟨c', -, hrun⟩ := reads_u32.recognizes.exists_run ⟨hlt, rfl⟩ hrest
  rw [readCommitment, StateT.run_bind, hrun, ok_bind, refuse, if_pos hmany]
  rfl

/-- So is a list that is not empty. -/
theorem readCommitment_of_innerLen {c : Cursor} {innerLen : ℕ} {rest : List UInt8}
    (hlt : innerLen < 2 ^ 32) (hne : innerLen ≠ 0)
    (hrest : c.rest = beList 4 1 ++ (beList 4 innerLen ++ rest)) :
    readCommitment.run c = .error .bsb22CommittedPublicInputsUnsupported := by
  obtain ⟨c', hrest', hrun⟩ := reads_u32.recognizes.exists_run ⟨by decide, rfl⟩ hrest
  obtain ⟨c'', -, hrun'⟩ := reads_u32.recognizes.exists_run ⟨hlt, rfl⟩ hrest'
  rw [readCommitment, StateT.run_bind, hrun, ok_bind, refuse, if_neg (lt_irrefl 1), pure_bind, takeMany,
    readCommittedWires, bind_assoc, bind_assoc, StateT.run_bind, hrun', ok_bind, refuse, if_pos hne]
  rfl

/-- What the sections are refused for, the file is. -/
theorem parse_front_append {key : GnarkVk} {rest : List UInt8} {err : Groth16Error}
    (h : ∀ c : Cursor, c.rest = rest → readCommitment.run c = .error err) :
    parseGnarkVkBytes (key.front ++ rest) = .error err := by
  have hstart : (Cursor.new (key.front ++ rest)).rest = key.headBytes ++ (key.rowBytes ++ rest) :=
    List.append_assoc _ _ _
  obtain ⟨c, hrest, hrun⟩ := reads_readHead.recognizes.exists_run
    (a := (key.alphaG1, key.betaG2, key.gammaG2, key.deltaG2)) ⟨key.betaG1, key.deltaG1, rfl⟩ hstart
  obtain ⟨c', hrest', hrun'⟩ := reads_readRows.recognizes.exists_run
    (a := (key.rows.length, key.rows)) ⟨rfl, key.rows_lt, key.rows_pos, rfl⟩ hrest
  rw [parseGnarkVkBytes, readFields, StateT.run_bind, hrun, ok_bind, StateT.run_bind, hrun', ok_bind,
    StateT.run_bind, h c' hrest', error_bind, error_bind]

/-! ## The encodings -/

namespace GnarkVk
variable {key : GnarkVk}

theorem parse_of_hasManyCommitments (h : key.HasManyCommitments) (rest : List UInt8) :
    parseGnarkVkBytes (key.front ++ (beList 4 key.committedWires.length ++ rest)) =
      .error .bsb22UnsupportedMultiCommitment :=
  parse_front_append fun _ hrest => readCommitment_of_outerLen key.outer_lt h hrest

theorem parse_of_commitsToPublicInputs {wires : List UInt64} (h : key.committedWires = [wires])
    (hne : wires ≠ []) (rest : List UInt8) :
    parseGnarkVkBytes (key.front ++ (beList 4 1 ++ (beList 4 wires.length ++ rest))) =
      .error .bsb22CommittedPublicInputsUnsupported := by
  have hlt : wires.length < 2 ^ 32 := key.inner_lt wires (by simp [h])
  have hlen : wires.length ≠ 0 := fun hzero => hne (List.length_eq_zero_iff.mp hzero)
  exact parse_front_append fun _ hrest => readCommitment_of_innerLen hlt hlen hrest

/-- The sections of a key without public wires are those the parser knows. -/
theorem writeRaw_eq (nrPubinputs : ℕ) (vkCommitment : Option CommitmentVerifyingKey)
    (hwires : key.committedWires = vkCommitment.toList.map fun _ => [])
    (hkeys : key.commitmentKeys = vkCommitment.toList) :
    key.writeRaw = writeRawTo key.betaG1 key.deltaG1 ⟨nrPubinputs, key.alphaG1, key.betaG2, key.gammaG2,
      key.deltaG2, key.rows, vkCommitment⟩ := by
  cases vkCommitment <;>
    simp [writeRaw, writeRawTo, front, headBytes, rowBytes, hwires, hkeys, commitmentSections, wireBytes,
      keyBytes]

theorem exists_parse_of_supported (vkCommitment : Option CommitmentVerifyingKey)
    (hwires : key.committedWires = vkCommitment.toList.map fun _ => [])
    (hkeys : key.commitmentKeys = vkCommitment.toList)
    (hrows : vkCommitment.isSome → 2 ≤ key.rows.length) :
    ∃ vk, parseGnarkVkBytes key.writeRaw = .ok vk := by
  cases vkCommitment with
  | none =>
    rw [writeRaw_eq (key.rows.length - 1) none hwires hkeys]
    exact ⟨_, parse_writeRawTo _ _ ⟨key.rows_lt, key.rows_pos, rfl⟩⟩
  | some ck =>
    rw [writeRaw_eq (key.rows.length - 2) (some ck) hwires hkeys]
    exact ⟨_, parse_writeRawTo _ _ ⟨key.rows_lt, hrows rfl, rfl⟩⟩

theorem parse_of_lacksCommitmentRow (ck : CommitmentVerifyingKey) (hwires : key.committedWires = [[]])
    (hkeys : key.commitmentKeys = [ck]) (hrows : key.rows.length = 1) :
    parseGnarkVkBytes key.writeRaw = .error .bsb22InvalidVerifyingKeyBinary := by
  rw [writeRaw_eq 0 (some ck) hwires hkeys]
  obtain ⟨c', hrun, hend⟩ := reads_readFields.recognizes.run_new_iff
    (a := ⟨key.alphaG1, key.betaG2, key.gammaG2, key.deltaG2, key.rows.length, key.rows, some ck⟩)
    |>.mpr ⟨key.betaG1, key.deltaG1, rfl, key.rows_lt, key.rows_pos, rfl⟩
  rw [parseGnarkVkBytes, writeRawTo, hrun, ok_bind]
  dsimp only
  rw [if_neg (not_not.mpr hend), hrows]
  rfl

/-- The four kinds of keys, by what the parser says of them. -/
theorem parse_writeRaw_cases (key : GnarkVk) :
    key.HasManyCommitments ∧
        parseGnarkVkBytes key.writeRaw = .error .bsb22UnsupportedMultiCommitment ∨
    key.CommitsToPublicInputs ∧
        parseGnarkVkBytes key.writeRaw = .error .bsb22CommittedPublicInputsUnsupported ∨
    key.LacksCommitmentRow ∧
        parseGnarkVkBytes key.writeRaw = .error .bsb22InvalidVerifyingKeyBinary ∨
    (¬ key.HasManyCommitments ∧ ¬ key.CommitsToPublicInputs ∧ ¬ key.LacksCommitmentRow) ∧
        ∃ vk, parseGnarkVkBytes key.writeRaw = .ok vk := by
  have hlockstep := key.lockstep
  rcases hwires : key.committedWires with _ | ⟨wires, _ | ⟨wires', list⟩⟩
  · -- no commitment
    rw [hwires, List.length_nil, List.length_eq_zero_iff] at hlockstep
    refine Or.inr (Or.inr (Or.inr ⟨?_, exists_parse_of_supported none hwires hlockstep (by simp)⟩))
    simp [HasManyCommitments, CommitsToPublicInputs, LacksCommitmentRow, hwires]
  · -- one commitment
    rw [hwires, List.length_singleton, List.length_eq_one_iff] at hlockstep
    obtain ⟨ck, hkeys⟩ := hlockstep
    cases wires with
    | cons wire wires =>
      refine Or.inr (Or.inl ⟨⟨_, hwires, List.cons_ne_nil _ _⟩, ?_⟩)
      have hparse := parse_of_commitsToPublicInputs hwires (List.cons_ne_nil _ _)
        ((wire :: wires).flatMap (fun wire => beList 8 wire.toNat) ++
          (beList 4 key.commitmentKeys.length ++ key.commitmentKeys.flatMap keyBytes))
      simpa [writeRaw, hwires, wireBytes] using hparse
    | nil =>
      by_cases hrows : key.rows.length = 1
      · exact Or.inr (Or.inr (Or.inl
          ⟨⟨hwires, hrows⟩, parse_of_lacksCommitmentRow ck hwires hkeys hrows⟩))
      · have hpos := key.rows_pos
        refine Or.inr (Or.inr (Or.inr
          ⟨?_, exists_parse_of_supported (some ck) hwires hkeys fun _ => by omega⟩))
        simp [HasManyCommitments, CommitsToPublicInputs, LacksCommitmentRow, hwires, hrows]
  · -- more
    have hmany : key.HasManyCommitments := by
      rw [HasManyCommitments, hwires, List.length_cons, List.length_cons]
      omega
    exact Or.inl ⟨hmany, parse_of_hasManyCommitments hmany _⟩

theorem CommitsToPublicInputs.not_hasManyCommitments (h : key.CommitsToPublicInputs) :
    ¬ key.HasManyCommitments := by
  obtain ⟨wires, hwires, -⟩ := h
  simp [HasManyCommitments, hwires]

theorem LacksCommitmentRow.not_others (h : key.LacksCommitmentRow) :
    ¬ key.HasManyCommitments ∧ ¬ key.CommitsToPublicInputs := by
  simp [HasManyCommitments, CommitsToPublicInputs, h.1]

/-- The parser accepts the encodings of the keys it supports, and names why it refuses another. Several
commitments, or a public wire in the only one, are refused whatever follows their counters. -/
theorem parse_writeRaw (key : GnarkVk) :
    (parseGnarkVkBytes key.writeRaw = .error .bsb22UnsupportedMultiCommitment ↔
      key.HasManyCommitments) ∧
    (parseGnarkVkBytes key.writeRaw = .error .bsb22CommittedPublicInputsUnsupported ↔
      key.CommitsToPublicInputs) ∧
    (parseGnarkVkBytes key.writeRaw = .error .bsb22InvalidVerifyingKeyBinary ↔
      key.LacksCommitmentRow) ∧
    ((∃ vk, parseGnarkVkBytes key.writeRaw = .ok vk) ↔
      ¬ key.HasManyCommitments ∧ ¬ key.CommitsToPublicInputs ∧ ¬ key.LacksCommitmentRow) ∧
    ∀ rest, (key.HasManyCommitments →
        parseGnarkVkBytes (key.front ++ (beList 4 key.committedWires.length ++ rest)) =
          .error .bsb22UnsupportedMultiCommitment) ∧
      ∀ wires, key.committedWires = [wires] → wires ≠ [] →
        parseGnarkVkBytes (key.front ++ (beList 4 1 ++ (beList 4 wires.length ++ rest))) =
          .error .bsb22CommittedPublicInputsUnsupported := by
  have hrest (rest : List UInt8) := And.intro
    (fun h : key.HasManyCommitments => parse_of_hasManyCommitments h rest)
    (fun wires (h : key.committedWires = [wires]) (hne : wires ≠ []) =>
      parse_of_commitsToPublicInputs h hne rest)
  rcases parse_writeRaw_cases key with ⟨h, hparse⟩ | ⟨h, hparse⟩ | ⟨h, hparse⟩ | ⟨h, vk, hparse⟩
  · have hcommits : ¬ key.CommitsToPublicInputs := fun h' => h'.not_hasManyCommitments h
    have hlacks : ¬ key.LacksCommitmentRow := fun h' => h'.not_others.1 h
    refine ⟨?_, ?_, ?_, ?_, hrest⟩ <;> simp [hparse, h, hcommits, hlacks]
  · have hlacks : ¬ key.LacksCommitmentRow := fun h' => h'.not_others.2 h
    refine ⟨?_, ?_, ?_, ?_, hrest⟩ <;> simp [hparse, h, h.not_hasManyCommitments, hlacks]
  · refine ⟨?_, ?_, ?_, ?_, hrest⟩ <;> simp [hparse, h, h.not_others]
  · refine ⟨?_, ?_, ?_, ?_, hrest⟩ <;> simp [hparse, h]

/-- The rows and points of the sample key with a commitment for each list of wires. -/
def ofWires (committedWires : List (List UInt64)) (outer_lt : committedWires.length < 2 ^ 32)
    (inner_lt : ∀ wires ∈ committedWires, wires.length < 2 ^ 32) : GnarkVk where
  alphaG1 := sampleVk.vkAlphaG1
  betaG1 := sampleVk.vkAlphaG1
  betaG2 := sampleVk.vkBetaG2
  gammaG2 := sampleVk.vkGammaG2
  deltaG1 := sampleVk.vkAlphaG1
  deltaG2 := sampleVk.vkDeltaG2
  rows := sampleVk.vkIc
  committedWires := committedWires
  commitmentKeys := committedWires.map fun _ => ⟨sampleVk.vkBetaG2, sampleVk.vkGammaG2⟩
  rows_pos := Nat.le_add_left 1 2
  rows_lt := supportedRows_sampleVk.1
  outer_lt := outer_lt
  inner_lt := inner_lt
  lockstep := List.length_map _

/-- Two commitments, a committed public wire, and one commitment without. -/
theorem parse_writeRaw_wires :
    (∃ key : GnarkVk, key.committedWires = [[], []] ∧ key.commitmentKeys.length = 2 ∧
      parseGnarkVkBytes key.writeRaw = .error .bsb22UnsupportedMultiCommitment) ∧
    (∃ key : GnarkVk, key.committedWires = [[1]] ∧
      parseGnarkVkBytes key.writeRaw = .error .bsb22CommittedPublicInputsUnsupported) ∧
    ∃ key : GnarkVk, key.committedWires = [[]] ∧ ∃ vk, parseGnarkVkBytes key.writeRaw = .ok vk := by
  have hempty : ∀ wires ∈ ([[], []] : List (List UInt64)), wires.length < 2 ^ 32 := by decide
  have hwire : ∀ wires ∈ ([[1]] : List (List UInt64)), wires.length < 2 ^ 32 := by decide
  have hone : ∀ wires ∈ ([[]] : List (List UInt64)), wires.length < 2 ^ 32 := by decide
  refine ⟨⟨ofWires [[], []] (by decide) hempty, rfl, rfl, ?_⟩,
    ⟨ofWires [[1]] (by decide) hwire, rfl, ?_⟩, ⟨ofWires [[]] (by decide) hone, rfl, ?_⟩⟩
  · exact (parse_writeRaw _).1.mpr (le_refl 2)
  · exact (parse_writeRaw _).2.1.mpr ⟨[1], rfl, List.cons_ne_nil _ _⟩
  · refine (parse_writeRaw _).2.2.2.1.mpr ⟨?_, ?_, ?_⟩
    · exact Nat.not_succ_le_self 1
    · rintro ⟨wires, hwires, hne⟩
      cases hwires
      exact hne rfl
    · rintro ⟨-, hrows⟩
      cases hrows

end GnarkVk

end Groth16Solana
