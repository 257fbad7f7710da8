import Groth16Solana.Foundations.Truncation
import Groth16Solana.Vk.Gnark

/-! # The accepted grammar

`writeRawTo` is gnark's encoding of a key with the two points the parser skips. The parser accepts the
encodings of supported keys and nothing else. -/

set_option autoImplicit false

namespace Groth16Solana
open Foundations

/-- The two BSB22 sections behind the K array. -/
def commitmentSections : Option CommitmentVerifyingKey → List UInt8
  | none => beList 4 0 ++ beList 4 0
  | some key => beList 4 1 ++ beList 4 0 ++ beList 4 1 ++ key.g2.toList ++ key.gSigmaNegG2.toList

def writeRawTo (betaG1 deltaG1 : Bytes 64) (vk : Groth16VerifyingkeyOwned) : List UInt8 :=
  vk.vkAlphaG1.toList ++ betaG1.toList ++ vk.vkBetaG2.toList ++ vk.vkGammaG2.toList ++ deltaG1.toList ++
    vk.vkDeltaG2.toList ++ beList 4 vk.vkIc.length ++ vk.vkIc.flatMap Vector.toList ++
    commitmentSections vk.vkCommitment

/-- The row counts the parser supports: the constant row, one for every public input and one for the
commitment hash. -/
def SupportedRows (vk : Groth16VerifyingkeyOwned) : Prop :=
  vk.vkIc.length < 2 ^ 32 ∧
    match vk.vkCommitment with
    | none => 1 ≤ vk.vkIc.length ∧ vk.nrPubinputs = vk.vkIc.length - 1
    | some _ => 2 ≤ vk.vkIc.length ∧ vk.nrPubinputs = vk.vkIc.length - 2

/-! ## The readers -/

/-- A cut buffer is reported as a malformed key. -/
abbrev GnarkReads {α : Type} (p : GnarkReader α) (lang : α → List UInt8 → Prop) : Prop :=
  Reads .bsb22InvalidVerifyingKeyBinary p lang

theorem reads_take (n : ℕ) : GnarkReads (take n) fun out bytes => bytes = out.toList :=
  Reads.takeBytes_ _ n

theorem reads_skip (n : ℕ) :
    GnarkReads (skip n) fun _ bytes => ∃ out : Bytes n, bytes = out.toList := by
  refine ((reads_take n).bind fun _ => Reads.return_ ()).congr ?_
  intro _ bytes
  simp

theorem reads_u32 : GnarkReads u32 fun v bytes => v < 2 ^ 32 ∧ bytes = beList 4 v :=
  Reads.takeU32_ _

theorem reads_readHead :
    GnarkReads readHead fun head bytes => ∃ betaG1 deltaG1 : Bytes 64,
      bytes = head.1.toList ++ betaG1.toList ++ head.2.1.toList ++ head.2.2.1.toList ++ deltaG1.toList ++
        head.2.2.2.toList := by
  refine ((reads_take 64).bind fun vkAlphaG1 => (reads_skip 64).bind fun _ =>
    (reads_take 128).bind fun vkBetaG2 => (reads_take 128).bind fun vkGammaG2 =>
    (reads_skip 64).bind fun _ => (reads_take 128).bind fun vkDeltaG2 =>
    Reads.return_ (vkAlphaG1, vkBetaG2, vkGammaG2, vkDeltaG2)).congr ?_
  rintro ⟨vkAlphaG1, vkBetaG2, vkGammaG2, vkDeltaG2⟩ bytes
  simp

theorem flatMap_toList_length {n : ℕ} (rows : List (Bytes n)) :
    (rows.flatMap Vector.toList).length = rows.length * n := by
  induction rows with
  | nil => exact (Nat.zero_mul n).symm
  | cons row rows ih =>
    rw [List.flatMap_cons, List.length_append, ih, Vector.length_toList, List.length_cons,
      Nat.succ_mul, Nat.add_comm]

theorem reads_rows (nbK : ℕ) :
    GnarkReads (takeMany take64 nbK) fun rows bytes =>
      rows.length = nbK ∧ bytes = rows.flatMap Vector.toList :=
  (reads_take 64).takeMany_ nbK

/-- The check before the allocation refuses nothing that the loop behind it reads. -/
theorem reads_readRows :
    GnarkReads readRows fun read bytes =>
      read.1 = read.2.length ∧ read.2.length < 2 ^ 32 ∧ 1 ≤ read.2.length ∧
      bytes = beList 4 read.2.length ++ read.2.flatMap Vector.toList := by
  have hrows (nbK : ℕ) :=
    ((reads_rows nbK).bind fun rows => Reads.return_ (nbK, rows)).check_remaining
    (fun left => left / 64 < nbK) (by
      rintro _ _ k ⟨rows, _, _, ⟨rfl, rfl⟩, ⟨rfl, rfl⟩, rfl⟩
      rw [List.append_nil, flatMap_toList_length]
      omega)
  refine (reads_u32.bind fun nbK => (Reads.refuse_ _ (nbK = 0)).bind fun _ => hrows nbK).congr ?_
  rintro ⟨nbK, rows⟩ bytes
  have hpos : 1 ≤ rows.length ↔ rows ≠ [] := List.length_pos_iff
  simp [hpos]
  tauto

theorem reads_readCommittedWires :
    GnarkReads readCommittedWires fun _ bytes => bytes = beList 4 0 := by
  refine (reads_u32.bind fun innerLen => Reads.refuse_ _ (innerLen ≠ 0)).congr ?_
  intro _ bytes
  constructor
  · rintro ⟨innerLen, _, _, ⟨-, rfl⟩, ⟨hzero, rfl⟩, rfl⟩
    rw [not_not.mp hzero, List.append_nil]
  · rintro rfl
    exact ⟨0, _, [], ⟨by decide, rfl⟩, ⟨by simp, rfl⟩, by simp⟩

theorem reads_readCommitment :
    GnarkReads readCommitment fun key bytes => bytes = commitmentSections key := by
  have hkey := (reads_take 128).bind fun g2 => (reads_take 128).bind fun gSigmaNegG2 =>
    Reads.return_ (some ({ g2, gSigmaNegG2 } : CommitmentVerifyingKey))
  refine (reads_u32.bind fun outerLen => (Reads.refuse_ _ (1 < outerLen)).bind fun _ =>
    (reads_readCommittedWires.takeMany_ outerLen).bind fun _ =>
    reads_u32.bind fun nbCommitments => (Reads.refuse_ _ (1 < nbCommitments)).bind fun _ =>
    (Reads.refuse_ _ (nbCommitments ≠ outerLen)).bind fun _ =>
    Reads.choice (nbCommitments = 1) hkey (Reads.return_ none)).congr ?_
  intro key bytes
  simp only [ne_eq, Decidable.not_not, not_lt, exists_and_left, ↓existsAndEq, true_and, List.append_nil,
    List.nil_append, and_assoc, exists_const]
  constructor
  · rintro ⟨lists, -, hle, -, -, x, hkey, rfl⟩
    rcases lists with _ | ⟨_, _ | ⟨_, lists⟩⟩
    · obtain ⟨rfl, rfl⟩ := hkey
      rfl
    · obtain ⟨g2, gSigmaNegG2, rfl, rfl⟩ := hkey
      simp [commitmentSections]
    · simp at hle
  · rintro rfl
    cases key with
    | none => exact ⟨[], by decide, by decide, by decide, by decide, [], ⟨rfl, rfl⟩, rfl⟩
    | some key =>
      exact ⟨[()], by decide, by decide, by decide, by decide, _, ⟨key.g2, key.gSigmaNegG2, rfl, rfl⟩,
        by simp [commitmentSections]⟩

theorem reads_readFields :
    GnarkReads readFields fun fields bytes => ∃ betaG1 deltaG1 : Bytes 64,
      fields.nbK = fields.vkIc.length ∧ fields.vkIc.length < 2 ^ 32 ∧ 1 ≤ fields.vkIc.length ∧
      bytes = fields.vkAlphaG1.toList ++ betaG1.toList ++ fields.vkBetaG2.toList ++
        fields.vkGammaG2.toList ++ deltaG1.toList ++ fields.vkDeltaG2.toList ++
        beList 4 fields.vkIc.length ++ fields.vkIc.flatMap Vector.toList ++
        commitmentSections fields.vkCommitment := by
  refine (reads_readHead.bind fun head => reads_readRows.bind fun rows =>
    reads_readCommitment.bind fun vkCommitment => Reads.return_
      ({ vkAlphaG1 := head.1, vkBetaG2 := head.2.1, vkGammaG2 := head.2.2.1, vkDeltaG2 := head.2.2.2,
         nbK := rows.1, vkIc := rows.2, vkCommitment } : GnarkFields)).congr ?_
  intro fields bytes
  simp only [exists_and_left, ↓existsAndEq, true_and, List.append_nil, and_assoc, Prod.exists]
  constructor
  · rintro ⟨alpha, beta, gamma, delta, betaG1, deltaG1, rows, hlt, hpos, key, rfl, rfl⟩
    exact ⟨rfl, hlt, hpos, betaG1, deltaG1, by simp⟩
  · rintro ⟨hnbK, hlt, hpos, betaG1, deltaG1, rfl⟩
    obtain ⟨alpha, beta, gamma, delta, nbK, rows, key⟩ := fields
    obtain rfl : nbK = rows.length := hnbK
    exact ⟨alpha, beta, gamma, delta, betaG1, deltaG1, rows, hlt, hpos, key, rfl, by simp⟩

theorem nrPubinputsOf_eq_ok_iff {nbK n : ℕ} {committed : Bool} :
    nrPubinputsOf nbK committed = .ok n ↔
      if committed then 2 ≤ nbK ∧ n = nbK - 2 else n = nbK - 1 := by
  cases committed with
  | false => simp [nrPubinputsOf, eq_comm]
  | true =>
    by_cases hlt : nbK < 2
    · simp [nrPubinputsOf, hlt]
    · simp [nrPubinputsOf, hlt, eq_comm]
      omega

/-- What the parser does with the fields it has read. -/
theorem parseGnarkVkBytes_eq_ok_iff_fields {bytes : List UInt8} {vk : Groth16VerifyingkeyOwned} :
    parseGnarkVkBytes bytes = .ok vk ↔
      ∃ fields, (∃ cursor, readFields.run (Cursor.new bytes) = .ok (fields, cursor) ∧
        cursor.pos = bytes.length) ∧
      ∃ nrPubinputs, nrPubinputsOf fields.nbK fields.vkCommitment.isSome = .ok nrPubinputs ∧
        vk = ⟨nrPubinputs, fields.vkAlphaG1, fields.vkBetaG2, fields.vkGammaG2, fields.vkDeltaG2,
          fields.vkIc, fields.vkCommitment⟩ := by
  rw [parseGnarkVkBytes, bind_eq_ok]
  constructor
  · rintro ⟨⟨fields, cursor⟩, hrun, hfinish⟩
    dsimp only at hfinish
    by_cases hend : cursor.pos = bytes.length
    · rw [if_neg (not_ne_iff.mpr hend), bind_eq_ok] at hfinish
      obtain ⟨nrPubinputs, hnr, hvk⟩ := hfinish
      cases hvk
      exact ⟨fields, ⟨cursor, hrun, hend⟩, nrPubinputs, hnr, rfl⟩
    · rw [if_pos hend] at hfinish
      cases hfinish
  · rintro ⟨fields, ⟨cursor, hrun, hend⟩, nrPubinputs, hnr, rfl⟩
    refine ⟨(fields, cursor), hrun, ?_⟩
    dsimp only
    rw [if_neg (not_ne_iff.mpr hend), bind_eq_ok]
    exact ⟨nrPubinputs, hnr, rfl⟩

/-- An accepted file is the encoding of its key. -/
theorem encodes_of_parse {bytes : List UInt8} {vk : Groth16VerifyingkeyOwned}
    (h : parseGnarkVkBytes bytes = .ok vk) :
    ∃ betaG1 deltaG1 : Bytes 64, bytes = writeRawTo betaG1 deltaG1 vk ∧ SupportedRows vk := by
  rw [parseGnarkVkBytes_eq_ok_iff_fields] at h
  simp only [reads_readFields.recognizes.run_new_iff, nrPubinputsOf_eq_ok_iff] at h
  obtain ⟨fields, ⟨betaG1, deltaG1, hnbK, hlt, hpos, rfl⟩, nrPubinputs, hnr, rfl⟩ := h
  refine ⟨betaG1, deltaG1, rfl, hlt, ?_⟩
  rw [hnbK] at hnr
  cases hkey : fields.vkCommitment with
  | none =>
    rw [hkey] at hnr
    exact ⟨hpos, hnr⟩
  | some key =>
    rw [hkey] at hnr
    exact hnr

/-- The encoding of a supported key is accepted as that key. -/
theorem parse_writeRawTo (betaG1 deltaG1 : Bytes 64) {vk : Groth16VerifyingkeyOwned}
    (h : SupportedRows vk) :
    parseGnarkVkBytes (writeRawTo betaG1 deltaG1 vk) = .ok vk := by
  obtain ⟨nrPubinputs, alpha, beta, gamma, delta, rows, key⟩ := vk
  obtain ⟨hlt, hrows⟩ := h
  rw [parseGnarkVkBytes_eq_ok_iff_fields]
  simp only [reads_readFields.recognizes.run_new_iff, nrPubinputsOf_eq_ok_iff]
  refine ⟨⟨alpha, beta, gamma, delta, rows.length, rows, key⟩, ⟨betaG1, deltaG1, rfl, hlt, ?_, rfl⟩,
    nrPubinputs, ?_, rfl⟩
  · cases key with
    | none => exact hrows.1
    | some key => exact Nat.le_of_succ_le hrows.1
  · cases key with
    | none => exact hrows.2
    | some key => exact hrows

/-- The parser accepts the encodings of supported keys, each as its own key. -/
theorem parseGnarkVkBytes_eq_ok_iff (bytes : List UInt8) (vk : Groth16VerifyingkeyOwned) :
    parseGnarkVkBytes bytes = .ok vk ↔
      ∃ betaG1 deltaG1 : Bytes 64, bytes = writeRawTo betaG1 deltaG1 vk ∧ SupportedRows vk := by
  constructor
  · exact encodes_of_parse
  · rintro ⟨betaG1, deltaG1, rfl, hrows⟩
    exact parse_writeRawTo betaG1 deltaG1 hrows

/-! ## Cut and extended files -/

theorem exists_fields_of_parse {bytes : List UInt8} {vk : Groth16VerifyingkeyOwned}
    (h : parseGnarkVkBytes bytes = .ok vk) :
    ∃ fields, ∃ c', readFields.run (Cursor.new bytes) = .ok (fields, c') ∧ c'.pos = bytes.length := by
  obtain ⟨fields, hrun, -⟩ := parseGnarkVkBytes_eq_ok_iff_fields.mp h
  exact ⟨fields, hrun⟩

theorem parse_take_of_parse {bytes : List UInt8} {vk : Groth16VerifyingkeyOwned}
    (h : parseGnarkVkBytes bytes = .ok vk) {k : ℕ} (hk : k < bytes.length) :
    parseGnarkVkBytes (bytes.take k) = .error .bsb22InvalidVerifyingKeyBinary := by
  obtain ⟨fields, hrun⟩ := exists_fields_of_parse h
  have hbytes := reads_readFields.recognizes.run_new_iff.mp hrun
  rw [parseGnarkVkBytes, reads_readFields.run_new_take hbytes hk, error_bind]

theorem parse_append_of_parse {bytes behind : List UInt8} {vk : Groth16VerifyingkeyOwned}
    (h : parseGnarkVkBytes bytes = .ok vk) (hbehind : behind ≠ []) :
    parseGnarkVkBytes (bytes ++ behind) = .error .bsb22InvalidVerifyingKeyBinary := by
  obtain ⟨fields, hrun⟩ := exists_fields_of_parse h
  have hbytes := reads_readFields.recognizes.run_new_iff.mp hrun
  obtain ⟨c', hrun', hpos⟩ := reads_readFields.run_new_append hbytes behind
  have hlong : c'.pos ≠ (bytes ++ behind).length := by
    have hlen := List.length_pos_iff.mpr hbehind
    rw [hpos, List.length_append]
    omega
  rw [parseGnarkVkBytes, hrun', ok_bind]
  exact if_pos hlong

theorem nrPubinputs_lt_of_parse {bytes : List UInt8} {vk : Groth16VerifyingkeyOwned}
    (h : parseGnarkVkBytes bytes = .ok vk) : vk.nrPubinputs < 2 ^ 32 := by
  obtain ⟨-, -, -, hlt, hrows⟩ := encodes_of_parse h
  cases hkey : vk.vkCommitment with
  | none =>
    rw [hkey] at hrows
    omega
  | some key =>
    rw [hkey] at hrows
    omega

/-! ## A sample -/

/-- A key with one public input and a commitment. -/
def sampleVk : Groth16VerifyingkeyOwned :=
  { nrPubinputs := 1
    vkAlphaG1 := Vector.replicate 64 1
    vkBetaG2 := Vector.replicate 128 2
    vkGammaG2 := Vector.replicate 128 3
    vkDeltaG2 := Vector.replicate 128 4
    vkIc := [Vector.replicate 64 5, Vector.replicate 64 6, Vector.replicate 64 7]
    vkCommitment := some { g2 := Vector.replicate 128 8, gSigmaNegG2 := Vector.replicate 128 9 } }

theorem supportedRows_sampleVk : SupportedRows sampleVk := ⟨by decide, by decide, rfl⟩

theorem parse_sampleVk :
    parseGnarkVkBytes (writeRawTo (Bytes.zero 64) (Bytes.zero 64) sampleVk) = .ok sampleVk :=
  parse_writeRawTo _ _ supportedRows_sampleVk

end Groth16Solana
