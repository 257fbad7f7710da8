import Groth16Solana.Verifier.Calls
import Groth16Solana.Vk.CircomTokens
import Groth16Solana.Vk.GnarkGrammar

/-! # Keys and constructors

The two parsers count the public inputs of a key, each in its own way; the two constructors look at the
rows. A produced key is good for one constructor with one number of inputs. -/

set_option autoImplicit false

namespace Groth16Solana
open Foundations

/-- The keys of the parser, and those that the files of the JSON generator denote. -/
inductive ProducedKey : Groth16Verifyingkey → Prop
  | gnark {bytes : List UInt8} {vk : Groth16VerifyingkeyOwned}
      (hparse : parseGnarkVkBytes bytes = .ok vk) :
    ProducedKey vk.asBorrowed
  | circom {json : JsonPackages} {jsonContent src : String} {setup : SetupKind}
      {provingKeySha256 : Bytes 32} {key : Groth16Verifyingkey}
      (hsrc : parseVkJsonToRustString json jsonContent setup provingKeySha256 = .ok src)
      (hkey : denotedKey src "VERIFYINGKEY" = some key) : ProducedKey key

/-- What the constructors do with a key, whatever the proof is. -/
structure ConstructorsAgree (key : Groth16Verifyingkey) : Prop where
  new_ok {nrInputs : ℕ} (proofA : Bytes 64) (proofB : Bytes 128) (proofC : Bytes 64)
    (publicInputs : Vector (Bytes 32) nrInputs) :
    (∃ self, Groth16Verifier.new proofA proofB proofC publicInputs key = .ok self) ↔
      key.vkCommitment = none ∧ nrInputs = key.nrPubinputs
  new_unexpected {nrInputs : ℕ} (proofA : Bytes 64) (proofB : Bytes 128) (proofC : Bytes 64)
    (publicInputs : Vector (Bytes 32) nrInputs) (hkey : key.vkCommitment.isSome) :
    Groth16Verifier.new proofA proofB proofC publicInputs key = .error .unexpectedCommitmentKey
  new_length {nrInputs : ℕ} (proofA : Bytes 64) (proofB : Bytes 128) (proofC : Bytes 64)
    (publicInputs : Vector (Bytes 32) nrInputs) (hkey : key.vkCommitment = none)
    (hinputs : nrInputs ≠ key.nrPubinputs) :
    Groth16Verifier.new proofA proofB proofC publicInputs key = .error .invalidPublicInputsLength
  newWithCommitment_ok {nrInputs : ℕ} (proofA : Bytes 64) (proofB : Bytes 128)
    (proofC commitment pok : Bytes 64)
    (publicInputs : Vector (Bytes 32) nrInputs) :
    (∃ self, Groth16Verifier.newWithCommitment proofA proofB proofC commitment pok publicInputs key =
      .ok self) ↔
      key.vkCommitment.isSome ∧ nrInputs = key.nrPubinputs
  newWithCommitment_missing {nrInputs : ℕ} (proofA : Bytes 64) (proofB : Bytes 128)
    (proofC commitment pok : Bytes 64) (publicInputs : Vector (Bytes 32) nrInputs)
    (hkey : key.vkCommitment = none) :
    Groth16Verifier.newWithCommitment proofA proofB proofC commitment pok publicInputs key =
      .error .missingCommitmentKey
  newWithCommitment_length {nrInputs : ℕ} (proofA : Bytes 64) (proofB : Bytes 128)
    (proofC commitment pok : Bytes 64) (publicInputs : Vector (Bytes 32) nrInputs)
    (hkey : key.vkCommitment.isSome) (hinputs : nrInputs ≠ key.nrPubinputs) :
    Groth16Verifier.newWithCommitment proofA proofB proofC commitment pok publicInputs key =
      .error .invalidPublicInputsLength

/-! ## The rows of a key -/

/-- The constant row, one for every public input, and one for the hash of a commitment. -/
def RowsCounted (key : Groth16Verifyingkey) : Prop :=
  match key.vkCommitment with
  | none => key.vkIc.length = key.nrPubinputs + 1
  | some _ => key.vkIc.length = key.nrPubinputs + 2

theorem rowsCounted_of_gnark {bytes : List UInt8} {vk : Groth16VerifyingkeyOwned}
    (h : parseGnarkVkBytes bytes = .ok vk) : RowsCounted vk.asBorrowed := by
  obtain ⟨-, -, -, -, hrows⟩ := encodes_of_parse h
  obtain ⟨nrPubinputs, alpha, beta, gamma, delta, rows, commitment⟩ := vk
  cases commitment with
  | none =>
    have hlen : rows.length = nrPubinputs + 1 := by
      obtain ⟨hpos, hinputs⟩ : 1 ≤ rows.length ∧ nrPubinputs = rows.length - 1 := hrows
      omega
    exact hlen
  | some key =>
    have hlen : rows.length = nrPubinputs + 2 := by
      obtain ⟨hpos, hinputs⟩ : 2 ≤ rows.length ∧ nrPubinputs = rows.length - 2 := hrows
      omega
    exact hlen

theorem rowsCounted_of_circom {json : JsonPackages} {jsonContent src : String} {setup : SetupKind}
    {provingKeySha256 : Bytes 32} {key : Groth16Verifyingkey}
    (hsrc : parseVkJsonToRustString json jsonContent setup provingKeySha256 = .ok src)
    (hkey : denotedKey src "VERIFYINGKEY" = some key) : RowsCounted key := by
  obtain ⟨rawVk, hjson⟩ := fromStr_of_parse hsrc
  obtain ⟨nrPubinputs, head, ic, hgenerated, hread⟩ := readKeyLiteral_of_parse hjson hsrc
  rw [denotedKey, hread] at hkey
  have hliteral := typed_eq_some_iff.mp hkey
  obtain ⟨⟨hpos, hinputs⟩, -⟩ := (headIntegers_eq_some_iff json).mp hgenerated.headIntegers_eq
  have hic : rawVk.ic.length = ic.length := (mapM_eq_some_iff.mp hgenerated.icIntegers_eq).length_eq
  have hcommitment : none = key.vkCommitment := congrArg KeyLiteral.vkCommitment hliteral
  have hcount : nrPubinputs = key.nrPubinputs := congrArg KeyLiteral.nrPubinputs hliteral
  have hrows : ic.map g1Bytes = key.vkIc.map Vector.toList := congrArg KeyLiteral.vkIc hliteral
  have hlen := congrArg List.length hrows
  rw [List.length_map, List.length_map] at hlen
  rw [RowsCounted, ← hcommitment]
  show key.vkIc.length = key.nrPubinputs + 1
  omega

theorem ProducedKey.rowsCounted {key : Groth16Verifyingkey} (h : ProducedKey key) :
    RowsCounted key := by
  cases h with
  | gnark hparse => exact rowsCounted_of_gnark hparse
  | circom hsrc hkey => exact rowsCounted_of_circom hsrc hkey

/-! ## The constructors -/

section Constructors
variable {key : Groth16Verifyingkey} {nrInputs : ℕ} (proofA : Bytes 64) (proofB : Bytes 128)
  (proofC commitment pok : Bytes 64) (publicInputs : Vector (Bytes 32) nrInputs)

theorem new_of_plain (hkey : key.vkCommitment = none) (hlen : nrInputs + 1 ≠ key.vkIc.length) :
    Groth16Verifier.new proofA proofB proofC publicInputs key = .error .invalidPublicInputsLength := by
  have hsize : publicInputs.size + 1 ≠ key.vkIc.length := hlen
  rw [Groth16Verifier.new, hkey, Option.isSome_none, if_neg (by decide), if_pos hsize]

theorem newWithCommitment_of_bsb22 (hkey : key.vkCommitment.isSome)
    (hlen : nrInputs + 2 ≠ key.vkIc.length) :
    Groth16Verifier.newWithCommitment proofA proofB proofC commitment pok publicInputs key =
      .error .invalidPublicInputsLength := by
  have hsize : publicInputs.size + 2 ≠ key.vkIc.length := hlen
  obtain ⟨ck, hck⟩ := Option.isSome_iff_exists.mp hkey
  rw [Groth16Verifier.newWithCommitment, hck, Option.isNone_some, if_neg (by decide), if_pos hsize]

end Constructors

theorem RowsCounted.length_eq {key : Groth16Verifyingkey} (h : RowsCounted key)
    (hkey : key.vkCommitment = none) :
    key.vkIc.length = key.nrPubinputs + 1 := by
  rw [RowsCounted, hkey] at h
  exact h

theorem RowsCounted.length_eq_of_isSome {key : Groth16Verifyingkey} (h : RowsCounted key)
    (hkey : key.vkCommitment.isSome) : key.vkIc.length = key.nrPubinputs + 2 := by
  obtain ⟨ck, hck⟩ := Option.isSome_iff_exists.mp hkey
  rw [RowsCounted, hck] at h
  exact h

/-- Each produced key goes with one constructor, for as many inputs as it says. -/
theorem constructorsAgree_of_produced {key : Groth16Verifyingkey} (h : ProducedKey key) :
    ConstructorsAgree key where
  new_ok proofA proofB proofC publicInputs := by
    simp only [new_eq_ok_iff, exists_and_left, exists_eq, and_true]
    refine and_congr_right fun hkey => ?_
    have hlen := h.rowsCounted.length_eq hkey
    omega
  new_unexpected proofA proofB proofC publicInputs hkey := if_pos hkey
  new_length proofA proofB proofC publicInputs hkey hinputs := by
    have hlen := h.rowsCounted.length_eq hkey
    exact new_of_plain proofA proofB proofC publicInputs hkey (by omega)
  newWithCommitment_ok proofA proofB proofC commitment pok publicInputs := by
    simp only [newWithCommitment_eq_ok_iff, exists_and_left, exists_eq, and_true]
    refine and_congr_right fun hkey => ?_
    have hlen := h.rowsCounted.length_eq_of_isSome hkey
    omega
  newWithCommitment_missing proofA proofB proofC commitment pok publicInputs hkey :=
    if_pos (Option.isNone_iff_eq_none.mpr hkey)
  newWithCommitment_length proofA proofB proofC commitment pok publicInputs hkey hinputs := by
    have hlen := h.rowsCounted.length_eq_of_isSome hkey
    exact newWithCommitment_of_bsb22 proofA proofB proofC commitment pok publicInputs hkey (by omega)

theorem constructorsAgree_of_produced_sample : ConstructorsAgree sampleVk.asBorrowed :=
  constructorsAgree_of_produced (.gnark parse_sampleVk)

end Groth16Solana
