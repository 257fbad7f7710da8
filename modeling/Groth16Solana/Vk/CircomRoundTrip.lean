import Groth16Solana.Bn254.Twist
import Groth16Solana.Vk.CircomTokens
import Groth16Solana.Vk.GnarkGrammar

/-! # The generated key is the key of the JSON -/

set_option autoImplicit false

namespace Groth16Solana
open Foundations TokenTree

/-! ## Keys as snarkjs writes them -/

/-- The parser of `BigUint` reads decimals. -/
def ParsesDecimals (json : JsonPackages) : Prop :=
  ∀ (s : String) (n : ℕ), decimal s.toList = some n → json.parseBigUint s = .ok n

/-- `[x, y, "1"]`. -/
def IsG1 (point : List String) (value : ℕ × ℕ) : Prop :=
  ∃ x y : String, point = [x, y, "1"] ∧ decimal x.toList = some value.1 ∧ decimal y.toList = some value.2

/-- `[[x0, x1], [y0, y1], ["1", "0"]]`. -/
def IsG2 (point : List (List String)) (value : (ℕ × ℕ) × (ℕ × ℕ)) : Prop :=
  ∃ x0 x1 y0 y1 : String, point = [[x0, x1], [y0, y1], ["1", "0"]] ∧ decimal x0.toList = some value.1.1 ∧
    decimal x1.toList = some value.1.2 ∧ decimal y0.toList = some value.2.1 ∧
      decimal y1.toList = some value.2.2

/-- The affine coordinates of a key. -/
structure SnarkjsKey where
  alpha : ℕ × ℕ
  beta : (ℕ × ℕ) × (ℕ × ℕ)
  gamma : (ℕ × ℕ) × (ℕ × ℕ)
  delta : (ℕ × ℕ) × (ℕ × ℕ)
  ic : List (ℕ × ℕ)

def SnarkjsKey.coordinates (key : SnarkjsKey) : List ℕ :=
  [key.alpha.1, key.alpha.2, key.beta.1.1, key.beta.1.2, key.beta.2.1, key.beta.2.2,
    key.gamma.1.1, key.gamma.1.2, key.gamma.2.1, key.gamma.2.2,
    key.delta.1.1, key.delta.1.2, key.delta.2.1, key.delta.2.2] ++
    key.ic.flatMap fun point => [point.1, point.2]

structure IsSnarkjs (rawVk : RawVerifyingKey) (key : SnarkjsKey) : Prop where
  alpha : IsG1 rawVk.vkAlpha1 key.alpha
  beta : IsG2 rawVk.vkBeta2 key.beta
  gamma : IsG2 rawVk.vkGamma2 key.gamma
  delta : IsG2 rawVk.vkDelta2 key.delta
  ic : List.Forall₂ IsG1 rawVk.ic key.ic
  ic_pos : 1 ≤ rawVk.ic.length

/-- The key with its coordinates as big-endian bytes. -/
def SnarkjsKey.verifyingkey (key : SnarkjsKey) : Groth16VerifyingkeyOwned :=
  { nrPubinputs := key.ic.length - 1
    vkAlphaG1 := joinG1 key.alpha.1 key.alpha.2
    vkBetaG2 := joinG2 key.beta.1 key.beta.2
    vkGammaG2 := joinG2 key.gamma.1 key.gamma.2
    vkDeltaG2 := joinG2 key.delta.1 key.delta.2
    vkIc := key.ic.map fun point => joinG1 point.1 point.2
    vkCommitment := none }

/-! ## The integers of such a key -/

section Integers
variable {json : JsonPackages} {rawVk : RawVerifyingKey} {key : SnarkjsKey}

theorem integerOf_of_decimal (hparse : ParsesDecimals json) {s : String} {n : ℕ}
    (h : decimal s.toList = some n) :
    integerOf json s = some n :=
  (integerOf_eq_some_iff json).mpr (hparse s n h)

theorem IsG1.g1Integers (hparse : ParsesDecimals json) {point : List String} {value : ℕ × ℕ}
    (h : IsG1 point value) :
    g1Integers json point = some [value.1, value.2] := by
  obtain ⟨x, y, rfl, hx, hy⟩ := h
  simp [Groth16Solana.g1Integers, integerOf_of_decimal hparse hx, integerOf_of_decimal hparse hy]

theorem IsG2.g2Integers (hparse : ParsesDecimals json) {point : List (List String)}
    {value : (ℕ × ℕ) × (ℕ × ℕ)} (h : IsG2 point value) :
    g2Integers json point = some [value.1, value.2] := by
  obtain ⟨x0, x1, y0, y1, rfl, hx0, hx1, hy0, hy1⟩ := h
  simp [Groth16Solana.g2Integers, pairIntegers, integerOf_of_decimal hparse hx0,
    integerOf_of_decimal hparse hx1, integerOf_of_decimal hparse hy0,
    integerOf_of_decimal hparse hy1]

def SnarkjsKey.head (key : SnarkjsKey) : HeadIntegers :=
  { alpha := [key.alpha.1, key.alpha.2]
    beta := [key.beta.1, key.beta.2]
    gamma := [key.gamma.1, key.gamma.2]
    delta := [key.delta.1, key.delta.2] }

def SnarkjsKey.rows (key : SnarkjsKey) : List (List ℕ) := key.ic.map fun point => [point.1, point.2]

theorem IsSnarkjs.headIntegers (hparse : ParsesDecimals json) (h : IsSnarkjs rawVk key) :
    headIntegers json rawVk = some (key.ic.length - 1, key.head) :=
  (headIntegers_eq_some_iff json).mpr ⟨⟨h.ic_pos, h.ic.length_eq ▸ rfl⟩, h.alpha.g1Integers hparse,
    h.beta.g2Integers hparse, h.gamma.g2Integers hparse, h.delta.g2Integers hparse⟩

theorem IsSnarkjs.icIntegers (hparse : ParsesDecimals json) (h : IsSnarkjs rawVk key) :
    icIntegers json rawVk = some key.rows := by
  rw [Groth16Solana.icIntegers, mapM_eq_some_iff, SnarkjsKey.rows, List.forall₂_map_right_iff]
  exact h.ic.imp fun _ _ hpoint => hpoint.g1Integers hparse

theorem SnarkjsKey.not_refused {setup : SetupKind} (hfits : ∀ n ∈ key.coordinates, n < 2 ^ 256)
    (hdistinct : setup = .production → key.gamma ≠ key.delta) :
    ¬ RefusedForgeable setup key.head := by
  intro ⟨hproduction, hsame⟩
  simp only [SnarkjsKey.coordinates, List.forall_mem_append, List.forall_mem_cons] at hfits
  obtain ⟨⟨-, -, -, -, -, -, hg₀, hg₁, hg₂, hg₃, hd₀, hd₁, hd₂, hd₃, -⟩, -⟩ := hfits
  have hgamma : ∀ value ∈ [key.gamma.1, key.gamma.2], value.1 < 2 ^ 256 ∧ value.2 < 2 ^ 256 :=
    List.forall_mem_cons.mpr ⟨⟨hg₀, hg₁⟩, List.forall_mem_singleton.mpr ⟨hg₂, hg₃⟩⟩
  have hdelta : ∀ value ∈ [key.delta.1, key.delta.2], value.1 < 2 ^ 256 ∧ value.2 < 2 ^ 256 :=
    List.forall_mem_cons.mpr ⟨⟨hd₀, hd₁⟩, List.forall_mem_singleton.mpr ⟨hd₂, hd₃⟩⟩
  have heq : [key.gamma.1, key.gamma.2] = [key.delta.1, key.delta.2] := hsame.eq hgamma hdelta
  refine hdistinct hproduction ?_
  simpa [Prod.ext_iff] using heq

theorem IsSnarkjs.generated {setup : SetupKind} (hparse : ParsesDecimals json)
    (h : IsSnarkjs rawVk key) (hforge : ¬ RefusedForgeable setup key.head) :
    GeneratedKey setup json rawVk (key.ic.length - 1) key.head key.rows :=
  ⟨h.headIntegers hparse, hforge, h.icIntegers hparse⟩

end Integers

/-! ## The literal -/

theorem toList_joinG2 (x y : ℕ × ℕ) : (joinG2 x y).toList = g2Bytes [x, y] := by
  simp [joinG2, g2Bytes, List.append_assoc]

theorem SnarkjsKey.typed_literal (key : SnarkjsKey) :
    (circomKey (key.ic.length - 1) key.head key.rows).literal.typed =
      some key.verifyingkey.asBorrowed := by
  have hg1 (x y : ℕ) : (joinG1 x y).toList = g1Bytes [x, y] := by simp [g1Bytes]
  rw [typed_eq_some_iff]
  simp [Groth16Verifyingkey.literal, Groth16VerifyingkeyOwned.asBorrowed, SnarkjsKey.verifyingkey,
    CircomKey.literal, circomKey, SnarkjsKey.head, SnarkjsKey.rows, hg1, toList_joinG2,
    -toList_joinG1]

/-- The generator writes the key of the JSON, which is the key that gnark's encoding of the same bytes
is parsed as. That encoding counts its rows in four bytes. -/
theorem circom_const_is_json_key {json : JsonPackages} {jsonContent : String}
    {rawVk : RawVerifyingKey} {key : SnarkjsKey} {setup : SetupKind} (provingKeySha256 : Bytes 32)
    (hparse : ParsesDecimals json) (hjson : json.fromStr jsonContent = .ok rawVk)
    (hkey : IsSnarkjs rawVk key) (hfits : ∀ n ∈ key.coordinates, n < 2 ^ 256)
    (hdistinct : setup = .production → key.gamma ≠ key.delta) :
    ∃ src, parseVkJsonToRustString json jsonContent setup provingKeySha256 = .ok src ∧
      denotedKey src "VERIFYINGKEY" = some key.verifyingkey.asBorrowed ∧
      ∀ betaG1 deltaG1 : Bytes 64, key.ic.length < 2 ^ 32 →
        parseGnarkVkBytes (writeRawTo betaG1 deltaG1 key.verifyingkey) = .ok key.verifyingkey := by
  have hgenerated := hkey.generated hparse (key.not_refused hfits hdistinct)
  refine ⟨_, parse_of_generated provingKeySha256 hjson hgenerated, ?_, fun betaG1 deltaG1 hrows => ?_⟩
  · have hread :=
      readKeyLiteral_circomFile
        (circomKey (key.ic.length - 1) key.head key.rows) setup provingKeySha256
      (nrPubinputs_lt_of_generated hgenerated)
    rw [denotedKey, hread, Option.bind_eq_bind, Option.bind_some]
    exact key.typed_literal
  · have hpos : 1 ≤ key.ic.length := hkey.ic.length_eq ▸ hkey.ic_pos
    have hlen : key.verifyingkey.vkIc.length = key.ic.length := List.length_map _
    have hsupported : SupportedRows key.verifyingkey := by
      refine ⟨hlen ▸ hrows, hlen ▸ hpos, ?_⟩
      rw [hlen]
      rfl
    exact parse_writeRawTo betaG1 deltaG1 hsupported

/-- Packages that know one document. -/
def samplePackages (document : String) (rawVk : RawVerifyingKey) : JsonPackages where
  fromStr content := if content = document then .ok rawVk else .error "expected value at line 1 column 1"
  parseBigUint s :=
    match decimal s.toList with
    | some n => .ok n
    | none => .error "invalid digit found in string"

theorem fromStr_samplePackages (document : String) (rawVk : RawVerifyingKey) :
    (samplePackages document rawVk).fromStr document = .ok rawVk := if_pos rfl

theorem parsesDecimals_samplePackages (document : String) (rawVk : RawVerifyingKey) :
    ParsesDecimals (samplePackages document rawVk) := by
  intro s n h
  simp only [samplePackages, h]

/-- A key with one public input, after a contribution to its setup. -/
def sampleVkJson (vkAlpha1 : String) : String :=
  "\x7b\"vk_alpha_1\": " ++ vkAlpha1 ++ "," ++
  "\"vk_beta_2\": [[\"1\", \"2\"], [\"3\", \"4\"], [\"1\", \"0\"]]," ++
  "\"vk_gamma_2\": [[\"1\", \"2\"], [\"3\", \"4\"], [\"1\", \"0\"]]," ++
  "\"vk_delta_2\": [[\"5\", \"6\"], [\"7\", \"8\"], [\"1\", \"0\"]]," ++
  "\"IC\": [[\"1\", \"2\", \"1\"], [\"3\", \"4\", \"1\"]]\x7d"

def sampleRawVk (vkAlpha1 : List String) : RawVerifyingKey :=
  { vkAlpha1
    vkBeta2 := [["1", "2"], ["3", "4"], ["1", "0"]]
    vkGamma2 := [["1", "2"], ["3", "4"], ["1", "0"]]
    vkDelta2 := [["5", "6"], ["7", "8"], ["1", "0"]]
    ic := [["1", "2", "1"], ["3", "4", "1"]]
    ic_length := by decide }

def sampleKey (alpha : ℕ × ℕ) : SnarkjsKey :=
  { alpha
    beta := ((1, 2), (3, 4))
    gamma := ((1, 2), (3, 4))
    delta := ((5, 6), (7, 8))
    ic := [(1, 2), (3, 4)] }

theorem decimal_literal {l : List Char} {n : ℕ} (h : decimal l = some n) :
    decimal (String.ofList l).toList = some n := by
  rwa [String.toList_ofList]

theorem isSnarkjs_sample {point : List String} {alpha : ℕ × ℕ} (h : IsG1 point alpha) :
    IsSnarkjs (sampleRawVk point) (sampleKey alpha) := by
  have hrow : IsG1 ["1", "2", "1"] (1, 2) := ⟨_, _, rfl, decimal_literal rfl, decimal_literal rfl⟩
  have hrow' : IsG1 ["3", "4", "1"] (3, 4) := ⟨_, _, rfl, decimal_literal rfl, decimal_literal rfl⟩
  have hgamma : IsG2 [["1", "2"], ["3", "4"], ["1", "0"]] ((1, 2), (3, 4)) :=
    ⟨_, _, _, _, rfl, decimal_literal rfl, decimal_literal rfl, decimal_literal rfl, decimal_literal rfl⟩
  have hdelta : IsG2 [["5", "6"], ["7", "8"], ["1", "0"]] ((5, 6), (7, 8)) :=
    ⟨_, _, _, _, rfl, decimal_literal rfl, decimal_literal rfl, decimal_literal rfl, decimal_literal rfl⟩
  exact ⟨h, hgamma, hgamma, hdelta, .cons hrow (.cons hrow' .nil), show 1 ≤ 2 from Nat.le_succ 1⟩

def contributedVkJson : String := sampleVkJson "[\"1\", \"2\", \"1\"]"

def contributedRawVk : RawVerifyingKey := sampleRawVk ["1", "2", "1"]

def contributedPackages : JsonPackages := samplePackages contributedVkJson contributedRawVk

theorem isSnarkjs_contributed : IsSnarkjs contributedRawVk (sampleKey (1, 2)) :=
  isSnarkjs_sample ⟨_, _, rfl, decimal_literal rfl, decimal_literal rfl⟩

theorem circom_const_is_json_key_contributed :
    ∃ src,
      parseVkJsonToRustString contributedPackages contributedVkJson .production (Bytes.zero 32) =
        .ok src ∧
      denotedKey src "VERIFYINGKEY" = some (sampleKey (1, 2)).verifyingkey.asBorrowed ∧
      parseGnarkVkBytes (writeRawTo (Bytes.zero 64) (Bytes.zero 64) (sampleKey (1, 2)).verifyingkey) =
        .ok (sampleKey (1, 2)).verifyingkey := by
  have hdistinct : SetupKind.production = .production →
      (sampleKey (1, 2)).gamma ≠ (sampleKey (1, 2)).delta := by
    decide
  obtain ⟨src, hsrc, hkey, hgnark⟩ := circom_const_is_json_key (Bytes.zero 32)
    (parsesDecimals_samplePackages contributedVkJson contributedRawVk)
    (fromStr_samplePackages contributedVkJson contributedRawVk) isSnarkjs_contributed
      (by decide) hdistinct
  exact ⟨src, hsrc, hkey, hgnark _ _ (by decide)⟩

end Groth16Solana
