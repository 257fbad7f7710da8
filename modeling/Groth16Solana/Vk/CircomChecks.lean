import Groth16Solana.Vk.CircomRoundTrip

/-! # The checks of the JSON generator

The generator cuts coordinates at 32 bytes, and looks neither at the number of components of a point
nor at its last one. Each section says for which keys this makes no difference. -/

set_option autoImplicit false

namespace Groth16Solana
open Foundations TokenTree

variable (json : JsonPackages)

/-! ## Coordinates -/

/-- The strings of a G1 point that are encoded. -/
def affineG1 (point : List String) : List String := point.dropLast

/-- The strings of a G2 point that are encoded, in the order of their bytes. -/
def affineG2 (point : List (List String)) : List String := point.dropLast.flatMap List.reverse

def encodedStrings (rawVk : RawVerifyingKey) : List String :=
  affineG1 rawVk.vkAlpha1 ++ affineG2 rawVk.vkBeta2 ++ affineG2 rawVk.vkGamma2 ++
    affineG2 rawVk.vkDelta2 ++
    rawVk.ic.flatMap affineG1

/-- The integers of the strings have at most 32 bytes. -/
def Fits (strings : List String) : Prop :=
  ∀ s ∈ strings, ∀ n, json.parseBigUint s = .ok n → n < 2 ^ 256

/-- The bytes are those of the strings, 32 for each, that denote the same integer. -/
def EmitsCoordinates (strings : List String) (bytes : List UInt8) : Prop :=
  ∃ parts : List (Bytes 32), bytes = parts.flatMap Vector.toList ∧
    List.Forall₂ (fun s part => json.parseBigUint s = .ok (beNat part.toList)) strings parts

structure EmitsKey (rawVk : RawVerifyingKey) (literal : KeyLiteral) : Prop where
  alpha : EmitsCoordinates json (affineG1 rawVk.vkAlpha1) literal.vkAlphaG1
  beta : EmitsCoordinates json (affineG2 rawVk.vkBeta2) literal.vkBetaG2
  gamma : EmitsCoordinates json (affineG2 rawVk.vkGamma2) literal.vkGammaG2
  delta : EmitsCoordinates json (affineG2 rawVk.vkDelta2) literal.vkDeltaG2
  ic : List.Forall₂ (fun point row => EmitsCoordinates json (affineG1 point) row) rawVk.ic literal.vkIc

section
variable {json} {strings : List String} {values : List ℕ}

theorem emitsCoordinates_cons_iff {s : String} {n : ℕ} (hs : json.parseBigUint s = .ok n) :
    EmitsCoordinates json (s :: strings) (g1Bytes (n :: values)) ↔
      n < 2 ^ 256 ∧ EmitsCoordinates json strings (g1Bytes values) := by
  have hsplit : g1Bytes (n :: values) = beList 32 n ++ g1Bytes values := rfl
  rw [hsplit]
  constructor
  · rintro ⟨parts, hbytes, hparts⟩
    cases hparts with
    | cons hpart hrest =>
      rename_i part parts
      obtain ⟨-, hrestBytes⟩ := List.append_inj hbytes (by simp)
      obtain rfl := Except.ok.inj (hs.symm.trans hpart)
      exact ⟨beNat_lt_of_length Vector.length_toList, parts, hrestBytes, hrest⟩
  · rintro ⟨hn, parts, hbytes, hparts⟩
    refine ⟨beBytes 32 n :: parts, ?_, List.Forall₂.cons ?_ hparts⟩
    · rw [List.flatMap_cons, toList_beBytes, hbytes]
    · rw [hs, toList_beBytes, beNat_beList_of_lt hn]

theorem fits_iff (h : strings.mapM (integerOf json) = some values) :
    Fits json strings ↔ ∀ n ∈ values, n < 2 ^ 256 := by
  rw [mapM_eq_some_iff] at h
  induction h with
  | nil => exact iff_of_true (List.forall_mem_nil _) (List.forall_mem_nil _)
  | cons hs _ ih =>
    have hparse := (integerOf_eq_some_iff json).mp hs
    rw [Fits, List.forall_mem_cons, List.forall_mem_cons, ← ih, hparse]
    simp [Fits]

/-- The bytes of integers are those of their strings just when no integer is cut. -/
theorem emitsCoordinates_iff (h : strings.mapM (integerOf json) = some values) :
    EmitsCoordinates json strings (g1Bytes values) ↔ Fits json strings := by
  rw [fits_iff h]
  rw [mapM_eq_some_iff] at h
  induction h with
  | nil => exact iff_of_true ⟨[], rfl, List.Forall₂.nil⟩ (List.forall_mem_nil _)
  | cons hs _ ih =>
    rw [emitsCoordinates_cons_iff ((integerOf_eq_some_iff json).mp hs), ih, List.forall_mem_cons]

theorem g2Bytes_eq (values : List (ℕ × ℕ)) :
    g2Bytes values = g1Bytes (values.flatMap fun value => [value.2, value.1]) := by
  rw [g2Bytes, g1Bytes, List.flatMap_assoc]
  simp

theorem mapM_reverse_pairs {pairs : List (List String)} {values : List (ℕ × ℕ)}
    (h : pairs.mapM (pairIntegers json) = some values) :
    (pairs.flatMap List.reverse).mapM (integerOf json) =
      some (values.flatMap fun value => [value.2, value.1]) := by
  rw [mapM_eq_some_iff] at h
  induction h with
  | nil => rfl
  | cons hpair _ ih =>
    obtain ⟨c0, c1, rfl, hn0, hn1⟩ := (pairIntegers_eq_some_iff json).mp hpair
    rw [List.flatMap_cons, List.mapM_append, ih]
    simp [hn0, hn1]

theorem emitsCoordinates_g1_iff {point : List String} (h : g1Integers json point = some values) :
    EmitsCoordinates json (affineG1 point) (g1Bytes values) ↔ Fits json (affineG1 point) :=
  emitsCoordinates_iff ((g1Integers_eq_some_iff json).mp h).2

theorem emitsCoordinates_g2_iff {point : List (List String)} {pairs : List (ℕ × ℕ)}
    (h : g2Integers json point = some pairs) :
    EmitsCoordinates json (affineG2 point) (g2Bytes pairs) ↔ Fits json (affineG2 point) := by
  rw [g2Bytes_eq]
  exact emitsCoordinates_iff (mapM_reverse_pairs ((g2Integers_eq_some_iff json).mp h).2)

theorem emitsRows_iff {points : List (List String)} {rows : List (List ℕ)}
    (h : List.Forall₂ (fun point values => g1Integers json point = some values) points rows) :
    List.Forall₂ (fun point row => EmitsCoordinates json (affineG1 point) row) points (rows.map g1Bytes) ↔
      Fits json (points.flatMap affineG1) := by
  induction h with
  | nil => exact iff_of_true List.Forall₂.nil (List.forall_mem_nil _)
  | cons hpoint _ ih =>
    rw [List.map_cons, List.forall₂_cons, ih, emitsCoordinates_g1_iff hpoint, List.flatMap_cons,
      Fits, Fits, Fits, List.forall_mem_append]

variable {rawVk : RawVerifyingKey} {setup : SetupKind} {nrPubinputs : ℕ} {head : HeadIntegers}
  {ic : List (List ℕ)}

/-- A generated key holds the coordinates of the JSON just when they fit. -/
theorem GeneratedKey.emitsKey_iff (h : GeneratedKey setup json rawVk nrPubinputs head ic) :
    EmitsKey json rawVk (circomKey nrPubinputs head ic).literal ↔ Fits json (encodedStrings rawVk) := by
  obtain ⟨-, halpha, hbeta, hgamma, hdelta⟩ := (headIntegers_eq_some_iff json).mp h.headIntegers_eq
  have hrows := emitsRows_iff (mapM_eq_some_iff.mp h.icIntegers_eq)
  have hfits : Fits json (encodedStrings rawVk) ↔ (((Fits json (affineG1 rawVk.vkAlpha1) ∧
      Fits json (affineG2 rawVk.vkBeta2)) ∧ Fits json (affineG2 rawVk.vkGamma2)) ∧
      Fits json (affineG2 rawVk.vkDelta2)) ∧ Fits json (rawVk.ic.flatMap affineG1) := by
    simp only [Fits, encodedStrings, List.forall_mem_append]
  rw [hfits, ← emitsCoordinates_g1_iff halpha, ← emitsCoordinates_g2_iff hbeta,
    ← emitsCoordinates_g2_iff hgamma, ← emitsCoordinates_g2_iff hdelta, ← hrows]
  constructor
  · intro hkey
    exact ⟨⟨⟨⟨hkey.alpha, hkey.beta⟩, hkey.gamma⟩, hkey.delta⟩, hkey.ic⟩
  · intro ⟨⟨⟨⟨halpha, hbeta⟩, hgamma⟩, hdelta⟩, hic⟩
    exact ⟨halpha, hbeta, hgamma, hdelta, hic⟩

end

/-! ## No coordinate is cut -/

/-- A delivered file holds the coordinates of the JSON, and a coordinate that does not fit is
reported. -/
def KeepsCoordinates (rawVk : RawVerifyingKey) (result : Except VkParseError String) : Prop :=
  (∀ src, result = .ok src →
    ∃ literal, readKeyLiteral src "VERIFYINGKEY" = some literal ∧ EmitsKey json rawVk literal) ∧
  ((∃ s ∈ encodedStrings rawVk, ∃ n, json.parseBigUint s = .ok n ∧ 2 ^ 256 ≤ n) →
    ∃ message, result = .error (.invalidData message))

section
variable {json} {jsonContent : String} {rawVk : RawVerifyingKey} {setup : SetupKind}

theorem not_fits_iff : ¬ Fits json (encodedStrings rawVk) ↔
    ∃ s ∈ encodedStrings rawVk, ∃ n, json.parseBigUint s = .ok n ∧ 2 ^ 256 ≤ n := by
  simp only [Fits, not_forall, not_lt, exists_prop]

theorem emitsKey_of_parse {src : String} {provingKeySha256 : Bytes 32}
    (hjson : json.fromStr jsonContent = .ok rawVk)
    (hsrc : parseVkJsonToRustString json jsonContent setup provingKeySha256 = .ok src)
    (hfits : Fits json (encodedStrings rawVk)) :
    ∃ literal, readKeyLiteral src "VERIFYINGKEY" = some literal ∧ EmitsKey json rawVk literal := by
  obtain ⟨nrPubinputs, head, ic, hkey, hread⟩ := readKeyLiteral_of_parse hjson hsrc
  exact ⟨_, hread, hkey.emitsKey_iff.mpr hfits⟩

/-- Only an unreadable key is reported with `InvalidData`. -/
theorem unreadable_of_invalidData {message : String} {provingKeySha256 : Bytes 32}
    (hjson : json.fromStr jsonContent = .ok rawVk)
    (h : parseVkJsonToRustString json jsonContent setup provingKeySha256 =
      .error (.invalidData message)) :
    UnreadableKey setup json rawVk := by
  rcases key_cases json rawVk setup with hunreadable | hrefused | ⟨nrPubinputs, head, ic, hkey⟩
  · exact hunreadable
  · rw [parse_of_refused provingKeySha256 hjson hrefused] at h
    cases h
  · rw [parse_of_generated provingKeySha256 hjson hkey] at h
    cases h

theorem keepsCoordinates_iff (provingKeySha256 : Bytes 32)
    (hjson : json.fromStr jsonContent = .ok rawVk) :
    KeepsCoordinates json rawVk (parseVkJsonToRustString json jsonContent setup provingKeySha256) ↔
      Fits json (encodedStrings rawVk) ∨ UnreadableKey setup json rawVk := by
  constructor
  · intro ⟨_, hreport⟩
    by_cases hfits : Fits json (encodedStrings rawVk)
    · exact Or.inl hfits
    · obtain ⟨message, hmessage⟩ := hreport (not_fits_iff.mp hfits)
      exact Or.inr (unreadable_of_invalidData hjson hmessage)
  · intro h
    refine ⟨fun src hsrc => ?_, fun hlarge => ?_⟩
    · rcases h with hfits | hunreadable
      · exact emitsKey_of_parse hjson hsrc hfits
      · obtain ⟨message, hmessage⟩ := parse_of_unreadable provingKeySha256 hjson hunreadable
        rw [hmessage] at hsrc
        cases hsrc
    · rcases h with hfits | hunreadable
      · exact absurd hfits (not_fits_iff.mpr hlarge)
      · exact parse_of_unreadable provingKeySha256 hjson hunreadable

theorem IsG1.fits {point : List String} {value : ℕ × ℕ} (hparse : ParsesDecimals json)
    (h : IsG1 point value) (hx : value.1 < 2 ^ 256) (hy : value.2 < 2 ^ 256) :
    Fits json (affineG1 point) := by
  refine (fits_iff ((g1Integers_eq_some_iff json).mp (h.g1Integers hparse)).2).mpr ?_
  exact List.forall_mem_cons.mpr ⟨hx, List.forall_mem_singleton.mpr hy⟩

theorem IsG2.fits {point : List (List String)} {value : (ℕ × ℕ) × (ℕ × ℕ)}
    (hparse : ParsesDecimals json) (h : IsG2 point value)
    (hx0 : value.1.1 < 2 ^ 256) (hx1 : value.1.2 < 2 ^ 256)
    (hy0 : value.2.1 < 2 ^ 256) (hy1 : value.2.2 < 2 ^ 256) : Fits json (affineG2 point) := by
  have hpairs := ((g2Integers_eq_some_iff json).mp (h.g2Integers hparse)).2
  refine (fits_iff (mapM_reverse_pairs hpairs)).mpr ?_
  simp only [List.flatMap_cons, List.flatMap_nil, List.cons_append, List.nil_append,
    List.forall_mem_cons]
  exact ⟨hx1, hx0, hy1, hy0, List.forall_mem_nil _⟩

theorem fits_of_isG1 {points : List (List String)} {values : List (ℕ × ℕ)}
    (hparse : ParsesDecimals json) (h : List.Forall₂ IsG1 points values)
    (hvalues : ∀ n ∈ values.flatMap fun value => [value.1, value.2], n < 2 ^ 256) :
    Fits json (points.flatMap affineG1) := by
  induction h with
  | nil => exact List.forall_mem_nil _
  | cons hpoint _ ih =>
    rw [List.flatMap_cons, List.forall_mem_append, List.forall_mem_cons] at hvalues
    obtain ⟨⟨hx, hy⟩, hrest⟩ := hvalues
    have hpointFits := hpoint.fits hparse hx (hy _ List.mem_cons_self)
    exact List.forall_mem_append.mpr ⟨hpointFits, ih hrest⟩

/-- The coordinates of a key that snarkjs writes fit when they have 32 bytes. -/
theorem IsSnarkjs.fits {key : SnarkjsKey} (hparse : ParsesDecimals json) (h : IsSnarkjs rawVk key)
    (hkey : ∀ n ∈ key.coordinates, n < 2 ^ 256) : Fits json (encodedStrings rawVk) := by
  simp only [SnarkjsKey.coordinates, List.forall_mem_append, List.forall_mem_cons] at hkey
  obtain ⟨⟨ha₀, ha₁, hb₀, hb₁, hb₂, hb₃, hg₀, hg₁, hg₂, hg₃, hd₀, hd₁, hd₂, hd₃, -⟩, hrows⟩ := hkey
  have halpha : Fits json (affineG1 rawVk.vkAlpha1) := h.alpha.fits hparse ha₀ ha₁
  have hbeta : Fits json (affineG2 rawVk.vkBeta2) := h.beta.fits hparse hb₀ hb₁ hb₂ hb₃
  have hgamma : Fits json (affineG2 rawVk.vkGamma2) := h.gamma.fits hparse hg₀ hg₁ hg₂ hg₃
  have hdelta : Fits json (affineG2 rawVk.vkDelta2) := h.delta.fits hparse hd₀ hd₁ hd₂ hd₃
  have hic : Fits json (rawVk.ic.flatMap affineG1) := fits_of_isG1 hparse h.ic hrows
  simp only [Fits, encodedStrings, List.forall_mem_append]
  exact ⟨⟨⟨⟨halpha, hbeta⟩, hgamma⟩, hdelta⟩, hic⟩

end

theorem keepsCoordinates_iff_contributed :
    KeepsCoordinates contributedPackages contributedRawVk
      (parseVkJsonToRustString contributedPackages contributedVkJson .production (Bytes.zero 32)) :=
  (keepsCoordinates_iff (Bytes.zero 32) (fromStr_samplePackages contributedVkJson contributedRawVk)).mpr
    (Or.inl (isSnarkjs_contributed.fits (parsesDecimals_samplePackages _ _) (by decide)))

/-- The least integer of 33 bytes. -/
def largeCoordinate : String :=
  "115792089237316195423570985008687907853269984665640564039457584007913129639936"

theorem decimal_largeCoordinate : decimal largeCoordinate.toList = some (2 ^ 256) :=
  decimal_literal (by decide +kernel)

def largeVkJson : String := sampleVkJson ("[\"" ++ largeCoordinate ++ "\", \"2\", \"1\"]")

def largeRawVk : RawVerifyingKey := sampleRawVk [largeCoordinate, "2", "1"]

def largePackages : JsonPackages := samplePackages largeVkJson largeRawVk

/-- It is written as zero. -/
theorem keepsCoordinates_large :
    ∃ src literal,
      parseVkJsonToRustString largePackages largeVkJson .insecureTest (Bytes.zero 32) = .ok src ∧
      readKeyLiteral src "VERIFYINGKEY" = some literal ∧ literal.vkAlphaG1 = (joinG1 0 2).toList ∧
      ¬ KeepsCoordinates largePackages largeRawVk
        (parseVkJsonToRustString largePackages largeVkJson .insecureTest (Bytes.zero 32)) := by
  have hparse : ParsesDecimals largePackages := parsesDecimals_samplePackages _ _
  have hkey : IsSnarkjs largeRawVk (sampleKey (2 ^ 256, 2)) :=
    isSnarkjs_sample ⟨_, _, rfl, decimal_largeCoordinate, decimal_literal rfl⟩
  have hforge : ¬ RefusedForgeable .insecureTest (sampleKey (2 ^ 256, 2)).head := by
    intro hrefused
    cases hrefused.1
  have hgenerated := hkey.generated hparse hforge
  have hsrc :=
    parse_of_generated (Bytes.zero 32) (fromStr_samplePackages largeVkJson largeRawVk) hgenerated
  refine ⟨_, _, hsrc, readKeyLiteral_circomFile _ _ _ (by decide), ?_, ?_⟩
  · have hcut : beList 32 (2 ^ 256) = beList 32 0 := beList_eq_iff.mpr (by decide)
    have hbytes : g1Bytes [2 ^ 256, 2] = beList 32 (2 ^ 256) ++ beList 32 2 := by
      rw [g1Bytes, List.flatMap_cons, List.flatMap_singleton]
    rw [toList_joinG1, ← hcut]
    exact hbytes
  · intro hkeeps
    obtain ⟨message, hmessage⟩ := hkeeps.2 ⟨largeCoordinate, List.mem_cons_self, 2 ^ 256,
      hparse _ _ decimal_largeCoordinate, le_rfl⟩
    exact absurd (hsrc.symm.trans hmessage) (by simp)

/-! ## Normalised points -/

/-- Three components, the last of them one. -/
def NormalizedG1 (point : List String) : Prop :=
  ∃ x y z, point = [x, y, z] ∧ json.parseBigUint z = .ok 1

/-- Three pairs, the last of them one and zero. -/
def NormalizedG2 (point : List (List String)) : Prop :=
  ∃ x0 x1 y0 y1 z0 z1, point = [[x0, x1], [y0, y1], [z0, z1]] ∧ json.parseBigUint z0 = .ok 1 ∧
    json.parseBigUint z1 = .ok 0

structure NormalizedKey (rawVk : RawVerifyingKey) : Prop where
  alpha : NormalizedG1 json rawVk.vkAlpha1
  beta : NormalizedG2 json rawVk.vkBeta2
  gamma : NormalizedG2 json rawVk.vkGamma2
  delta : NormalizedG2 json rawVk.vkDelta2
  ic : ∀ point ∈ rawVk.ic, NormalizedG1 json point

/-- A delivered file is that of a normalised key and holds its affine coordinates, in arrays of the
right lengths; any other key is reported. -/
def AcceptsNormalized (rawVk : RawVerifyingKey) (result : Except VkParseError String) : Prop :=
  (∀ src, result = .ok src → NormalizedKey json rawVk ∧
    ∃ literal, readKeyLiteral src "VERIFYINGKEY" = some literal ∧ ArrayLengths literal ∧
      literal.typed.isSome ∧ EmitsKey json rawVk literal) ∧
  (¬ NormalizedKey json rawVk → ∃ message, result = .error (.invalidData message))

section
variable {json} {jsonContent : String} {rawVk : RawVerifyingKey} {setup : SetupKind}

theorem EmitsCoordinates.length_eq {strings : List String} {bytes : List UInt8}
    (h : EmitsCoordinates json strings bytes) : bytes.length = strings.length * 32 := by
  obtain ⟨parts, rfl, hparts⟩ := h
  rw [flatMap_toList_length, hparts.length_eq]

theorem NormalizedG1.length_eq {point : List String} {bytes : List UInt8}
    (h : NormalizedG1 json point) (hbytes : EmitsCoordinates json (affineG1 point) bytes) :
    bytes.length = 64 := by
  obtain ⟨x, y, z, rfl, -⟩ := h
  exact hbytes.length_eq

theorem NormalizedG2.length_eq {point : List (List String)} {bytes : List UInt8}
    (h : NormalizedG2 json point) (hbytes : EmitsCoordinates json (affineG2 point) bytes) :
    bytes.length = 128 := by
  obtain ⟨x0, x1, y0, y1, z0, z1, rfl, -⟩ := h
  exact hbytes.length_eq

theorem rows_length_of_normalizedG1 {points : List (List String)} {rows : List (List UInt8)}
    (h : List.Forall₂ (fun point row => EmitsCoordinates json (affineG1 point) row) points rows)
    (hpoints : ∀ point ∈ points, NormalizedG1 json point) : ∀ row ∈ rows, row.length = 64 := by
  induction h with
  | nil => exact List.forall_mem_nil _
  | cons hrow _ ih =>
    rw [List.forall_mem_cons] at hpoints
    exact List.forall_mem_cons.mpr ⟨hpoints.1.length_eq hrow, ih hpoints.2⟩

theorem NormalizedKey.arrayLengths {literal : KeyLiteral} (h : NormalizedKey json rawVk)
    (hkey : EmitsKey json rawVk literal) : ArrayLengths literal :=
  { alpha := h.alpha.length_eq hkey.alpha
    beta := h.beta.length_eq hkey.beta
    gamma := h.gamma.length_eq hkey.gamma
    delta := h.delta.length_eq hkey.delta
    ic := rows_length_of_normalizedG1 hkey.ic h.ic }

theorem acceptsNormalized_iff (provingKeySha256 : Bytes 32)
    (hjson : json.fromStr jsonContent = .ok rawVk) :
    AcceptsNormalized json rawVk (parseVkJsonToRustString json jsonContent setup provingKeySha256) ↔
      UnreadableKey setup json rawVk ∨
        NormalizedKey json rawVk ∧ (Fits json (encodedStrings rawVk) ∨ RefusedKey setup json rawVk) := by
  constructor
  · intro ⟨hok, hreport⟩
    by_cases hnormalized : NormalizedKey json rawVk
    · rcases key_cases json rawVk setup with hunreadable | hrefused | ⟨nrPubinputs, head, ic, hkey⟩
      · exact Or.inl hunreadable
      · exact Or.inr ⟨hnormalized, Or.inr hrefused⟩
      · have hread := readKeyLiteral_circomFile (circomKey nrPubinputs head ic) setup provingKeySha256
          (nrPubinputs_lt_of_generated hkey)
        obtain ⟨-, literal, hliteral, -, -, hemits⟩ :=
          hok _ (parse_of_generated provingKeySha256 hjson hkey)
        obtain rfl := Option.some.inj (hread.symm.trans hliteral)
        exact Or.inr ⟨hnormalized, Or.inl (hkey.emitsKey_iff.mp hemits)⟩
    · obtain ⟨message, hmessage⟩ := hreport hnormalized
      exact Or.inl (unreadable_of_invalidData hjson hmessage)
  · rintro (hunreadable | ⟨hnormalized, h⟩)
    · obtain ⟨message, hmessage⟩ := parse_of_unreadable provingKeySha256 hjson hunreadable
      rw [hmessage]
      exact ⟨fun _ hsrc => (nomatch hsrc), fun _ => ⟨message, rfl⟩⟩
    · refine ⟨fun src hsrc => ⟨hnormalized, ?_⟩, fun hnot => absurd hnormalized hnot⟩
      rcases h with hfits | hrefused
      · obtain ⟨literal, hread, hemits⟩ := emitsKey_of_parse hjson hsrc hfits
        have hlengths := hnormalized.arrayLengths hemits
        exact ⟨literal, hread, hlengths, hlengths.typed_isSome, hemits⟩
      · rw [parse_of_refused provingKeySha256 hjson hrefused] at hsrc
        cases hsrc

end

theorem normalizedKey_contributed : NormalizedKey contributedPackages contributedRawVk := by
  have hdecimal := parsesDecimals_samplePackages contributedVkJson contributedRawVk
  have hone : contributedPackages.parseBigUint "1" = .ok 1 := hdecimal _ _ (decimal_literal rfl)
  have hzero : contributedPackages.parseBigUint "0" = .ok 0 := hdecimal _ _ (decimal_literal rfl)
  exact ⟨⟨_, _, _, rfl, hone⟩, ⟨_, _, _, _, _, _, rfl, hone, hzero⟩, ⟨_, _, _, _, _, _, rfl, hone, hzero⟩,
    ⟨_, _, _, _, _, _, rfl, hone, hzero⟩, List.forall_mem_cons.mpr ⟨⟨_, _, _, rfl, hone⟩,
      List.forall_mem_singleton.mpr ⟨_, _, _, rfl, hone⟩⟩⟩

theorem acceptsNormalized_iff_contributed :
    AcceptsNormalized contributedPackages contributedRawVk
      (parseVkJsonToRustString contributedPackages contributedVkJson .production (Bytes.zero 32)) :=
  (acceptsNormalized_iff (Bytes.zero 32) (fromStr_samplePackages contributedVkJson contributedRawVk)).mpr
    (Or.inr ⟨normalizedKey_contributed,
      Or.inl (isSnarkjs_contributed.fits (parsesDecimals_samplePackages _ _) (by decide))⟩)

def shortVkJson : String := sampleVkJson "[\"1\", \"2\"]"

def shortRawVk : RawVerifyingKey := sampleRawVk ["1", "2"]

def shortPackages : JsonPackages := samplePackages shortVkJson shortRawVk

/-- A point of two components is accepted, and its array has 32 bytes. -/
theorem acceptsNormalized_short :
    ∃ src literal,
      parseVkJsonToRustString shortPackages shortVkJson .insecureTest (Bytes.zero 32) = .ok src ∧
      readKeyLiteral src "VERIFYINGKEY" = some literal ∧ literal.vkAlphaG1.length = 32 ∧
        literal.typed = none ∧
      ¬ AcceptsNormalized shortPackages shortRawVk
        (parseVkJsonToRustString shortPackages shortVkJson .insecureTest (Bytes.zero 32)) := by
  have hparse : ParsesDecimals shortPackages := parsesDecimals_samplePackages _ _
  have hone : integerOf shortPackages "1" = some 1 := integerOf_of_decimal hparse (decimal_literal rfl)
  have hkey := isSnarkjs_contributed
  have hrows : icIntegers shortPackages contributedRawVk = some (sampleKey (1, 2)).rows :=
    hkey.icIntegers hparse
  have halpha : g1Integers shortPackages ["1", "2"] = some [1] := by simp [g1Integers, hone]
  have hgenerated : GeneratedKey .insecureTest shortPackages shortRawVk 1
      { (sampleKey (1, 2)).head with alpha := [1] } (sampleKey (1, 2)).rows :=
    { headIntegers_eq := (headIntegers_eq_some_iff shortPackages).mpr ⟨⟨hkey.ic_pos, rfl⟩, halpha,
        hkey.beta.g2Integers hparse, hkey.gamma.g2Integers hparse, hkey.delta.g2Integers hparse⟩
      not_refused := fun hrefused => by cases hrefused.1
      icIntegers_eq := hrows }
  have hsrc :=
    parse_of_generated (Bytes.zero 32) (fromStr_samplePackages shortVkJson shortRawVk) hgenerated
  refine ⟨_, _, hsrc, readKeyLiteral_circomFile _ _ _ (by decide), ?_, ?_, ?_⟩
  · simp [CircomKey.literal, circomKey, g1Bytes]
  · simp [KeyLiteral.typed, CircomKey.literal, circomKey, g1Bytes, typedArray]
  · intro haccepts
    obtain ⟨x, y, z, hpoint, -⟩ := (haccepts.1 _ hsrc).1.alpha
    simp [shortRawVk, sampleRawVk] at hpoint

end Groth16Solana
