import Groth16Solana.Vk.Setup

/-! # What a marker's bytes are, and what its body parses to -/

set_option autoImplicit false

namespace Groth16Solana
open Foundations

/-- `SETUP_TXT_BEGIN` without its NUL. -/
def beginText : List UInt8 := asBytes "=======BEGIN GROTH16 VK SETUP V1======="

/-- `SETUP_TXT_END` without its NUL. -/
def endText : List UInt8 := asBytes "=======END GROTH16 VK SETUP V1======="

theorem asBytes_setupTxtBegin : asBytes setupTxtBegin = beginText ++ [0] := by decide

theorem asBytes_setupTxtEnd : asBytes setupTxtEnd = endText ++ [0] := by decide

theorem zero_notMem_beginText : 0 ∉ beginText := by decide

theorem zero_notMem_endText : 0 ∉ endText := by decide

theorem beginText_length : beginText.length = 39 := by decide

theorem endText_length : endText.length = 37 := by decide

def bodyFields (name flag digits : String) : List String :=
  [fieldName, name, fieldInsecureTestSetup, flag, fieldProvingKeySha256, digits]

def SetupTxt.bodyBytes (txt : SetupTxt) : List (List UInt8) :=
  (bodyFields txt.name (boolText txt.insecureTestSetup) (toHex txt.provingKeySha256.toList)).map asBytes

theorem asBytes_toMarker (txt : SetupTxt) :
    asBytes txt.toMarker = terminated 0 (beginText :: txt.bodyBytes ++ [endText]) := by
  have hzero : asBytes "\x00" = [0] := by decide
  simp [SetupTxt.toMarker, SetupTxt.bodyBytes, bodyFields, asBytes_setupTxtBegin,
    asBytes_setupTxtEnd, hzero]

/-! ## Hexadecimal digests -/

theorem toHex_cons (b : UInt8) (bytes : List UInt8) :
    toHex (b :: bytes) = String.ofList (hexByte b) ++ toHex bytes := by
  simp [toHex, String.ofList_append]

theorem hexBytes_toHex (bytes : List UInt8) : HexBytes (asBytes (toHex bytes)) bytes := by
  induction bytes with
  | nil => exact HexBytes.nil
  | cons b bytes ih =>
    obtain ⟨d, e, hbytes, hpair⟩ := exists_digitPair b
    rw [toHex_cons, asBytes_append, hbytes]
    exact HexBytes.cons hpair ih

theorem zero_notMem_toHex (bytes : List UInt8) : 0 ∉ asBytes (toHex bytes) := fun h =>
  absurd ((hexBytes_toHex bytes).isSome_hexDigit h) (by decide)

section Pairs
variable {digits bytes pair : List UInt8} {d b : UInt8}

theorem exists_of_mem_pairsOf (h : pair ∈ pairsOf digits) : ∃ d e, pair = [d, e] := by
  induction digits using pairsOf.induct with
  | case1 d e digits ih =>
    rcases List.mem_cons.mp h with rfl | hmem
    · exact ⟨d, e, rfl⟩
    · exact ih hmem
  | case2 digits hshort =>
    rw [pairsOf] at h
    · cases h
    · exact hshort

theorem flatten_pairsOf {n : ℕ} (hlen : digits.length = 2 * n) :
    (pairsOf digits).flatten = digits ∧ (pairsOf digits).length = n := by
  induction n generalizing digits with
  | zero =>
    rw [List.eq_nil_of_length_eq_zero hlen]
    exact ⟨rfl, rfl⟩
  | succ n ih =>
    rcases digits with _ | ⟨d, _ | ⟨e, digits⟩⟩
    · simp at hlen
    · simp at hlen
      omega
    · simp only [List.length_cons] at hlen
      have hlen' : digits.length = 2 * n := by omega
      obtain ⟨hflatten, hcount⟩ := ih hlen'
      rw [pairsOf, List.flatten_cons, List.length_cons, hflatten, hcount]
      exact ⟨rfl, rfl⟩

/-- A digest of pairs that are read is ASCII, and has no NUL. -/
theorem ascii_of_pairs {n : ℕ} (hlen : digits.length = 2 * n)
    (hpairs : ∀ pair ∈ pairsOf digits, ∃ b, DigitPair pair b ∨ SignedPair pair b) (h : d ∈ digits) :
    d ≠ 0 ∧ d.toNat < 128 := by
  rw [← (flatten_pairsOf hlen).1] at h
  obtain ⟨pair, hmem, hd⟩ := List.mem_flatten.mp h
  obtain ⟨b, hpair⟩ := hpairs pair hmem
  exact ascii_of_pair hpair hd

theorem hexBytes_iff :
    HexBytes digits bytes ↔
      digits.length = 2 * bytes.length ∧ List.Forall₂ DigitPair (pairsOf digits) bytes := by
  constructor
  · intro h
    refine ⟨h.length_eq, ?_⟩
    induction h with
    | nil => exact List.Forall₂.nil
    | cons hpair hrest ih => exact List.Forall₂.cons hpair ih
  · rintro ⟨hlen, h⟩
    induction bytes generalizing digits with
    | nil =>
      rw [List.eq_nil_of_length_eq_zero hlen]
      exact HexBytes.nil
    | cons b bytes ih =>
      rcases digits with _ | ⟨d, _ | ⟨e, digits⟩⟩
      · cases h
      · cases h
      · rw [pairsOf] at h
        cases h with
        | cons hpair hrest =>
          simp only [List.length_cons] at hlen
          exact HexBytes.cons hpair (ih (by omega) hrest)

/-- One turn of the loop reads two digits, or a plus sign and one. -/
theorem fromHexPair_eq_some_iff (hmem : pair ∈ pairsOf digits) :
    fromHexPair pair = some b ↔ DigitPair pair b ∨ SignedPair pair b := by
  obtain ⟨d, e, rfl⟩ := exists_of_mem_pairsOf hmem
  rw [fromHexPair, Option.bind_eq_bind, Option.bind_eq_some_iff]
  simp only [fromUtf8_eq_some_iff]
  constructor
  · rintro ⟨src, hsrc, hread⟩
    exact (u8FromStrRadix16_pair hsrc).mp hread
  · intro h
    obtain ⟨src, hsrc⟩ := exists_asBytes_of_ascii fun d hd => (ascii_of_pair h hd).2
    exact ⟨src, hsrc, (u8FromStrRadix16_pair hsrc).mpr h⟩

theorem fromHex_eq_some_iff {s : String} {digest : Bytes 32} :
    fromHex s = some digest ↔ (asBytes s).length = 64 ∧
      List.Forall₂ (fun pair b => DigitPair pair b ∨ SignedPair pair b) (pairsOf (asBytes s))
        digest.toList := by
  have hturns (out : List UInt8) :
      List.Forall₂ (fun pair b => fromHexPair pair = some b) (pairsOf (asBytes s)) out ↔
        List.Forall₂ (fun pair b => DigitPair pair b ∨ SignedPair pair b) (pairsOf (asBytes s)) out := by
    simp only [List.forall₂_iff_zip]
    refine and_congr_right fun _ => forall₂_congr fun pair b => imp_congr_right fun hzip => ?_
    exact fromHexPair_eq_some_iff (List.of_mem_zip hzip).1
  unfold fromHex
  by_cases hlen : (asBytes s).length = 64
  · simp only [hlen, ne_eq, not_true_eq_false, if_false, true_and, Option.bind_eq_bind,
      Option.bind_eq_some_iff, mapM_eq_some_iff, hturns, Bytes.copyFromSlice?_whole]
    constructor
    · rintro ⟨out, hout, rfl⟩
      exact hout
    · intro h
      exact ⟨_, h, rfl⟩
  · simp [hlen]

theorem fromHex_toHex (digest : Bytes 32) : fromHex (toHex digest.toList) = some digest := by
  obtain ⟨hlen, hpairs⟩ := hexBytes_iff.mp (hexBytes_toHex digest.toList)
  rw [Vector.length_toList] at hlen
  exact fromHex_eq_some_iff.mpr ⟨hlen, hpairs.imp fun _ _ => Or.inl⟩

end Pairs

/-! ## The body parser -/

theorem takeField_eq_ok_iff {offset : ℕ} {key v : String} {parts rest : List String} :
    takeField offset key parts = .ok (v, rest) ↔ parts = key :: v :: rest := by
  unfold takeField
  split
  next k v' parts =>
    by_cases hkey : k = key
    · simp [hkey]
    · simp [hkey]
  next hshort =>
    simp only [reduceCtorEq, false_iff]
    exact hshort key v rest

theorem parseFlag_eq_ok_iff {offset : ℕ} {flag : String} {b : Bool} :
    parseFlag offset flag = .ok b ↔ flag = boolText b := by
  unfold parseFlag
  cases b <;> split <;> simp_all [boolText]

theorem parseBody_eq_ok_iff {body : List UInt8} {offset : ℕ} {txt : SetupTxt} :
    parseBody body offset = .ok txt ↔
      ∃ digits,
        body = asBytes
        (nulTerminated (bodyFields txt.name (boolText txt.insecureTestSetup) digits)) ∧
        '\x00' ∉ txt.name.toList ∧ '\x00' ∉ digits.toList ∧
          fromHex digits = some txt.provingKeySha256 := by
  have htrailing (parts : List String) :
      (parts[0]? ≠ some "" || parts[1]?.isSome) = false ↔ parts = [""] := by
    rcases parts with _ | ⟨a, _ | ⟨b, parts⟩⟩ <;> simp
  simp only [parseBody, bind_eq_ok, okOr_eq_ok, Prod.exists, takeField_eq_ok_iff, parseFlag_eq_ok_iff,
    fromUtf8_eq_some_iff]
  constructor
  · rintro ⟨text, rfl, name, _, hparts, _, _, rfl, flag, rfl, digits, rest, rfl, digest, hdigest, h⟩
    cases htail : decide (rest[0]? ≠ some "") || rest[1]?.isSome with
    | true =>
      rw [if_pos htail] at h
      cases h
    | false =>
      rw [htail] at h
      cases h
      obtain rfl := (htrailing rest).mp htail
      obtain ⟨rfl, hfree⟩ :=
        splitNul_eq_iff.mp
          (show splitNul text = bodyFields name (boolText flag) digits ++ [""] from hparts)
      exact ⟨digits, rfl, hfree name (by simp [bodyFields]), hfree digits (by simp [bodyFields]), hdigest⟩
  · rintro ⟨digits, rfl, hname, hdigits, hdigest⟩
    have hfree : ∀ field ∈ bodyFields txt.name
        (boolText txt.insecureTestSetup) digits, '\x00' ∉ field.toList := by
      cases txt.insecureTestSetup <;>
      simp [bodyFields, hname, hdigits, fieldName, fieldInsecureTestSetup, fieldProvingKeySha256,
        boolText]
    refine ⟨_, rfl, txt.name, _, splitNul_eq_iff.mpr ⟨rfl, hfree⟩, _, _, rfl, txt.insecureTestSetup, rfl,
      digits, [""], rfl, txt.provingKeySha256, hdigest, ?_⟩
    simp
    rfl

end Groth16Solana
