import Groth16Solana.Foundations.Search

/-! # Strings and their UTF-8 bytes

A Rust `String` is a `String`, both being lists of Unicode scalar values kept in UTF-8. -/

set_option autoImplicit false

namespace Foundations

/-- `s.as_bytes()`. -/
def asBytes (s : String) : List UInt8 := s.toByteArray.data.toList

/-- `core::str::from_utf8(bytes)`. -/
def fromUtf8 (bytes : List UInt8) : Option String := String.fromUTF8? bytes.toByteArray

theorem asBytes_ofList (l : List Char) :
    asBytes (String.ofList l) = l.flatMap String.utf8EncodeChar := by
  rw [asBytes, String.toByteArray_ofList, List.utf8Encode, List.toList_data_toByteArray]

theorem asBytes_eq_flatMap (s : String) : asBytes s = s.toList.flatMap String.utf8EncodeChar := by
  rw [← asBytes_ofList, String.ofList_toList]

@[simp] theorem asBytes_empty : asBytes "" = [] := by decide

@[simp] theorem asBytes_append (s t : String) : asBytes (s ++ t) = asBytes s ++ asBytes t := by
  simp [asBytes_eq_flatMap]

theorem fromUtf8_eq_some_iff {bytes : List UInt8} {s : String} :
    fromUtf8 bytes = some s ↔ asBytes s = bytes := by
  have hbytes : asBytes s = bytes ↔ s.toByteArray = bytes.toByteArray := by
    rw [asBytes, ByteArray.ext_iff, List.data_toByteArray]
    constructor
    · rintro rfl
      rfl
    · intro h
      rw [h]
  rw [hbytes, fromUtf8, String.fromUTF8?]
  split
  next hvalid =>
    rw [Option.some_inj, ← String.toByteArray_inj, eq_comm]
    rfl
  next hinvalid =>
    simp only [reduceCtorEq, false_iff]
    intro h
    exact hinvalid (h ▸ s.isValidUTF8)

/-! ## ASCII bytes -/

theorem exists_asBytes_of_ascii {bytes : List UInt8} (h : ∀ b ∈ bytes, b.toNat < 128) :
    ∃ s, asBytes s = bytes := by
  induction bytes with
  | nil => exact ⟨"", asBytes_empty⟩
  | cons b bytes ih =>
    rw [List.forall_mem_cons] at h
    obtain ⟨s, rfl⟩ := ih h.2
    obtain ⟨c, hval⟩ : ∃ c : Char, c.val.toNat = b.toNat :=
      ⟨Char.ofNatAux b.toNat (Or.inl (by omega)), rfl⟩
    have hchar : String.utf8EncodeChar c = [b] := by
      simp only [String.utf8EncodeChar, hval]
      rw [if_pos (by omega)]
      simp
    refine ⟨String.ofList [c] ++ s, ?_⟩
    rw [asBytes_append, asBytes_ofList, List.flatMap_singleton, hchar, List.singleton_append]

/-- An ASCII byte in the encoding of a character is the character itself. -/
theorem ascii_mem_utf8EncodeChar {c : Char} {b : UInt8} (hb : b.toNat < 128) :
    b ∈ String.utf8EncodeChar c ↔ c.toNat = b.toNat := by
  simp only [String.utf8EncodeChar, Char.toNat_val]
  -- A lead or continuation byte is at least `0x80`.
  split
  · simp [← UInt8.toNat_inj]
    omega
  · split
    · simp [← UInt8.toNat_inj]
      omega
    · split <;>
      · simp [← UInt8.toNat_inj]
        omega

/-- A string's bytes hold an ASCII byte just where the string holds the character. -/
theorem ascii_mem_asBytes {s : String} {d : Char} (hd : d.toNat < 128) :
    UInt8.ofNat d.toNat ∈ asBytes s ↔ d ∈ s.toList := by
  have hbyte : (UInt8.ofNat d.toNat).toNat = d.toNat := by
    rw [UInt8.toNat_ofNat']
    omega
  have hmem (c : Char) : UInt8.ofNat d.toNat ∈ String.utf8EncodeChar c ↔ c = d := by
    rw [ascii_mem_utf8EncodeChar (by omega), hbyte, Char.toNat_inj]
  simp [asBytes_eq_flatMap, List.mem_flatMap, hmem]

theorem utf8EncodeChar_zero : String.utf8EncodeChar '\x00' = [0] := by decide

theorem zero_mem_asBytes {s : String} : 0 ∈ asBytes s ↔ '\x00' ∈ s.toList :=
  ascii_mem_asBytes (by decide : '\x00'.toNat < 128)

/-! ## Fields between NULs -/

/-- `text.split('\0')`. -/
def splitNul (text : String) : List String := (text.toList.splitOn '\x00').map String.ofList

def nulTerminated (fields : List String) : String :=
  String.ofList (terminated '\x00' (fields.map String.toList))

theorem asBytes_nulTerminated (fields : List String) :
    asBytes (nulTerminated fields) = terminated 0 (fields.map asBytes) := by
  rw [nulTerminated, asBytes_ofList]
  induction fields with
  | nil => rfl
  | cons field fields ih =>
    simp [utf8EncodeChar_zero, ih, asBytes_eq_flatMap field]

theorem splitNul_eq_iff {text : String} {fields : List String} :
    splitNul text = fields ++ [""] ↔
      text = nulTerminated fields ∧ ∀ field ∈ fields, '\x00' ∉ field.toList := by
  have hsplit : splitNul text = fields ++ [""] ↔
      text.toList.splitOn '\x00' = fields.map String.toList ++ [[]] := by
    have hinjective : Function.Injective String.toList := fun _ _ h => String.toList_injective h
    rw [splitNul, ← (List.map_injective_iff.mpr hinjective).eq_iff]
    simp [Function.comp_def]
  rw [hsplit, splitOn_eq_concat_nil_iff, List.forall_mem_map, nulTerminated, ← String.toList_inj,
    String.toList_ofList]

end Foundations
