import Mathlib.Tactic.IntervalCases
import Groth16Solana.Foundations.Text

/-! # Hexadecimal bytes

`hexByte` is Rust's `{b:02x}`, and `u8FromStrRadix16` is `u8::from_str_radix(_, 16)`, which takes
digits of both cases after an optional plus sign. -/

set_option autoImplicit false

namespace Foundations

/-- `format!("{b:02x}")`. -/
def hexByte (b : UInt8) : List Char := [Nat.digitChar (b.toNat / 16), Nat.digitChar (b.toNat % 16)]

/-- `(b as char).to_digit(16)`. -/
def hexDigit (b : UInt8) : Option ℕ :=
  if 0x30 ≤ b ∧ b ≤ 0x39 then some (b.toNat - 0x30)
  else if 0x61 ≤ b ∧ b ≤ 0x66 then some (b.toNat - 0x57)
  else if 0x41 ≤ b ∧ b ≤ 0x46 then some (b.toNat - 0x37)
  else none

/-- The digit loop, with its overflow check. -/
def accumulateHex : ℕ → List UInt8 → Option ℕ
  | result, [] => some result
  | result, b :: digits => do
    let digit ← hexDigit b
    if result * 16 + digit < 256 then accumulateHex (result * 16 + digit) digits else none

/-- `u8::from_str_radix(src, 16)`. -/
def u8FromStrRadix16 (src : String) : Option UInt8 :=
  match asBytes src with
  | [] => none
  | [0x2b] => none
  | 0x2b :: digits => (accumulateHex 0 digits).map UInt8.ofNat
  | digits => (accumulateHex 0 digits).map UInt8.ofNat

theorem utf8EncodeChar_digitChar {n : ℕ} (h : n < 16) :
    ∃ b, String.utf8EncodeChar (Nat.digitChar n) = [b] ∧ hexDigit b = some n := by
  interval_cases n <;> exact ⟨_, rfl, by decide⟩

/-! ## Pairs of digits -/

theorem hexDigit_lt {b : UInt8} {n : ℕ} (h : hexDigit b = some n) : n < 16 := by
  have hb := b.toNat_lt
  unfold hexDigit at h
  simp only [UInt8.le_iff_toNat_le] at h
  grind

theorem ascii_of_hexDigit {b : UInt8} {n : ℕ} (h : hexDigit b = some n) : b.toNat < 128 := by
  unfold hexDigit at h
  simp only [UInt8.le_iff_toNat_le] at h
  grind

/-- Two hexadecimal digits and the byte they denote. -/
def DigitPair (pair : List UInt8) (b : UInt8) : Prop :=
  ∃ d e m n, pair = [d, e] ∧ hexDigit d = some m ∧ hexDigit e = some n ∧ b.toNat = 16 * m + n

theorem DigitPair.unique {pair : List UInt8} {b b' : UInt8} (h : DigitPair pair b)
    (h' : DigitPair pair b') : b = b' := by
  obtain ⟨d, e, m, n, rfl, hd, he, hb⟩ := h
  obtain ⟨d', e', m', n', hpair, hd', he', hb'⟩ := h'
  cases hpair
  cases hd.symm.trans hd'
  cases he.symm.trans he'
  exact UInt8.toNat_inj.mp (hb.trans hb'.symm)

/-- A plus sign, a hexadecimal digit and the byte that digit denotes. -/
def SignedPair (pair : List UInt8) (b : UInt8) : Prop :=
  ∃ e n, pair = [0x2b, e] ∧ hexDigit e = some n ∧ b.toNat = n

/-- A list of digits, two for each byte it denotes. -/
inductive HexBytes : List UInt8 → List UInt8 → Prop
  | nil : HexBytes [] []
  | cons {d e b : UInt8} {digits bytes : List UInt8} (hpair : DigitPair [d, e] b)
      (hrest : HexBytes digits bytes) : HexBytes (d :: e :: digits) (b :: bytes)

/-- The two digits of `b`, as bytes, denote `b`. -/
theorem exists_digitPair (b : UInt8) :
    ∃ d e, asBytes (String.ofList (hexByte b)) = [d, e] ∧ DigitPair [d, e] b := by
  have hb := b.toNat_lt
  obtain ⟨d, hd, hdigit⟩ := utf8EncodeChar_digitChar (show b.toNat / 16 < 16 by omega)
  obtain ⟨e, he, hdigit'⟩ := utf8EncodeChar_digitChar (show b.toNat % 16 < 16 by omega)
  have hbytes : asBytes (String.ofList (hexByte b)) = [d, e] := by
    rw [asBytes_ofList, hexByte]
    simp [hd, he]
  exact ⟨d, e, hbytes, d, e, _, _, rfl, hdigit, hdigit', by omega⟩

namespace HexBytes

variable {digits bytes : List UInt8} {d : UInt8}

theorem length_eq (h : HexBytes digits bytes) : digits.length = 2 * bytes.length := by
  induction h with
  | nil => rfl
  | cons hpair hrest ih =>
    rw [List.length_cons, List.length_cons, List.length_cons, ih]
    omega

theorem isSome_hexDigit (h : HexBytes digits bytes) (hd : d ∈ digits) : (hexDigit d).isSome := by
  induction h with
  | nil => cases hd
  | cons hpair hrest ih =>
    obtain ⟨d₁, d₂, m, n, hpair, h₁, h₂, -⟩ := hpair
    cases hpair
    rcases List.mem_cons.mp hd with rfl | hd
    · rw [h₁, Option.isSome_some]
    rcases List.mem_cons.mp hd with rfl | hd
    · rw [h₂, Option.isSome_some]
    exact ih hd

/-- Digits denote one list of bytes. -/
theorem unique {bytes' : List UInt8} (h : HexBytes digits bytes) (h' : HexBytes digits bytes') :
    bytes = bytes' := by
  induction h generalizing bytes' with
  | nil =>
    cases h'
    rfl
  | cons hpair hrest ih =>
    cases h' with
    | cons hpair' hrest' =>
      rw [ih hrest', hpair.unique hpair']

end HexBytes

theorem accumulateHex_single (e : UInt8) : accumulateHex 0 [e] = hexDigit e := by
  cases he : hexDigit e with
  | none => simp [accumulateHex, he]
  | some n =>
    have hn := hexDigit_lt he
    simp [accumulateHex, he, show n < 256 by omega]

theorem accumulateHex_pair (d e : UInt8) :
    accumulateHex 0 [d, e] = (hexDigit d).bind fun m => (hexDigit e).map (16 * m + ·) := by
  cases hd : hexDigit d with
  | none => simp [accumulateHex, hd]
  | some m =>
    have hm := hexDigit_lt hd
    cases he : hexDigit e with
    | none => simp [accumulateHex, hd, he]
    | some n =>
      have hn := hexDigit_lt he
      simp [accumulateHex, hd, he, show m < 256 by omega, Nat.mul_comm m,
        show 16 * m + n < 256 by omega]

theorem ofNat_eq_iff_toNat {n : ℕ} {b : UInt8} (hn : n < 256) : UInt8.ofNat n = b ↔ b.toNat = n := by
  rw [← UInt8.toNat_inj, UInt8.toNat_ofNat', Nat.mod_eq_of_lt hn, eq_comm]

theorem digitPair_iff {d e b : UInt8} :
    DigitPair [d, e] b ↔ (accumulateHex 0 [d, e]).map UInt8.ofNat = some b := by
  simp only [DigitPair, accumulateHex_pair, Option.map_eq_some_iff, Option.bind_eq_some_iff]
  constructor
  · rintro ⟨_, _, m, n, hpair, hd, he, hb⟩
    cases hpair
    exact ⟨_, ⟨m, hd, n, he, rfl⟩, hb ▸ UInt8.ofNat_toNat⟩
  · rintro ⟨_, ⟨m, hd, n, he, rfl⟩, hb⟩
    have hm := hexDigit_lt hd
    have hn := hexDigit_lt he
    exact ⟨d, e, m, n, rfl, hd, he, (ofNat_eq_iff_toNat (by omega)).mp hb⟩

theorem signedPair_iff {e b : UInt8} :
    SignedPair [0x2b, e] b ↔ (accumulateHex 0 [e]).map UInt8.ofNat = some b := by
  simp only [SignedPair, accumulateHex_single, Option.map_eq_some_iff]
  constructor
  · rintro ⟨_, n, hpair, he, hb⟩
    cases hpair
    exact ⟨n, he, hb ▸ UInt8.ofNat_toNat⟩
  · rintro ⟨n, he, hb⟩
    have hn := hexDigit_lt he
    exact ⟨e, n, rfl, he, (ofNat_eq_iff_toNat (by omega)).mp hb⟩

/-- Of two bytes the parser takes the second alone when the first is a plus sign. -/
theorem u8FromStrRadix16_pair {src : String} {d e b : UInt8} (hsrc : asBytes src = [d, e]) :
    u8FromStrRadix16 src = some b ↔ DigitPair [d, e] b ∨ SignedPair [d, e] b := by
  rw [u8FromStrRadix16, hsrc]
  by_cases hplus : d = 0x2b
  · subst hplus
    have hdigits : ¬ DigitPair [0x2b, e] b := by
      rintro ⟨_, _, m, _, hpair, hm, -⟩
      cases hpair
      cases hm
    rw [or_iff_right hdigits, signedPair_iff]
    rfl
  · have hsigned : ¬ SignedPair [d, e] b := by
      rintro ⟨_, _, hpair, -⟩
      exact hplus (List.cons.inj hpair).1
    rw [or_iff_left hsigned, digitPair_iff]
    split
    next heq => cases heq
    next heq => cases heq
    next heq => exact absurd (List.cons.inj heq).1 hplus
    next => rfl

theorem not_digitPair_of_signedPair {pair : List UInt8} {b b' : UInt8} (h : SignedPair pair b) :
    ¬ DigitPair pair b' := by
  rintro ⟨d, e, m, n, rfl, hd, -⟩
  obtain ⟨e', n', hpair, -⟩ := h
  cases hpair
  cases hd

theorem ascii_of_pair {pair : List UInt8} {b d : UInt8} (h : DigitPair pair b ∨ SignedPair pair b)
    (hd : d ∈ pair) : d ≠ 0 ∧ d.toNat < 128 := by
  have hascii {d : UInt8} {n : ℕ} (hd : hexDigit d = some n) : d ≠ 0 ∧ d.toNat < 128 := by
    refine ⟨?_, ascii_of_hexDigit hd⟩
    rintro rfl
    cases hd
  rcases h with ⟨d₁, d₂, m, n, rfl, h₁, h₂, -⟩ | ⟨d₂, n, rfl, h₂, -⟩
  · rcases List.mem_pair.mp hd with rfl | rfl
    · exact hascii h₁
    · exact hascii h₂
  · rcases List.mem_pair.mp hd with rfl | rfl
    · exact ⟨by decide, by decide⟩
    · exact hascii h₂

end Foundations
