import Groth16Solana.Vk.ConstRead

/-! # The key a source file spells out

The reader below takes the arrays of a struct literal as long as they are, so it also reads a file that
does not compile; `KeyLiteral.typed` is the compiler's check of the lengths. -/

set_option autoImplicit false

namespace Groth16Solana
open Foundations TokenTree

def sourceTrees (source : String) : Option (List TokenTree) := do
  let tokens ← lex source
  groupTokens tokens

def readByteArray : List TokenTree → Option (List UInt8)
  | [.group '[' trees] => (pieces ',' trees).mapM readU8
  | _ => none

/-- `&[[..], ..]`, in place or in the `static` that is named. -/
def readByteRows (file : List TokenTree) : List TokenTree → Option (List (List UInt8))
  | [.leaf (.punct '&'), .group '[' trees] => (pieces ',' trees).mapM readByteArray
  | [.leaf (.word name)] => do
    match ← itemValue file "static".toList name with
    | [.leaf (.punct '&'), .group '[' trees] => (pieces ',' trees).mapM readByteArray
    | _ => none
  | _ => none

structure KeyLiteral where
  nrPubinputs : ℕ
  vkAlphaG1 : List UInt8
  vkBetaG2 : List UInt8
  vkGammaG2 : List UInt8
  vkDeltaG2 : List UInt8
  vkIc : List (List UInt8)
  vkCommitment : Option CommitmentVerifyingKey
deriving DecidableEq

/-- The fields of the const `constName`. -/
def literalFields (file : List TokenTree) (constName : String) :
    Option (List (List Char × List TokenTree)) := do
  let value ← itemValue file "const".toList constName.toList
  readRecord "Groth16Verifyingkey" value

def readKeyLiteral (source constName : String) : Option KeyLiteral := do
  let file ← sourceTrees source
  let fields ← literalFields file constName
  let nrPubinputs ← readField fields "nr_pubinputs" readUsize
  let vkAlphaG1 ← readField fields "vk_alpha_g1" readByteArray
  let vkBetaG2 ← readField fields "vk_beta_g2" readByteArray
  let vkGammaG2 ← readField fields "vk_gamma_g2" readByteArray
  let vkDeltaG2 ← readField fields "vk_delta_g2" readByteArray
  let vkIc ← readField fields "vk_ic" (readByteRows file)
  let vkCommitment ← readField fields "vk_commitment" (readOption file readCommitmentKey)
  return { nrPubinputs, vkAlphaG1, vkBetaG2, vkGammaG2, vkDeltaG2, vkIc, vkCommitment }

def typedArray (n : ℕ) (bytes : List UInt8) : Option (Bytes n) :=
  if h : bytes.length = n then some (Bytes.ofList bytes h) else none

/-- The literal as a value of its type. -/
def KeyLiteral.typed (self : KeyLiteral) : Option Groth16Verifyingkey := do
  let vkAlphaG1 ← typedArray 64 self.vkAlphaG1
  let vkBetaG2 ← typedArray 128 self.vkBetaG2
  let vkGammaG2 ← typedArray 128 self.vkGammaG2
  let vkDeltaG2 ← typedArray 128 self.vkDeltaG2
  let vkIc ← self.vkIc.mapM (typedArray 64)
  return { self with vkAlphaG1, vkBetaG2, vkGammaG2, vkDeltaG2, vkIc }

/-- The key that the const `constName` of a source file denotes, when the file compiles. -/
def denotedKey (source constName : String) : Option Groth16Verifyingkey := do
  let literal ← readKeyLiteral source constName
  literal.typed

def emittedArray (source constName field : String) : Option (List UInt8) := do
  let file ← sourceTrees source
  let fields ← literalFields file constName
  readField fields field readByteArray

/-! ## Arrays and rows -/

theorem mapM_readU8_u8Trees (bytes : List UInt8) :
    (pieces ',' (u8Trees bytes)).mapM readU8 = some bytes := by
  rw [pieces_u8Trees]
  induction bytes with
  | nil => rfl
  | cons b bytes ih =>
    rw [List.map_cons, List.mapM_cons, readU8_u8Word, ih]
    rfl

theorem typedArray_eq_some_iff {n : ℕ} {bytes : List UInt8} {out : Bytes n} :
    typedArray n bytes = some out ↔ bytes = out.toList := by
  rw [typedArray]
  constructor
  · intro h
    split at h
    next hlen => rw [← Option.some.inj h, Bytes.toList_ofList]
    next => cases h
  · rintro rfl
    rw [dif_pos Vector.length_toList]
    rfl

theorem mapM_typedArray_eq_some_iff {n : ℕ} {rows : List (List UInt8)} {out : List (Bytes n)} :
    rows.mapM (typedArray n) = some out ↔ rows = out.map Vector.toList := by
  simp only [mapM_eq_some_iff, typedArray_eq_some_iff]
  rw [← List.forall₂_map_right_iff (f := Vector.toList), List.forall₂_eq_eq_eq]

def Groth16Verifyingkey.literal (self : Groth16Verifyingkey) : KeyLiteral :=
  { nrPubinputs := self.nrPubinputs
    vkAlphaG1 := self.vkAlphaG1.toList
    vkBetaG2 := self.vkBetaG2.toList
    vkGammaG2 := self.vkGammaG2.toList
    vkDeltaG2 := self.vkDeltaG2.toList
    vkIc := self.vkIc.map Vector.toList
    vkCommitment := self.vkCommitment }

theorem typed_eq_some_iff {literal : KeyLiteral} {key : Groth16Verifyingkey} :
    literal.typed = some key ↔ literal = key.literal := by
  obtain ⟨nrPubinputs, alpha, beta, gamma, delta, ic, commitment⟩ := literal
  simp only [KeyLiteral.typed, Option.bind_eq_bind, Option.bind_eq_some_iff, typedArray_eq_some_iff,
    mapM_typedArray_eq_some_iff, Option.pure_def, Option.some.injEq]
  constructor
  · rintro ⟨_, rfl, _, rfl, _, rfl, _, rfl, _, rfl, rfl⟩
    rfl
  · intro h
    cases h
    exact ⟨_, rfl, _, rfl, _, rfl, _, rfl, _, rfl, rfl⟩

/-- The lengths of the arrays of a `Groth16Verifyingkey`. -/
structure ArrayLengths (literal : KeyLiteral) : Prop where
  alpha : literal.vkAlphaG1.length = 64
  beta : literal.vkBetaG2.length = 128
  gamma : literal.vkGammaG2.length = 128
  delta : literal.vkDeltaG2.length = 128
  ic : ∀ row ∈ literal.vkIc, row.length = 64

theorem ArrayLengths.typed_isSome {literal : KeyLiteral} (h : ArrayLengths literal) :
    literal.typed.isSome := by
  have hrows : literal.vkIc = (literal.vkIc.attach.map fun row =>
      Bytes.ofList row.1 (h.ic row.1 row.2)).map Vector.toList := by
    rw [List.map_map]
    exact (List.attach_map_subtype_val literal.vkIc).symm
  have htyped : literal.typed = some
      { literal with
        vkAlphaG1 := Bytes.ofList literal.vkAlphaG1 h.alpha
        vkBetaG2 := Bytes.ofList literal.vkBetaG2 h.beta
        vkGammaG2 := Bytes.ofList literal.vkGammaG2 h.gamma
        vkDeltaG2 := Bytes.ofList literal.vkDeltaG2 h.delta
        vkIc := literal.vkIc.attach.map fun row => Bytes.ofList row.1 (h.ic row.1 row.2) } := by
    rw [typed_eq_some_iff, Groth16Verifyingkey.literal]
    rw [← hrows]
    rfl
  rw [htyped, Option.isSome_some]

end Groth16Solana
