import Groth16Solana.Foundations.TokenTree
import Groth16Solana.Vk.GnarkConst

/-! # What an emitted key denotes

The value of the const that a generated file declares, read from the file's text: the struct literal,
with its fields in any order, and the rows it borrows from a `static`. Names are resolved as in Rust
where the file itself decides it: an item of the file comes before the prelude. -/

set_option autoImplicit false

namespace Groth16Solana
open Foundations TokenTree

def readField {α : Type} (fields : List (List Char × List TokenTree)) (field : String)
    (read : List TokenTree → Option α) : Option α := do
  let value ← fields.lookup field.toList
  read value

/-- `&[[..], ..]`. -/
def readRowList : List TokenTree → Option (List (Bytes 64))
  | [.leaf (.punct '&'), .group '[' trees] => (pieces ',' trees).mapM (readBytes 64)
  | _ => none

/-- The rows of the `static` that a field names. -/
def readStaticRows (file : List TokenTree) : List TokenTree → Option (List (Bytes 64))
  | [.leaf (.word name)] => do
    let value ← itemValue file "static".toList name
    readRowList value
  | _ => none

def readCommitmentKey (value : List TokenTree) : Option CommitmentVerifyingKey := do
  let fields ← readRecord "CommitmentVerifyingKey" value
  let g2 ← readField fields "g2" (readBytes 128)
  let gSigmaNegG2 ← readField fields "g_sigma_neg_g2" (readBytes 128)
  return { g2, gSigmaNegG2 }

/-- `None` or `Some(..)`. A const or a static of that name hides the variant, and the file does not
compile. -/
def readOption {α : Type} (file : List TokenTree) (read : List TokenTree → Option α) :
    List TokenTree → Option (Option α)
  | [.leaf (.word w)] =>
    if w = "None".toList ∧ bindsName file w = false then some none else none
  | [.leaf (.word w), .group '(' trees] =>
    if w = "Some".toList ∧ bindsName file w = false then (read trees).map some else none
  | _ => none

def readKeyRecord (file value : List TokenTree) : Option Groth16Verifyingkey := do
  let fields ← readRecord "Groth16Verifyingkey" value
  let nrPubinputs ← readField fields "nr_pubinputs" readUsize
  let vkAlphaG1 ← readField fields "vk_alpha_g1" (readBytes 64)
  let vkBetaG2 ← readField fields "vk_beta_g2" (readBytes 128)
  let vkGammaG2 ← readField fields "vk_gamma_g2" (readBytes 128)
  let vkDeltaG2 ← readField fields "vk_delta_g2" (readBytes 128)
  let vkIc ← readField fields "vk_ic" (readStaticRows file)
  let vkCommitment ← readField fields "vk_commitment" (readOption file readCommitmentKey)
  return { nrPubinputs, vkAlphaG1, vkBetaG2, vkGammaG2, vkDeltaG2, vkIc, vkCommitment }

/-- The key that the const `constName` of a source file is. -/
def readVerifyingkey (source constName : String) : Option Groth16Verifyingkey := do
  let tokens ← lex source
  let file ← groupTokens tokens
  let value ← itemValue file "const".toList constName.toList
  readKeyRecord file value

end Groth16Solana
