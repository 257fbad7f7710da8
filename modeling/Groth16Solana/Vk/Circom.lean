import Groth16Solana.Circom.BigUint
import Groth16Solana.Vk.Metadata

/-! # Generating a key from snarkjs JSON (`vk/circom.rs`)

`serde_json` and the parser of `BigUint` are parameters. An error of theirs is its text. -/

set_option autoImplicit false

namespace Groth16Solana
open Foundations

inductive VkParseError where
  | jsonError (error : String)
  | invalidData (message : String)
  | forgeableProductionVk
deriving DecidableEq

/-- The fields serde delivers. The length of a `Vec` is a `usize`. -/
structure RawVerifyingKey where
  vkAlpha1 : List String
  vkBeta2 : List (List String)
  vkGamma2 : List (List String)
  vkDelta2 : List (List String)
  ic : List (List String)
  ic_length : ic.length < 2 ^ 64

/-- `serde_json::from_str` and `str::parse::<BigUint>`. -/
structure JsonPackages where
  fromStr : String → Except String RawVerifyingKey
  parseBigUint : String → Except String ℕ

variable (json : JsonPackages)

/-! ## Components -/

def bigintStringToBeBytes (s : String) (size : ℕ) : Except VkParseError (List UInt8) := do
  let bigint ← (json.parseBigUint s).mapError fun e =>
    .invalidData ("Failed to parse bigint '" ++ s ++ "': " ++ e)
  let leBytes := toBytesLe bigint
  let padded := resize leBytes size
  return padded.reverse

def processG1Component (component : String) : Except VkParseError (List UInt8) :=
  bigintStringToBeBytes json component 32

/-- `xs.split_last()`. -/
def splitLast {α : Type} (xs : List α) : Option (α × List α) :=
  xs.getLast?.map fun z => (z, xs.dropLast)

def affineComponents {α : Type} (point : List α) (fieldName : String) :
    Except VkParseError (List α) :=
  okOr (.invalidData (fieldName ++ " is empty; expected projective point coordinates " ++
    "(affine components plus a trailing z component)")) ((splitLast point).map Prod.snd)

/-- `components[i].parse::<BigUint>()` of a G2 pair. -/
def parseG2Element (component : String) : Except VkParseError ℕ :=
  (json.parseBigUint component).mapError fun e => .invalidData ("Failed to parse bigint: " ++ e)

def processG2Component : List String → Except VkParseError (List UInt8 × List UInt8)
  | [component0, component1] => do
    let c0Le := toBytesLe (← parseG2Element json component0)
    let c1Le := toBytesLe (← parseG2Element json component1)
    let c0Padded := resize c0Le 32
    let c1Padded := resize c1Le 32
    let concat := (c0Padded ++ c1Padded).reverse
    return (concat.take 32, (concat.drop 32).take 32)
  | components => .error (.invalidData ("G2 component must have exactly 2 elements, got " ++
      toString components.length))

/-! ## Points -/

/-- The loop over the components of a G1 point. -/
def g1PointBytes (point : List String) (fieldName : String) : Except VkParseError (List UInt8) := do
  let components ← affineComponents point fieldName
  let parts ← components.mapM (processG1Component json)
  return parts.flatten

/-- The loop over the pairs of a G2 point. -/
def g2PointBytes (point : List (List String)) (fieldName : String) :
    Except VkParseError (List UInt8) := do
  let pairs ← affineComponents point fieldName
  let parts ← pairs.mapM (processG2Component json)
  return parts.flatMap fun part => part.1 ++ part.2

/-- The loop over `IC` from index `pointIndex` on. -/
def icPointBytes : ℕ → List (List String) → Except VkParseError (List (List UInt8))
  | _, [] => .ok []
  | pointIndex, point :: points => do
    let pointBytes ← g1PointBytes json point ("IC[" ++ toString pointIndex ++ "]")
    let rest ← icPointBytes (pointIndex + 1) points
    return pointBytes :: rest

/-! ## The file -/

/-- What the generator writes of a key. An array has as many bytes as its point has components. -/
structure CircomKey where
  nrPubinputs : ℕ
  alphaBytes : List UInt8
  betaBytes : List UInt8
  gammaBytes : List UInt8
  deltaBytes : List UInt8
  icBytes : List (List UInt8)
deriving DecidableEq

/-- `output` before the metadata is appended. -/
def circomSource (key : CircomKey) (setup : SetupKind) : String :=
  "// This file is generated by groth16_solana::vk::circom.\n" ++
  "// Do not edit by hand.\n\n" ++
  headerWarning setup ++
  "use groth16_solana::groth16::Groth16Verifyingkey;\n\n" ++
  "#[rustfmt::skip]\n" ++
  "pub const VERIFYINGKEY: Groth16Verifyingkey = Groth16Verifyingkey \x7b\n" ++
  "\tnr_pubinputs: " ++ toString key.nrPubinputs ++ ",\n\n" ++
  "\tvk_alpha_g1: [" ++ byteList key.alphaBytes ++ "],\n\n" ++
  "\tvk_beta_g2: [" ++ byteList key.betaBytes ++ "],\n\n" ++
  "\tvk_gamma_g2: [" ++ byteList key.gammaBytes ++ "],\n\n" ++
  "\tvk_delta_g2: [" ++ byteList key.deltaBytes ++ "],\n\n" ++
  "\tvk_ic: &[\n" ++
  String.join (key.icBytes.map fun pointBytes => "\t\t[" ++ byteList pointBytes ++ "],\n") ++
  "\t],\n\n" ++
  "\tvk_commitment: None,\n" ++
  "\x7d;\n"

/-- `a.checked_sub(b)`. -/
def checkedSub (a b : ℕ) : Option ℕ := if b ≤ a then some (a - b) else none

def parseVkJsonToRustString (jsonContent : String) (setup : SetupKind)
    (provingKeySha256 : Bytes 32) :
    Except VkParseError String := do
  let rawVk ← (json.fromStr jsonContent).mapError .jsonError
  let nrPubinputs ← okOr (.invalidData "IC is empty; expected at least the constant K[0] term")
    (checkedSub rawVk.ic.length 1)
  let alphaBytes ← g1PointBytes json rawVk.vkAlpha1 "vk_alpha_1"
  let betaBytes ← g2PointBytes json rawVk.vkBeta2 "vk_beta_2"
  let gammaBytes ← g2PointBytes json rawVk.vkGamma2 "vk_gamma_2"
  let deltaBytes ← g2PointBytes json rawVk.vkDelta2 "vk_delta_2"
  if setup = .production ∧ deltaEqualsGamma gammaBytes deltaBytes then
    throw .forgeableProductionVk
  let icBytes ← icPointBytes json 0 rawVk.ic
  let output := circomSource { nrPubinputs, alphaBytes, betaBytes, gammaBytes, deltaBytes, icBytes } setup
  return output ++ metadataRustSource output "VERIFYINGKEY" setup provingKeySha256

end Groth16Solana
