import Groth16Solana.Foundations.Lexer
import Groth16Solana.Foundations.Sha256
import Groth16Solana.Vk.Setup

/-! # The metadata items of a generated file (`vk/setup.rs`) -/

set_option autoImplicit false

namespace Groth16Solana
open Foundations

inductive SetupKind where
  | insecureTest
  | production
deriving DecidableEq

/-- The points are arrays in one generator and byte lists in the other. -/
def deltaEqualsGamma {α : Type} [DecidableEq α] (vkGammaG2 vkDeltaG2 : α) : Bool :=
  decide (vkGammaG2 = vkDeltaG2)

def headerWarning : SetupKind → String
  | .insecureTest =>
    "// INSECURE TEST SETUP: the secret setup randomness is public or\n" ++
    "// untrusted. Whoever knows it can make this verifying key accept a\n" ++
    "// proof for any public inputs without a valid witness. Do not deploy\n" ++
    "// it to devnet or mainnet.\n\n"
  | .production => ""

/-- `byte_list` of the gnark generator; the digests of the metadata are written in the same way. -/
def byteList (bytes : List UInt8) : String :=
  String.intercalate ", " (bytes.map fun b => toString b.toNat ++ "u8")

def symbolName (symbolHash : String) : String :=
  "groth16_solana_vk_setup_" ++ String.ofList (symbolHash.toList.take 16)

/-- The name of the exported symbol, from the first 16 digits of a hash. -/
def exportSymbol (vkSource marker : String) : String :=
  symbolName (toHex (sha256 (asBytes vkSource ++ asBytes marker)).toList)

def digestSource (constName digest : String) : String :=
  "\n/// SHA-256 of the proving key file this verifying key was generated with.\n" ++
  "#[allow(dead_code)]\n#[rustfmt::skip]\n" ++
  "pub const " ++ constName ++ "_PROVING_KEY_SHA256: [u8; 32] = [" ++ digest ++ "];\n"

def flagSource (constName : String) (insecure : Bool) : String :=
  "\n/// `true` for a test setup whose secret randomness is public or untrusted:\n" ++
  "/// whoever knows it can make this key accept a proof for any public\n" ++
  "/// inputs without a valid witness. Must not be deployed to devnet or\n" ++
  "/// mainnet.\n" ++
  "#[allow(dead_code)]\n" ++
  "pub const " ++ constName ++ "_INSECURE_TEST_SETUP: bool = " ++ boolText insecure ++ ";\n"

def markerSource (constName symbol markerLiteral : String) : String :=
  "\n/// The two consts above as a delimited string, exported so it stays in\n" ++
  "/// the program binary; read it back with\n" ++
  "/// `groth16_solana::vk::setup::find_setup_txts`.\n" ++
  "#[unsafe(export_name = \"" ++ symbol ++ "\")]\n" ++
  "#[rustfmt::skip]\n" ++
  "pub static " ++ constName ++ "_SETUP_TXT: &str = \"" ++ markerLiteral ++ "\";\n"

def compileGuard (constName : String) : String :=
  "\n#[cfg(not(feature = \"insecure-test-setup\"))]\n" ++
  "compile_error!(\"" ++ constName ++ " comes from an insecure test setup: whoever knows its " ++
  "setup randomness can make it accept a proof for any public inputs. Enable the " ++
  "`insecure-test-setup` feature only in test builds, not for a devnet or mainnet " ++
  "deployment.\");\n"

def metadataRustSource (vkSource constName : String) (setup : SetupKind)
    (provingKeySha256 : Bytes 32) :
    String :=
  let digest := byteList provingKeySha256.toList
  let insecure := decide (setup = .insecureTest)
  let marker := SetupTxt.toMarker { name := constName, insecureTestSetup := insecure, provingKeySha256 }
  let symbol := exportSymbol vkSource marker
  let markerLiteral := String.ofList (escapeNul marker.toList)
  digestSource constName digest ++ flagSource constName insecure ++
    markerSource constName symbol markerLiteral ++
    if insecure then compileGuard constName else ""

end Groth16Solana
