import Groth16Solana.Vk.Gnark
import Groth16Solana.Vk.Metadata

/-! # Emitting a verifying key as Rust source (`vk/gnark.rs`) -/

set_option autoImplicit false

namespace Groth16Solana
open Foundations

def commitmentSource : Option CommitmentVerifyingKey → String
  | some ck =>
    "    vk_commitment: Some(CommitmentVerifyingKey \x7b\n" ++
    "        g2: [" ++ byteList ck.g2.toList ++ "],\n" ++
    "        g_sigma_neg_g2: [" ++ byteList ck.gSigmaNegG2.toList ++ "],\n" ++
    "    \x7d),\n"
  | none => "    vk_commitment: None,\n"

def useSource (vkCommitment : Option CommitmentVerifyingKey) : String :=
  if vkCommitment.isSome then
    "use groth16_solana::groth16::\x7bCommitmentVerifyingKey, Groth16Verifyingkey\x7d;\n\n"
  else "use groth16_solana::groth16::Groth16Verifyingkey;\n\n"

/-- `out` before the metadata is appended. -/
def vkSource (vk : Groth16VerifyingkeyOwned) (constName : String) (setup : SetupKind) : String :=
  "// This file is generated by groth16_solana::vk::gnark.\n" ++
  "// Do not edit by hand.\n\n" ++
  headerWarning setup ++
  useSource vk.vkCommitment ++
  "static " ++ constName ++ "_VK_IC: &[[u8; 64]] = &[\n" ++
  String.join (vk.vkIc.map fun row => "    [" ++ byteList row.toList ++ "],\n") ++
  "];\n\n" ++
  "pub const " ++ constName ++ ": Groth16Verifyingkey = Groth16Verifyingkey \x7b\n" ++
  "    nr_pubinputs: " ++ toString vk.nrPubinputs ++ ",\n" ++
  "    vk_alpha_g1: [" ++ byteList vk.vkAlphaG1.toList ++ "],\n" ++
  "    vk_beta_g2: [" ++ byteList vk.vkBetaG2.toList ++ "],\n" ++
  "    vk_gamma_g2: [" ++ byteList vk.vkGammaG2.toList ++ "],\n" ++
  "    vk_delta_g2: [" ++ byteList vk.vkDeltaG2.toList ++ "],\n" ++
  "    vk_ic: " ++ constName ++ "_VK_IC,\n" ++
  commitmentSource vk.vkCommitment ++
  "\x7d;\n"

def bsb22VkToRustConst (vk : Groth16VerifyingkeyOwned) (constName : String) (setup : SetupKind)
    (provingKeySha256 : Bytes 32) : Except Groth16Error String :=
  if setup = .production ∧ deltaEqualsGamma vk.vkGammaG2 vk.vkDeltaG2 then .error .forgeableProductionVk
  else
    let out := vkSource vk constName setup
    .ok (out ++ metadataRustSource out constName setup provingKeySha256)

end Groth16Solana
