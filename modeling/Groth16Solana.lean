import Groth16Solana.Foundations.Bytes
import Groth16Solana.Foundations.BigEndian
import Groth16Solana.Foundations.Outcome
import Groth16Solana.Foundations.Lucas
import Groth16Solana.Foundations.MordellCurve
import Groth16Solana.Foundations.PointCount
import Groth16Solana.Bn254.Moduli
import Groth16Solana.Verifier.Syscalls
import Groth16Solana.Verifier.HashToField
import Groth16Solana.Bn254.Curve
import Groth16Solana.Foundations.Words
import Groth16Solana.Verifier.Negation
import Groth16Solana.Foundations.Pairing
import Groth16Solana.Verifier.AltBn128
import Groth16Solana.Verifier.Calls
import Groth16Solana.Verifier.Equation
import Groth16Solana.Verifier.Forgery
import Groth16Solana.Verifier.Runs
import Groth16Solana.Verifier.Checked
import Groth16Solana.Foundations.Sha256
import Groth16Solana.Bn254.Decoder
import Groth16Solana.Verifier.Reference
import Groth16Solana.Verifier.Challenge
import Groth16Solana.Foundations.Search
import Groth16Solana.Foundations.Hex
import Groth16Solana.Vk.Setup
import Groth16Solana.Vk.Markers
import Groth16Solana.Vk.Scan
import Groth16Solana.Foundations.Cursor
import Groth16Solana.Vk.Gnark
import Groth16Solana.Vk.GnarkGrammar
import Groth16Solana.Foundations.Lexer
import Groth16Solana.Foundations.TokenTree
import Groth16Solana.Vk.GnarkConst
import Groth16Solana.Vk.ConstRead
import Groth16Solana.Vk.ConstTokens
import Groth16Solana.Vk.MetadataTokens
import Groth16Solana.Vk.ConstRoundTrip
import Groth16Solana.Bn254.Twist
import Groth16Solana.Circom.ArkPoint
import Groth16Solana.Circom.ProofParser
import Groth16Solana.Circom.ProofBytes
import Groth16Solana.Foundations.ExpandMessage
import Groth16Solana.Verifier.HashToFieldSpec
import Groth16Solana.Vk.Binary
import Groth16Solana.Circom.PublicInputs
import Groth16Solana.Vk.Circom
import Groth16Solana.Vk.CircomBytes
import Groth16Solana.Vk.CircomChecks
import Groth16Solana.Vk.Arity
import Groth16Solana.Vk.SetupLabel
import Groth16Solana.Foundations.Memory
import Groth16Solana.Vk.GnarkRaw
import Groth16Solana.Vk.GnarkEncoding
import Groth16Solana.Circom.ProofAcceptance
import Groth16Solana.Vk.SymbolPreimage
import Groth16Solana.Vk.MarkerGrammar
import Groth16Solana.Verifier.Verdict
import Groth16Solana.Program.Instruction
import Groth16Solana.Program.Layout
import Groth16Solana.Program.Acceptance
import Groth16Solana.Program.Fixtures
import Groth16Solana.Verifier.Binding
import Groth16Solana.Verifier.Malleability
import Groth16Solana.Foundations.Files
import Groth16Solana.Foundations.HashStream
import Groth16Solana.Vk.ProvingKey
import Groth16Solana.Vk.Generate
import Groth16Solana.Bn254.TwistDecoder
import Groth16Solana.Verifier.Encodings
import Groth16Solana.Verifier.GroupRuntime
import Groth16Solana.Circom.ProofPoints
import Groth16Solana.Circom.Verification
import Groth16Solana.Verifier.Compression
import Groth16Solana.Program.Build
import Groth16Solana.Program.Bench
import Groth16Solana.Verifier.Partial
import Groth16Solana.Program.Targets
import Groth16Solana.Foundations.RwLock
import Groth16Solana.Fixture.CompileCache
