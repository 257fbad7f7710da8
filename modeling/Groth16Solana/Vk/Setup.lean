import Groth16Solana.Foundations.BigEndian
import Groth16Solana.Foundations.Hex
import Groth16Solana.Foundations.Outcome

/-! # Setup markers (`vk/setup.rs`)

The metadata string a generator writes next to a verifying key, and its reader. -/

set_option autoImplicit false

namespace Groth16Solana
open Foundations

def setupTxtBegin : String := "=======BEGIN GROTH16 VK SETUP V1=======\x00"
def setupTxtEnd : String := "=======END GROTH16 VK SETUP V1=======\x00"

def fieldName : String := "name"
def fieldInsecureTestSetup : String := "insecure_test_setup"
def fieldProvingKeySha256 : String := "proving_key_sha256"

structure SetupTxt where
  name : String
  insecureTestSetup : Bool
  provingKeySha256 : Bytes 32
deriving DecidableEq

inductive SetupTxtError where
  | unterminated (offset : ℕ)
  | malformed (offset : ℕ) (reason : String)
deriving DecidableEq

/-! ## Writing -/

def toHex (bytes : List UInt8) : String := String.ofList (bytes.flatMap hexByte)

/-- `format!("{flag}")`. -/
def boolText : Bool → String
  | true => "true"
  | false => "false"

def SetupTxt.toMarker (self : SetupTxt) : String :=
  setupTxtBegin ++ fieldName ++ "\x00" ++ self.name ++ "\x00" ++ fieldInsecureTestSetup ++ "\x00" ++
    boolText self.insecureTestSetup ++ "\x00" ++ fieldProvingKeySha256 ++ "\x00" ++
    toHex self.provingKeySha256.toList ++ "\x00" ++ setupTxtEnd

/-! ## Reading -/

/-- `digits.chunks_exact(2)`. -/
def pairsOf : List UInt8 → List (List UInt8)
  | d :: e :: digits => [d, e] :: pairsOf digits
  | _ => []

/-- One turn of the loop of `from_hex`. -/
def fromHexPair (pair : List UInt8) : Option UInt8 := do
  let pair ← fromUtf8 pair
  u8FromStrRadix16 pair

def fromHex (s : String) : Option (Bytes 32) :=
  let digits := asBytes s
  if digits.length ≠ 64 then none
  else do
    let out ← (pairsOf digits).mapM fromHexPair
    Bytes.copyFromSlice? (Bytes.zero 32) 0 32 out

/-- The closure `field`: the value under `key`, and the parts after it. -/
def takeField (offset : ℕ) (key : String) :
    List String → Except SetupTxtError (String × List String)
  | k :: v :: parts =>
    if k = key then .ok (v, parts) else .error (.malformed offset ("expected field `" ++ key ++ "`"))
  | _ => .error (.malformed offset ("expected field `" ++ key ++ "`"))

def parseFlag (offset : ℕ) : String → Except SetupTxtError Bool
  | "true" => .ok true
  | "false" => .ok false
  | _ => .error (.malformed offset "insecure_test_setup is not true/false")

def parseBody (body : List UInt8) (offset : ℕ) : Except SetupTxtError SetupTxt := do
  let text ← okOr (.malformed offset "not UTF-8") (fromUtf8 body)
  let parts := splitNul text
  let (name, parts) ← takeField offset fieldName parts
  let (flag, parts) ← takeField offset fieldInsecureTestSetup parts
  let insecureTestSetup ← parseFlag offset flag
  let (digits, parts) ← takeField offset fieldProvingKeySha256 parts
  let provingKeySha256 ← okOr (.malformed offset "proving_key_sha256 is not 64 hex digits")
    (fromHex digits)
  if parts[0]? ≠ some "" || parts[1]?.isSome then
    throw (.malformed offset "unexpected trailing fields")
  return { name, insecureTestSetup, provingKeySha256 }

/-- One turn of the loop of `find_setup_txts`: the next marker and the position behind it, or nothing
when the loop ends. -/
def scanNext (binary : List UInt8) (pos : ℕ) : Except SetupTxtError (Option (SetupTxt × ℕ)) :=
  let begin := asBytes setupTxtBegin
  let end' := asBytes setupTxtEnd
  match findBytes ((getFrom binary pos).getD []) begin with
  | none => .ok none
  | some start => do
    let offset := pos + start
    let bodyStart := offset + begin.length
    let bodyRest := (getFrom binary bodyStart).getD []
    let bodyLen ← okOr (.unterminated offset) (findBytes bodyRest end')
    let body ← okOr (.unterminated offset) (getTo bodyRest bodyLen)
    let txt ← parseBody body offset
    return some (txt, bodyStart + bodyLen + end'.length)

/-- What a turn that reads a marker has done. -/
theorem scanNext_eq_ok_some_iff {binary : List UInt8} {pos pos' : ℕ} {txt : SetupTxt} :
    scanNext binary pos = .ok (some (txt, pos')) ↔
      ∃ start bodyLen,
        findBytes (binary.drop pos) (asBytes setupTxtBegin) = some start ∧
        findBytes (binary.drop (pos + start + (asBytes setupTxtBegin).length)) (asBytes setupTxtEnd) =
          some bodyLen ∧
        parseBody ((binary.drop (pos + start + (asBytes setupTxtBegin).length)).take bodyLen)
          (pos + start) =
          .ok txt ∧
        pos' = pos + start + (asBytes setupTxtBegin).length + bodyLen + (asBytes setupTxtEnd).length := by
  unfold scanNext
  simp only [getFrom_getD]
  cases findBytes (binary.drop pos) (asBytes setupTxtBegin) with
  | none => simp
  | some start =>
    simp only [Option.some.injEq, bind_eq_ok, okOr_eq_ok, ↓existsAndEq, true_and]
    constructor
    · rintro ⟨bodyLen, hlen, body, hbody, txt, hparse, hrec⟩
      rw [getTo_eq (Nat.le_of_add_right_le (add_length_le_of_findBytes (by decide) hlen))] at hbody
      cases hbody
      cases hrec
      exact ⟨bodyLen, hlen, hparse, rfl⟩
    · rintro ⟨bodyLen, hlen, hparse, rfl⟩
      exact ⟨bodyLen, hlen, _,
        getTo_eq (Nat.le_of_add_right_le (add_length_le_of_findBytes (by decide) hlen)), txt, hparse, rfl⟩

theorem scanNext_eq_ok_none_iff {binary : List UInt8} {pos : ℕ} :
    scanNext binary pos = .ok none ↔ findBytes (binary.drop pos) (asBytes setupTxtBegin) = none := by
  unfold scanNext
  simp only [getFrom_getD]
  cases findBytes (binary.drop pos) (asBytes setupTxtBegin) with
  | none => simp
  | some start =>
    simp only [reduceCtorEq, iff_false, bind_eq_ok, not_exists, not_and]
    intro _ _ _ _ _ _ h
    cases h

theorem scanNext_progress {binary : List UInt8} {pos pos' : ℕ} {txt : SetupTxt}
    (h : scanNext binary pos = .ok (some (txt, pos'))) : pos < pos' ∧ pos < binary.length := by
  obtain ⟨start, bodyLen, hstart, -, -, rfl⟩ := scanNext_eq_ok_some_iff.mp h
  have hlen := add_length_le_of_findBytes (by decide) hstart
  have hbegin : 0 < (asBytes setupTxtBegin).length := by decide
  rw [List.length_drop] at hlen
  omega

/-- The loop of `find_setup_txts` from position `pos` on. -/
def scanFrom (binary : List UInt8) (pos : ℕ) (found : List SetupTxt) :
    Except SetupTxtError (List SetupTxt) :=
  match _hturn : scanNext binary pos with
  | .error err => .error err
  | .ok none => .ok found
  | .ok (some (txt, pos')) => scanFrom binary pos' (found ++ [txt])
termination_by binary.length - pos
decreasing_by
  have hprogress := scanNext_progress _hturn
  omega

def findSetupTxts (binary : List UInt8) : Except SetupTxtError (List SetupTxt) :=
  scanFrom binary 0 []

end Groth16Solana
