import Groth16Solana.Foundations.HashStream
import Groth16Solana.Program.Acceptance
import Groth16Solana.Verifier.Compression
import Groth16Solana.Verifier.Partial

/-! # The two builds (`syscalls.rs`)

On the chain a call goes to the runtime, which returns a code and writes a buffer; on the host it goes
to a library, which returns a vector or an error. Both modules are the calls of `Runtime`. The chain
accepts nothing that the host refuses, and a syscall that is not resolved is told apart from one that
fails only where its result is looked at. -/

set_option autoImplicit false

namespace Groth16Solana
open Foundations

/-! ## The module of the chain -/

/-- What a syscall does with its output buffer: its return code and what the buffer then holds. -/
abbrev Syscall (m : ℕ) := Bytes m → UInt64 × Bytes m

/-- `pinocchio::syscalls`, by operation and input. -/
structure PinocchioSyscalls where
  solAltBn128GroupOp : UInt64 → List UInt8 → (m : ℕ) → Syscall m
  solAltBn128Compression : UInt64 → List UInt8 → (m : ℕ) → Syscall m
  solSha256 : List (List UInt8) → Syscall 32

namespace Solana

def g1AddBe : UInt64 := 0

def g1MulBe : UInt64 := 2

def pairingBeOp : UInt64 := 3

def g1DecompressBeOp : UInt64 := 1

def g2DecompressBeOp : UInt64 := 3

/-- A call into a zeroed buffer, which is returned where the code is zero. -/
def call {m : ℕ} (err : Groth16Error) (syscall : Syscall m) : Except Groth16Error (Bytes m) :=
  let out := syscall (Bytes.zero m)
  if out.1 ≠ 0 then .error err else .ok out.2

section
variable (sys : PinocchioSyscalls)

def g1AdditionBe (input : Bytes 128) : Except Groth16Error (Bytes 64) :=
  call .preparingInputsG1AdditionFailed (sys.solAltBn128GroupOp g1AddBe input.toList 64)

def g1MultiplicationBe (input : Bytes 96) : Except Groth16Error (Bytes 64) :=
  call .preparingInputsG1MulFailed (sys.solAltBn128GroupOp g1MulBe input.toList 64)

def pairingBe (input : List UInt8) : Except Groth16Error (Bytes 32) :=
  call .proofVerificationFailed (sys.solAltBn128GroupOp pairingBeOp input 32)

def g1DecompressBe (input : Bytes 32) : Except Groth16Error (Bytes 64) :=
  call .decompressingG1Failed (sys.solAltBn128Compression g1DecompressBeOp input.toList 64)

def g2DecompressBe (input : Bytes 64) : Except Groth16Error (Bytes 128) :=
  call .decompressingG2Failed (sys.solAltBn128Compression g2DecompressBeOp input.toList 128)

/-- The return code is not looked at. -/
def sha256 (input : List UInt8) : Bytes 32 := (sys.solSha256 [input] (Bytes.zero 32)).2

def runtime (bsb22 : Bool) (fr : ArkFr) : Runtime where
  bsb22 := bsb22
  altBn128G1Addition input := (g1AdditionBe sys input).toOption
  altBn128G1Multiplication input := (g1MultiplicationBe sys input).toOption
  altBn128Pairing input := (pairingBe sys input).toOption
  sha256 := sha256 sys
  fr := fr

end

end Solana

/-! ## The module of the host -/

/-- `solana_bn254`, whose errors are of a type `ε`. -/
structure SolanaBn254 (ε : Type) where
  altBn128G1AdditionBe : List UInt8 → Except ε (List UInt8)
  altBn128G1MultiplicationBe : List UInt8 → Except ε (List UInt8)
  altBn128PairingBe : List UInt8 → Except ε (List UInt8)
  altBn128G1DecompressBe : Bytes 32 → Except ε (Bytes 64)
  altBn128G2DecompressBe : Bytes 64 → Except ε (Bytes 128)

namespace Host

/-- A call whose vector is made an array. -/
def call {ε : Type} (m : ℕ) (err : Groth16Error) (result : Except ε (List UInt8)) :
    Except Groth16Error (Bytes m) := do
  let result ← mapErr err result
  okOr err (Program.tryIntoArray m result)

section
variable {ε : Type} (lib : SolanaBn254 ε)

def g1AdditionBe (input : Bytes 128) : Except Groth16Error (Bytes 64) :=
  call 64 .preparingInputsG1AdditionFailed (lib.altBn128G1AdditionBe input.toList)

def g1MultiplicationBe (input : Bytes 96) : Except Groth16Error (Bytes 64) :=
  call 64 .preparingInputsG1MulFailed (lib.altBn128G1MultiplicationBe input.toList)

def pairingBe (input : List UInt8) : Except Groth16Error (Bytes 32) :=
  call 32 .proofVerificationFailed (lib.altBn128PairingBe input)

def g1DecompressBe (input : Bytes 32) : Except Groth16Error (Bytes 64) :=
  mapErr .decompressingG1Failed (lib.altBn128G1DecompressBe input)

def g2DecompressBe (input : Bytes 64) : Except Groth16Error (Bytes 128) :=
  mapErr .decompressingG2Failed (lib.altBn128G2DecompressBe input)

/-- `Sha256::new`, one `update` and `finalize`. -/
def sha256 (input : List UInt8) : Bytes 32 := (Sha256.Hasher.new.update input).finalize

def runtime (bsb22 : Bool) (fr : ArkFr) : Runtime where
  bsb22 := bsb22
  altBn128G1Addition input := (g1AdditionBe lib input).toOption
  altBn128G1Multiplication input := (g1MultiplicationBe lib input).toOption
  altBn128Pairing input := (pairingBe lib input).toOption
  sha256 := sha256
  fr := fr

end

end Host

/-! ## What the runtimes make of the modules -/

/-- A call that fails with one error only is recovered from its result. -/
theorem okOr_toOption {α : Type} {err : Groth16Error} {res : Except Groth16Error α}
    (h : ∀ e, res = .error e → e = err) : okOr err res.toOption = res := by
  cases res with
  | ok a => rfl
  | error e =>
    rw [h e rfl]
    rfl

theorem Solana.call_error {m : ℕ} {err e : Groth16Error} {syscall : Syscall m}
    (h : Solana.call err syscall = .error e) : e = err := by
  simp only [Solana.call] at h
  split at h
  · exact (Except.error.inj h).symm
  · exact absurd h (by simp)

section
variable (sys : PinocchioSyscalls) (bsb22 : Bool) (fr : ArkFr)

theorem Solana.pairingBe_runtime (input : List UInt8) :
    Groth16Solana.pairingBe (Solana.runtime sys bsb22 fr) input = Solana.pairingBe sys input :=
  okOr_toOption fun _ h => Solana.call_error h

end

theorem Host.sha256_eq (input : List UInt8) : Host.sha256 input = Foundations.sha256 input := by
  have h := (Sha256.Hasher.saw_new.update input).finalize
  rwa [List.nil_append] at h

/-! ## The syscalls against the library -/

/-- What a successful syscall leaves in the buffer is the library's result. -/
def SoundCall {ε : Type} {m : ℕ} (syscall : Syscall m) (result : Except ε (List UInt8)) : Prop :=
  (syscall (Bytes.zero m)).1 = 0 → result = .ok (syscall (Bytes.zero m)).2.toList

/-- The syscall succeeds where the library does. -/
def CompleteCall {ε : Type} {m : ℕ} (syscall : Syscall m) (result : Except ε (List UInt8)) : Prop :=
  ∀ out, result = .ok out → (syscall (Bytes.zero m)).1 = 0

/-- Each syscall with the function that the host calls in its place. -/
structure Corresponding {ε : Type} (sys : PinocchioSyscalls) (lib : SolanaBn254 ε)
    (P : ∀ m, Syscall m → Except ε (List UInt8) → Prop) : Prop where
  g1Addition : ∀ input : Bytes 128,
    P 64 (sys.solAltBn128GroupOp 0 input.toList 64) (lib.altBn128G1AdditionBe input.toList)
  g1Multiplication : ∀ input : Bytes 96,
    P 64 (sys.solAltBn128GroupOp 2 input.toList 64) (lib.altBn128G1MultiplicationBe input.toList)
  pairing : ∀ input : List UInt8,
    P 32 (sys.solAltBn128GroupOp 3 input 32) (lib.altBn128PairingBe input)
  g1Decompress : ∀ input : Bytes 32,
    P 64 (sys.solAltBn128Compression 1 input.toList 64)
      ((lib.altBn128G1DecompressBe input).map Vector.toList)
  g2Decompress : ∀ input : Bytes 64,
    P 128 (sys.solAltBn128Compression 3 input.toList 128)
      ((lib.altBn128G2DecompressBe input).map Vector.toList)

def Sound {ε : Type} (sys : PinocchioSyscalls) (lib : SolanaBn254 ε) : Prop :=
  Corresponding sys lib fun _ => SoundCall

def Complete {ε : Type} (sys : PinocchioSyscalls) (lib : SolanaBn254 ε) : Prop :=
  Corresponding sys lib fun _ => CompleteCall

/-- `sol_sha256` hashes the slices one after the other. -/
def HashesSlices (sys : PinocchioSyscalls) : Prop :=
  ∀ slices, (sys.solSha256 slices (Bytes.zero 32)).2 = sha256 slices.flatten

section
variable {ε : Type} {m : ℕ} {syscall : Syscall m}

theorem SoundCall.call_le {result : Except ε (List UInt8)} (h : SoundCall syscall result)
    (err : Groth16Error) : OkLe (Solana.call err syscall) (Host.call m err result) := by
  by_cases hcode : (syscall (Bytes.zero m)).1 = 0
  · have hhost : Host.call m err result = .ok (syscall (Bytes.zero m)).2 := by
      simp only [Host.call, h hcode, mapErr_ok, ok_bind, Program.tryIntoArray_toList, okOr_some]
    have hsolana : Solana.call err syscall = .ok (syscall (Bytes.zero m)).2 :=
      if_neg (not_not.mpr hcode)
    rw [hhost, hsolana]
    exact OkLe.refl _
  · have hsolana : Solana.call err syscall = .error err := if_pos hcode
    rw [hsolana]
    exact OkLe.error _ _

/-- Both fail with the same error, so they agree where neither fails alone. -/
theorem CompleteCall.call_eq {result : Except ε (List UInt8)} (hcomplete : CompleteCall syscall result)
    (hsound : SoundCall syscall result) (err : Groth16Error) :
    Solana.call err syscall = Host.call m err result := by
  cases hresult : result with
  | ok out =>
    have hsolana : Solana.call err syscall = .ok (syscall (Bytes.zero m)).2 :=
      if_neg (not_not.mpr (hcomplete out hresult))
    have hhost := hsound.call_le err _ hsolana
    rw [hsolana, ← hresult, hhost]
  | error e =>
    have hcode : (syscall (Bytes.zero m)).1 ≠ 0 := by
      intro hcode
      rw [hsound hcode] at hresult
      cases hresult
    exact if_pos hcode

theorem call_map_toList (err : Groth16Error) (result : Except ε (Bytes m)) :
    Host.call m err (result.map Vector.toList) = mapErr err result := by
  cases result with
  | ok out =>
    show okOr err (Program.tryIntoArray m out.toList) = _
    rw [Program.tryIntoArray_toList]
    rfl
  | error e => rfl

end

section
variable {ε : Type} {sys : PinocchioSyscalls} {lib : SolanaBn254 ε}

theorem HashesSlices.sha256_eq (h : HashesSlices sys) : Solana.sha256 sys = Host.sha256 := by
  funext input
  rw [Solana.sha256, h, Host.sha256_eq, List.flatten_singleton]

theorem runtime_le (hsound : Sound sys lib) (hsha : HashesSlices sys) (bsb22 : Bool) (fr : ArkFr) :
    (Solana.runtime sys bsb22 fr).Le (Host.runtime lib bsb22 fr) where
  bsb22 := rfl
  addition := by
    intro input out hout
    exact toOption_eq_some.mpr
      ((hsound.g1Addition input).call_le _ out (toOption_eq_some.mp hout))
  multiplication := by
    intro input out hout
    exact toOption_eq_some.mpr
      ((hsound.g1Multiplication input).call_le _ out (toOption_eq_some.mp hout))
  pairing := by
    intro input out hout
    exact toOption_eq_some.mpr ((hsound.pairing input).call_le _ out (toOption_eq_some.mp hout))
  sha256 := hsha.sha256_eq
  fr := rfl

theorem runtime_eq (hsound : Sound sys lib) (hcomplete : Complete sys lib) (hsha : HashesSlices sys)
    (bsb22 : Bool) (fr : ArkFr) : Solana.runtime sys bsb22 fr = Host.runtime lib bsb22 fr := by
  have haddition : Solana.g1AdditionBe sys = Host.g1AdditionBe lib := by
    funext input
    exact (hcomplete.g1Addition input).call_eq (hsound.g1Addition input) _
  have hmultiplication : Solana.g1MultiplicationBe sys = Host.g1MultiplicationBe lib := by
    funext input
    exact (hcomplete.g1Multiplication input).call_eq (hsound.g1Multiplication input) _
  have hpairing : Solana.pairingBe sys = Host.pairingBe lib := by
    funext input
    exact (hcomplete.pairing input).call_eq (hsound.pairing input) _
  simp only [Solana.runtime, Host.runtime, haddition, hmultiplication, hpairing, hsha.sha256_eq]

end

/-! ## The program on both -/

section
variable {rt rt' : Runtime}

theorem logged_le {α : Type} {x y : Except Groth16Error α} (h : OkLe x y)
    (message : Groth16Error → Program.Message) :
    OkLe (Program.logged message x) (Program.logged message y) := by
  intro a hx
  exact Program.logged_eq_ok.mpr (h a (Program.logged_eq_ok.mp hx))

theorem Program.Instruction.run_le (h : rt.Le rt') (keys : Program.Keys) (i : Program.Instruction) :
    OkLe (i.run rt keys) (i.run rt' keys) := by
  cases i with
  | plain size proofA proofB proofC publicInputs =>
    apply OkLe.bind (OkLe.refl _)
    intro self
    exact logged_le (verifyCommon_le h true self) _
  | bsb22 size proofA proofB proofC commitment pok publicInputs =>
    apply OkLe.bind (OkLe.refl _)
    intro self
    exact logged_le (verifyCommon_le h true self) _

theorem Program.processInstruction_le (h : rt.Le rt') (keys : Program.Keys) (data : List UInt8) :
    OkLe (Program.processInstruction rt keys data) (Program.processInstruction rt' keys data) := by
  by_cases hdata : ∃ i : Program.Instruction, data = i.bytes
  · obtain ⟨i, rfl⟩ := hdata
    rw [Program.processInstruction_bytes, Program.processInstruction_bytes]
    exact i.run_le h keys
  · rw [Program.processInstruction_malformed keys (not_exists.mp hdata)]
    exact OkLe.error _ _

end

section
variable {ε : Type} {sys : PinocchioSyscalls} {lib : SolanaBn254 ε}

/-- Where the hash syscall hashes, the chain accepts nothing that the host refuses, however its other
syscalls fail, and where they fail only with the library the two builds answer alike. -/
theorem chain_refines_host (hsound : Sound sys lib) (hsha : HashesSlices sys) (bsb22 : Bool)
    (fr : ArkFr) :
    let chain := Solana.runtime sys bsb22 fr
    let host := Host.runtime lib bsb22 fr
    ((∀ keys data, OkLe (Program.processInstruction chain keys data)
        (Program.processInstruction host keys data)) ∧
      (∀ {n : ℕ} (self : Groth16Verifier n) (calls calls' : List Call) (call : Call),
        OkLe (call.run chain (runCalls chain self calls)).1
          (call.run host (runCalls host self calls')).1) ∧
      (∀ g1, OkLe (Solana.g1DecompressBe sys g1) (Host.g1DecompressBe lib g1)) ∧
      ∀ g2, OkLe (Solana.g2DecompressBe sys g2) (Host.g2DecompressBe lib g2)) ∧
    (Complete sys lib →
      (∀ keys data, Program.processInstruction chain keys data =
        Program.processInstruction host keys data) ∧
      (∀ {n : ℕ} (self : Groth16Verifier n) (calls calls' : List Call) (call : Call),
        (call.run chain (runCalls chain self calls)).1 =
          (call.run host (runCalls host self calls')).1) ∧
      (∀ g1, Solana.g1DecompressBe sys g1 = Host.g1DecompressBe lib g1) ∧
      ∀ g2, Solana.g2DecompressBe sys g2 = Host.g2DecompressBe lib g2) := by
  intro chain host
  have hle : chain.Le host := runtime_le hsound hsha bsb22 fr
  refine ⟨⟨Program.processInstruction_le hle, runCalls_le hle, ?_, ?_⟩, ?_⟩
  · intro g1
    rw [Host.g1DecompressBe, ← call_map_toList]
    exact (hsound.g1Decompress g1).call_le _
  · intro g2
    rw [Host.g2DecompressBe, ← call_map_toList]
    exact (hsound.g2Decompress g2).call_le _
  · intro hcomplete
    have heq : chain = host := runtime_eq hsound hcomplete hsha bsb22 fr
    refine ⟨?_, ?_, ?_, ?_⟩
    · intro keys data
      rw [heq]
    · intro n self calls calls' call
      have hself : SameBut self (runCalls host self calls) := runCalls_sameBut self calls
      have hself' : SameBut self (runCalls host self calls') := runCalls_sameBut self calls'
      rw [heq, hself.run_eq call, hself'.run_eq call]
    · intro g1
      rw [Host.g1DecompressBe, ← call_map_toList]
      exact (hcomplete.g1Decompress g1).call_eq (hsound.g1Decompress g1) _
    · intro g2
      rw [Host.g2DecompressBe, ← call_map_toList]
      exact (hcomplete.g2Decompress g2).call_eq (hsound.g2Decompress g2) _

end

/-! ## Unresolved syscalls -/

/-- A syscall that nothing answers leaves its buffer as it was, whatever the code. -/
def Unresolved {m : ℕ} (syscall : Syscall m) : Prop := ∀ buffer, (syscall buffer).2 = buffer

section
variable {sys : PinocchioSyscalls} (bsb22 : Bool) (fr : ArkFr)

theorem checkPairing_unresolved (h : ∀ input, Unresolved (sys.solAltBn128GroupOp 3 input 32))
    (err : Groth16Error) (input : List UInt8) :
    checkPairing (Solana.runtime sys bsb22 fr) err input ≠ .ok () := by
  intro hok
  obtain ⟨pairingRes, hres, hone⟩ := bind_eq_ok.mp hok
  rw [mapErr_eq_ok, Solana.pairingBe_runtime] at hres
  have hzero : pairingRes = Bytes.zero 32 := by
    rw [Solana.pairingBe, Solana.call] at hres
    split at hres
    · cases hres
    · rw [← Except.ok.inj hres]
      exact h input _
  rw [hzero, if_pos (by decide)] at hone
  cases hone

theorem verifyCommon_unresolved (h : ∀ input, Unresolved (sys.solAltBn128GroupOp 3 input 32))
    (check : Bool) {n : ℕ} (self : Groth16Verifier n) :
    (verifyCommon (Solana.runtime sys bsb22 fr) check self).1 ≠ .ok () := by
  intro hok
  obtain ⟨out, -, hverify⟩ := verifyCommon_eq_ok_iff.mp hok
  obtain ⟨_, hpairing, -⟩ := bind_eq_ok.mp hverify
  exact checkPairing_unresolved bsb22 fr h _ _ hpairing

theorem processInstruction_unresolved (h : ∀ input, Unresolved (sys.solAltBn128GroupOp 3 input 32))
    (keys : Program.Keys) (data : List UInt8) :
    Program.processInstruction (Solana.runtime sys bsb22 fr) keys data ≠ .ok () := by
  intro hok
  by_cases hdata : ∃ i : Program.Instruction, data = i.bytes
  · obtain ⟨i, rfl⟩ := hdata
    rw [Program.processInstruction_bytes] at hok
    cases i with
    | plain size proofA proofB proofC publicInputs =>
      obtain ⟨self, -, hverify⟩ := bind_eq_ok.mp hok
      exact verifyCommon_unresolved bsb22 fr h true self (Program.logged_eq_ok.mp hverify)
    | bsb22 size proofA proofB proofC commitment pok publicInputs =>
      obtain ⟨self, -, hverify⟩ := bind_eq_ok.mp hok
      exact verifyCommon_unresolved bsb22 fr h true self (Program.logged_eq_ok.mp hverify)
  · rw [Program.processInstruction_malformed keys (not_exists.mp hdata)] at hok
    cases hok

theorem challenge_unresolved (h : ∀ slices, Unresolved (sys.solSha256 slices))
    (hfr : MontgomeryForm fr) (commitment : Bytes 64) :
    challenge (Solana.runtime sys bsb22 fr) commitment = 0 := by
  have hsha (input : List UInt8) : (Solana.runtime sys bsb22 fr).sha256 input = Bytes.zero 32 :=
    h [input] _
  obtain ⟨raw, hraw, hbytes⟩ := expandMessageXmd_eq (Solana.runtime sys bsb22 fr) commitment bsb22Dst
    admitted_commitment
  have hzeros : raw.toList = List.replicate 48 0 := by
    simp only [hsha] at hbytes
    exact hbytes
  have hreduce : limbsNat (reduceBeL48 (Solana.runtime sys bsb22 fr) raw) = 0 := by
    rw [limbsNat_reduceBeL48 hfr, hzeros, beNat_replicate_zero]
    rfl
  rw [challenge, toList_hashToFieldBn254Fr _ _ _ _ hraw, hreduce]
  decide +kernel

/-- A program whose pairing syscall is unresolved accepts nothing, in any call. One whose hash syscall
is unresolved has zero for the challenge of every commitment. -/
theorem unresolved_syscalls (hfr : MontgomeryForm fr) :
    ((∀ input, Unresolved (sys.solAltBn128GroupOp 3 input 32)) →
      (∀ (check : Bool) {n : ℕ} (self : Groth16Verifier n),
        (verifyCommon (Solana.runtime sys bsb22 fr) check self).1 ≠ .ok ()) ∧
      ∀ keys data, Program.processInstruction (Solana.runtime sys bsb22 fr) keys data ≠ .ok ()) ∧
    ((∀ slices, Unresolved (sys.solSha256 slices)) →
      ∀ commitment, challenge (Solana.runtime sys bsb22 fr) commitment = 0) := by
  constructor
  · intro h
    exact ⟨verifyCommon_unresolved bsb22 fr h, processInstruction_unresolved bsb22 fr h⟩
  · intro h
    exact challenge_unresolved bsb22 fr h hfr

end

/-- Syscalls of which none is resolved. -/
def silentSyscalls : PinocchioSyscalls where
  solAltBn128GroupOp _ _ _ buffer := (0, buffer)
  solAltBn128Compression _ _ _ buffer := (0, buffer)
  solSha256 _ buffer := (0, buffer)

theorem unresolved_syscalls_silent :
    Program.processInstruction (Solana.runtime silentSyscalls true montgomeryFr) Program.smallKeys
        Program.smallInstruction.bytes ≠ .ok () ∧
      challenge (Solana.runtime silentSyscalls true montgomeryFr) (Bytes.zero 64) = 0 := by
  have h := @unresolved_syscalls silentSyscalls true montgomeryFr montgomeryForm_montgomeryFr
  exact ⟨(h.1 fun _ _ => rfl).2 _ _, h.2 (fun _ _ => rfl) _⟩

/-! ## Syscalls over a library -/

/-- The result in the buffer, or a failure that leaves the buffer alone. -/
def servedBy {m : ℕ} (result : Except Unit (List UInt8)) : Syscall m := fun buffer =>
  match result.toOption.bind (Program.tryIntoArray m) with
  | some out => (0, out)
  | none => (1, buffer)

def syscallsOf (lib : SolanaBn254 Unit) : PinocchioSyscalls where
  solAltBn128GroupOp op input _ :=
    servedBy (if op = 0 then lib.altBn128G1AdditionBe input
      else if op = 2 then lib.altBn128G1MultiplicationBe input
      else if op = 3 then lib.altBn128PairingBe input
      else .error ())
  solAltBn128Compression op input _ :=
    servedBy (if op = 1 then
        (okOr () (Program.tryIntoArray 32 input) >>= lib.altBn128G1DecompressBe).map Vector.toList
      else if op = 3 then
        (okOr () (Program.tryIntoArray 64 input) >>= lib.altBn128G2DecompressBe).map Vector.toList
      else .error ())
  solSha256 slices _ := (0, sha256 slices.flatten)

theorem tryIntoArray_eq_some {m : ℕ} {l : List UInt8} {bytes : Bytes m}
    (h : Program.tryIntoArray m l = some bytes) : bytes.toList = l := by
  rw [Program.tryIntoArray, Option.dite_none_right_eq_some] at h
  obtain ⟨hlen, hbytes⟩ := h
  rw [← Option.some.inj hbytes, Bytes.toList_ofList]

section
variable {m : ℕ}

theorem servedBy_sound (result : Except Unit (List UInt8)) :
    SoundCall (servedBy (m := m) result) result := by
  intro hcode
  cases harray : result.toOption.bind (Program.tryIntoArray m) with
  | none =>
    simp only [servedBy, harray] at hcode
    exact absurd hcode (by decide)
  | some out =>
    obtain ⟨l, hresult, hl⟩ := Option.bind_eq_some_iff.mp harray
    simp only [servedBy, harray, tryIntoArray_eq_some hl]
    exact toOption_eq_some.mp hresult

theorem servedBy_complete {result : Except Unit (List UInt8)}
    (h : ∀ out, result = .ok out → ∃ bytes : Bytes m, bytes.toList = out) :
    CompleteCall (servedBy (m := m) result) result := by
  intro out hresult
  obtain ⟨bytes, rfl⟩ := h out hresult
  have harray : result.toOption.bind (Program.tryIntoArray m) = some bytes := by
    rw [toOption_eq_some.mpr hresult, Option.bind_some, Program.tryIntoArray_toList]
  simp only [servedBy, harray]

/-- What a library returns of an array. -/
def resultOf (out : Option (Bytes m)) : Except Unit (List UInt8) := okOr () (out.map Vector.toList)

theorem resultOf_array (out : Option (Bytes m)) :
    ∀ l, resultOf out = .ok l → ∃ bytes : Bytes m, bytes.toList = l := by
  intro l h
  obtain ⟨bytes, -, hbytes⟩ := Option.map_eq_some_iff.mp (okOr_eq_ok.mp h)
  exact ⟨bytes, hbytes⟩

theorem map_toList_array (result : Except Unit (Bytes m)) :
    ∀ l, result.map Vector.toList = .ok l → ∃ bytes : Bytes m, bytes.toList = l := by
  intro l h
  cases result with
  | ok bytes => exact ⟨bytes, Except.ok.inj h⟩
  | error e => cases h

theorem call_resultOf (err : Groth16Error) (out : Option (Bytes m)) :
    (Host.call m err (resultOf out)).toOption = out := by
  cases out with
  | none => rfl
  | some bytes =>
    show (okOr err (Program.tryIntoArray m bytes.toList)).toOption = _
    rw [Program.tryIntoArray_toList]
    rfl

end

/-- The reference runtime's calls as a library. -/
noncomputable def referenceBn254 : SolanaBn254 Unit where
  altBn128G1AdditionBe input :=
    resultOf ((Program.tryIntoArray 128 input).bind referenceRuntime.altBn128G1Addition)
  altBn128G1MultiplicationBe input :=
    resultOf ((Program.tryIntoArray 96 input).bind referenceRuntime.altBn128G1Multiplication)
  altBn128PairingBe input := resultOf (referenceRuntime.altBn128Pairing input)
  altBn128G1DecompressBe input := okOr () (arkCompression.g1DecompressBe input)
  altBn128G2DecompressBe input := okOr () (arkCompression.g2DecompressBe input)

theorem host_reference : Host.runtime referenceBn254 true montgomeryFr = referenceRuntime := by
  have haddition : (fun input => (Host.g1AdditionBe referenceBn254 input).toOption) =
      referenceRuntime.altBn128G1Addition := by
    funext input
    simp only [Host.g1AdditionBe, referenceBn254, Program.tryIntoArray_toList, Option.bind_some,
      call_resultOf]
  have hmultiplication : (fun input => (Host.g1MultiplicationBe referenceBn254 input).toOption) =
      referenceRuntime.altBn128G1Multiplication := by
    funext input
    simp only [Host.g1MultiplicationBe, referenceBn254, Program.tryIntoArray_toList, Option.bind_some,
      call_resultOf]
  have hpairing : (fun input => (Host.pairingBe referenceBn254 input).toOption) =
      referenceRuntime.altBn128Pairing := by
    funext input
    simp only [Host.pairingBe, referenceBn254, call_resultOf]
  have hsha256 : Host.sha256 = referenceRuntime.sha256 := by
    funext input
    exact Host.sha256_eq input
  rw [Host.runtime, haddition, hmultiplication, hpairing, hsha256]
  rfl

section
variable (lib : SolanaBn254 Unit)

theorem syscallsOf_g1Decompress (input : Bytes 32) :
    (syscallsOf lib).solAltBn128Compression 1 input.toList 64 =
      servedBy ((lib.altBn128G1DecompressBe input).map Vector.toList) := by
  show servedBy ((okOr () (Program.tryIntoArray 32 input.toList) >>=
    lib.altBn128G1DecompressBe).map Vector.toList) = _
  rw [Program.tryIntoArray_toList, okOr_some, ok_bind]

theorem syscallsOf_g2Decompress (input : Bytes 64) :
    (syscallsOf lib).solAltBn128Compression 3 input.toList 128 =
      servedBy ((lib.altBn128G2DecompressBe input).map Vector.toList) := by
  show servedBy ((okOr () (Program.tryIntoArray 64 input.toList) >>=
    lib.altBn128G2DecompressBe).map Vector.toList) = _
  rw [Program.tryIntoArray_toList, okOr_some, ok_bind]

theorem sound_syscallsOf : Sound (syscallsOf lib) lib where
  g1Addition _ := servedBy_sound _
  g1Multiplication _ := servedBy_sound _
  pairing _ := servedBy_sound _
  g1Decompress input := by
    rw [syscallsOf_g1Decompress]
    exact servedBy_sound _
  g2Decompress input := by
    rw [syscallsOf_g2Decompress]
    exact servedBy_sound _

end

theorem complete_reference : Complete (syscallsOf referenceBn254) referenceBn254 where
  g1Addition _ := servedBy_complete (resultOf_array _)
  g1Multiplication _ := servedBy_complete (resultOf_array _)
  pairing _ := servedBy_complete (resultOf_array _)
  g1Decompress input := by
    rw [syscallsOf_g1Decompress]
    exact servedBy_complete (map_toList_array _)
  g2Decompress input := by
    rw [syscallsOf_g2Decompress]
    exact servedBy_complete (map_toList_array _)

theorem chain_refines_host_small :
    Program.processInstruction (Solana.runtime (syscallsOf referenceBn254) true montgomeryFr)
      Program.smallKeys Program.smallInstruction.bytes = .ok () := by
  have hagree := (chain_refines_host (sound_syscallsOf referenceBn254) (fun _ => rfl) true
    montgomeryFr).2 complete_reference
  rw [hagree.1, host_reference, Program.processInstruction_bytes]
  exact (Program.run_eq_ok_iff referenceSyscalls rfl _ _).mpr Program.smallInstruction_accepted

end Groth16Solana
