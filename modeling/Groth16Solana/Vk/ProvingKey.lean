import Groth16Solana.Foundations.Files
import Groth16Solana.Foundations.HashStream
import Groth16Solana.Foundations.Outcome

/-! # The digest of a proving key (`vk/setup.rs`)

`proving_key_sha256` hashes a file in chunks of at most 64 KiB. Its loop has fuel here, since nothing
says that a path names a file that ends. -/

set_option autoImplicit false

namespace Groth16Solana
open Foundations Foundations.Sha256

/-- `io::Error`: one that the system reports, or one of kind `InvalidData`. -/
inductive IoError (fs : FileSystem) where
  | os (error : fs.Error)
  | invalidData (message : String)

inductive ProvingKeySource (fs : FileSystem) where
  | file (path : fs.Path)
  | sha256 (digest : Bytes 32)

variable (fs : FileSystem)

/-- The loop of `proving_key_sha256`. -/
def hashLoop : ℕ → fs.Handle → Bytes (64 * 1024) → Hasher → Option (Except (IoError fs) (Bytes 32))
  | 0, _, _, _ => none
  | fuel + 1, file, buf, hasher =>
    match fs.read file buf with
    | (.error error, _, _) => some (.error (.os error))
    | (.ok n, buf, file) =>
      if n = 0 then some (.ok hasher.finalize)
      else
        match buf.sliceTo? n with
        | none => some (.error (.invalidData "read returned too many bytes"))
        | some chunk => hashLoop fuel file buf (hasher.update chunk)

def provingKeySha256 (fuel : ℕ) (world : fs.World) (path : fs.Path) :
    Option (Except (IoError fs) (Bytes 32)) :=
  match fs.openFile world path with
  | .error error => some (.error (.os error))
  | .ok file => hashLoop fs fuel file (Bytes.zero (64 * 1024)) Hasher.new

/-- `ProvingKeySource::sha256`. -/
def ProvingKeySource.keySha256 {fs : FileSystem} (self : ProvingKeySource fs) (fuel : ℕ)
    (world : fs.World) : Option (Except (IoError fs) (Bytes 32)) :=
  match self with
  | .file path => provingKeySha256 fs fuel world path
  | .sha256 digest => some (.ok digest)

/-! ## The turns of the loop -/

variable {fs}

section Turns
variable {file file' : fs.Handle} {buf buf' : Bytes (64 * 1024)} (hasher : Hasher) (fuel : ℕ)

theorem hashLoop_failed {error : fs.Error} (hread : (fs.read file buf).1 = .error error) :
    hashLoop fs (fuel + 1) file buf hasher = some (.error (.os error)) := by
  rcases hturn : fs.read file buf with ⟨answer, buf', file'⟩
  rw [hturn] at hread
  obtain rfl : answer = .error error := hread
  rw [hashLoop, hturn]

theorem hashLoop_end (hread : (fs.read file buf).1 = .ok 0) :
    hashLoop fs (fuel + 1) file buf hasher = some (.ok hasher.finalize) := by
  rcases hturn : fs.read file buf with ⟨answer, buf', file'⟩
  rw [hturn] at hread
  obtain rfl : answer = .ok 0 := hread
  rw [hashLoop, hturn]
  exact if_pos rfl

theorem hashLoop_chunk {n : ℕ} (hread : fs.read file buf = (.ok n, buf', file')) (hpos : n ≠ 0)
    (hle : n ≤ 64 * 1024) :
    hashLoop fs (fuel + 1) file buf hasher =
      hashLoop fs fuel file' buf' (hasher.update (buf'.toList.take n)) := by
  rw [hashLoop, hread]
  simp only [if_neg hpos, Bytes.sliceTo?_eq hle]

end Turns

/-- How the loop ends: a run of reads and one more, at the end of the file or failing. -/
inductive LoopEnds (file : fs.Handle) (buf : Bytes (64 * 1024)) (hasher : Hasher) :
    List (List UInt8) → Except (IoError fs) (Bytes 32) → Prop
  | finished {chunks : List (List UInt8)} {file' : fs.Handle} {buf' : Bytes (64 * 1024)}
      (hdrains : fs.Drains file buf chunks file' buf') (hread : (fs.read file' buf').1 = .ok 0) :
    LoopEnds file buf hasher chunks (.ok (chunks.foldl Hasher.update hasher).finalize)
  | failed {chunks : List (List UInt8)} {file' : fs.Handle} {buf' : Bytes (64 * 1024)}
      {error : fs.Error} (hdrains : fs.Drains file buf chunks file' buf')
      (hread : (fs.read file' buf').1 = .error error) :
    LoopEnds file buf hasher chunks (.error (.os error))

/-- A turn before a run of the loop. -/
theorem LoopEnds.cons {file file' : fs.Handle} {buf buf' : Bytes (64 * 1024)} {hasher : Hasher}
    {n : ℕ} {chunks : List (List UInt8)} {outcome : Except (IoError fs) (Bytes 32)}
    (hread : fs.read file buf = (.ok n, buf', file')) (hpos : n ≠ 0) (hle : n ≤ 64 * 1024)
    (h : LoopEnds file' buf' (hasher.update (buf'.toList.take n)) chunks outcome) :
    LoopEnds file buf hasher (buf'.toList.take n :: chunks) outcome := by
  cases h with
  | finished hdrains hlast => exact LoopEnds.finished (.cons hread hpos hle hdrains) hlast
  | failed hdrains hlast => exact LoopEnds.failed (.cons hread hpos hle hdrains) hlast

/-- A file with an end makes the loop end, in at most as many turns as the file has bytes and one
more. -/
theorem hashLoop_ends (laws : fs.Lawful) (fuel : ℕ) {file : fs.Handle} (buf : Bytes (64 * 1024))
    (hasher : Hasher) {bytes : List UInt8} (hserves : laws.Serves file bytes)
    (hfuel : bytes.length < fuel) :
    ∃ chunks outcome, LoopEnds file buf hasher chunks outcome ∧
      hashLoop fs fuel file buf hasher = some outcome := by
  induction fuel generalizing file buf hasher bytes with
  | zero => omega
  | succ fuel ih =>
    rcases hturn : fs.read file buf with ⟨answer, buf', file'⟩
    cases answer with
    | error error =>
      have hread : (fs.read file buf).1 = .error error := by rw [hturn]
      exact ⟨_, _, LoopEnds.failed (.nil file buf) hread, hashLoop_failed hasher fuel hread⟩
    | ok n =>
      by_cases hzero : n = 0
      · have hread : (fs.read file buf).1 = .ok 0 := by rw [hturn, hzero]
        exact ⟨_, _, LoopEnds.finished (.nil file buf) hread, hashLoop_end hasher fuel hread⟩
      · obtain ⟨hle, -, rest, hbytes, hserves'⟩ := laws.read_serves hserves hturn
        have hchunk : (buf'.toList.take n).length = n :=
          List.length_take_of_le (by rwa [Vector.length_toList])
        have hrest : rest.length < fuel := by
          rw [hbytes, List.length_append, hchunk] at hfuel
          omega
        obtain ⟨chunks, outcome, hends, hloop⟩ :=
          ih buf' (hasher.update (buf'.toList.take n)) hserves' hrest
        exact ⟨_, outcome, hends.cons hturn hzero hle,
          (hashLoop_chunk hasher fuel hturn hzero hle).trans hloop⟩

/-- More fuel changes nothing. -/
theorem hashLoop_mono {fuel : ℕ} (more : ℕ) {file : fs.Handle} {buf : Bytes (64 * 1024)}
    {hasher : Hasher} {outcome : Except (IoError fs) (Bytes 32)}
    (h : hashLoop fs fuel file buf hasher = some outcome) :
    hashLoop fs (fuel + more) file buf hasher = some outcome := by
  induction fuel generalizing file buf hasher with
  | zero => cases h
  | succ fuel ih =>
    rw [Nat.succ_add, hashLoop]
    rw [hashLoop] at h
    rcases hturn : fs.read file buf with ⟨answer, buf', file'⟩
    rw [hturn] at h
    cases answer with
    | error error => exact h
    | ok n =>
      by_cases hzero : n = 0
      · simp only [if_pos hzero] at h ⊢
        exact h
      · simp only [if_neg hzero] at h ⊢
        cases hslice : buf'.sliceTo? n with
        | none =>
          rw [hslice] at h
          exact h
        | some chunk =>
          rw [hslice] at h
          exact ih h

/-! ## The digest of a file -/

/-- What `proving_key_sha256` may return: the digest of the file, or what the system said when it
did not open or serve the file. -/
inductive DigestOutcome (laws : fs.Lawful) (world : fs.World) (path : fs.Path) :
    Except (IoError fs) (Bytes 32) → Prop
  | digest {bytes : List UInt8} (hfile : laws.content world path = some bytes) :
    DigestOutcome laws world path (.ok (sha256 bytes))
  | notOpened {error : fs.Error} (hopen : fs.openFile world path = .error error) :
    DigestOutcome laws world path (.error (.os error))
  | notRead {file file' : fs.Handle} {chunks : List (List UInt8)} {buf' : Bytes (64 * 1024)}
      {error : fs.Error} (hopen : fs.openFile world path = .ok file)
      (hdrains : fs.Drains file (Bytes.zero (64 * 1024)) chunks file' buf')
      (hread : (fs.read file' buf').1 = .error error) :
    DigestOutcome laws world path (.error (.os error))

theorem LoopEnds.digestOutcome {laws : fs.Lawful} {world : fs.World} {path : fs.Path}
    {file : fs.Handle} {bytes : List UInt8} {chunks : List (List UInt8)}
    {outcome : Except (IoError fs) (Bytes 32)} (hopen : fs.openFile world path = .ok file)
    (hfile : laws.content world path = some bytes) (hserves : laws.Serves file bytes)
    (h : LoopEnds file (Bytes.zero (64 * 1024)) Hasher.new chunks outcome) :
    DigestOutcome laws world path outcome := by
  cases h with
  | failed hdrains hread => exact DigestOutcome.notRead hopen hdrains hread
  | @finished file' buf' hdrains hread =>
    obtain ⟨rest, hbytes, hserves', -⟩ := laws.drains_serves hdrains hserves
    rcases hturn : fs.read file' buf' with ⟨answer, buf'', file''⟩
    rw [hturn] at hread
    obtain rfl : answer = .ok 0 := hread
    -- A read of nothing into a buffer with room means that nothing is left.
    have hrest : rest = [] := by
      obtain hfull | hend := (laws.read_serves hserves' hturn).2.1 rfl
      · exact absurd hfull (by decide)
      · exact hend
    rw [hrest, List.append_nil] at hbytes
    have hsaw := Hasher.saw_foldl chunks Hasher.saw_new
    rw [hsaw.finalize, List.nil_append, ← hbytes]
    exact DigestOutcome.digest hfile

theorem provingKeySha256_ends (laws : fs.Lawful) (world : fs.World) (path : fs.Path) :
    ∃ outcome, DigestOutcome laws world path outcome ∧
      provingKeySha256 fs (((laws.content world path).getD []).length + 1) world path =
        some outcome := by
  cases hopen : fs.openFile world path with
  | error error =>
    refine ⟨_, DigestOutcome.notOpened hopen, ?_⟩
    rw [provingKeySha256, hopen]
  | ok file =>
    obtain ⟨bytes, hfile, hserves⟩ := laws.openFile_serves hopen
    obtain ⟨chunks, outcome, hends, hloop⟩ :=
      hashLoop_ends laws (bytes.length + 1) (Bytes.zero (64 * 1024)) Hasher.new hserves
        (Nat.lt_succ_self _)
    refine ⟨outcome, hends.digestOutcome hopen hfile hserves, ?_⟩
    rw [provingKeySha256, hopen, hfile]
    exact hloop

theorem provingKeySha256_mono (world : fs.World) (path : fs.Path) (fuel more : ℕ)
    (outcome : Except (IoError fs) (Bytes 32))
    (h : provingKeySha256 fs fuel world path = some outcome) :
    provingKeySha256 fs (fuel + more) world path = some outcome := by
  rw [provingKeySha256] at h ⊢
  cases hopen : fs.openFile world path with
  | error error =>
    rw [hopen] at h
    exact h
  | ok file =>
    rw [hopen] at h
    exact hashLoop_mono more h

/-- The digest does not depend on how the reads cut the file, and an error is the system's. -/
theorem provingKeySha256_outcome (laws : fs.Lawful) (world : fs.World) (path : fs.Path) :
    ∃ outcome, DigestOutcome laws world path outcome ∧
      Settles (fun fuel => provingKeySha256 fs fuel world path)
        ((laws.content world path).getD []).length outcome := by
  obtain ⟨outcome, hdigest, hends⟩ := provingKeySha256_ends laws world path
  exact ⟨outcome, hdigest, settles_of_mono (provingKeySha256_mono world path) hends⟩

/-- A directory with one file. -/
def oneFile : FileSystem.memory.World :=
  fun path => if path = "pk.bin" then some [1, 2, 3] else none

theorem provingKeySha256_oneFile :
    provingKeySha256 FileSystem.memory 4 oneFile "pk.bin" = some (.ok (sha256 [1, 2, 3])) := by
  have hstored : oneFile "pk.bin" = some [1, 2, 3] := if_pos rfl
  have hfile : FileSystem.memoryLaws.content oneFile "pk.bin" = some [1, 2, 3] := hstored
  obtain ⟨outcome, hdigest, hrun⟩ :=
    provingKeySha256_outcome FileSystem.memoryLaws oneFile "pk.bin"
  have hfuel : ((FileSystem.memoryLaws.content oneFile "pk.bin").getD []).length < 4 := by
    rw [hfile]
    decide
  rw [hrun.enough 4 hfuel]
  cases hdigest with
  | digest hbytes => rw [Option.some.inj (hbytes.symm.trans hfile)]
  | notOpened hopen => cases hopen
  | notRead _ _ hread => cases hread

/-! ## The digest of a source -/

/-- A given digest is taken as it is. -/
inductive ProvingKeySource.Answers (laws : fs.Lawful) (world : fs.World) :
    ProvingKeySource fs → Except (IoError fs) (Bytes 32) → Prop
  | file {path : fs.Path} {outcome : Except (IoError fs) (Bytes 32)}
      (hdigest : DigestOutcome laws world path outcome) : Answers laws world (.file path) outcome
  | sha256 (digest : Bytes 32) : Answers laws world (.sha256 digest) (.ok digest)

/-- The turns that the digest of a source takes. -/
def ProvingKeySource.size (laws : fs.Lawful) (world : fs.World) : ProvingKeySource fs → ℕ
  | .file path => ((laws.content world path).getD []).length
  | .sha256 _ => 0

theorem ProvingKeySource.keySha256_settles (laws : fs.Lawful) (world : fs.World)
    (source : ProvingKeySource fs) :
    ∃ outcome, source.Answers laws world outcome ∧
      Settles (fun fuel => source.keySha256 fuel world) (source.size laws world) outcome := by
  cases source with
  | file path =>
    obtain ⟨outcome, hdigest, hends⟩ := provingKeySha256_ends laws world path
    exact ⟨outcome, Answers.file hdigest, settles_of_mono (provingKeySha256_mono world path) hends⟩
  | sha256 digest => exact ⟨.ok digest, Answers.sha256 digest, settles_some _ _⟩

end Groth16Solana
