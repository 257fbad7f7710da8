import Groth16Solana.Foundations.Bytes

/-! # Files

The calls a program makes on files, with the answers left to the system: any of them can fail, and a
read returns as many bytes as it likes. `Lawful` says what can be relied on. A program that reads in
a loop sees the chunks of a run of reads, and in a lawful system they are the file from front to
back. -/

set_option autoImplicit false

namespace Foundations

structure FileSystem where
  Path : Type
  World : Type
  /-- An open file at some position. -/
  Handle : Type
  Error : Type
  join : Path → String → Path
  openFile : World → Path → Except Error Handle
  /-- One read into a buffer: the count, the buffer and the handle after it. -/
  read : {n : ℕ} → Handle → Bytes n → Except Error ℕ × Bytes n × Handle
  readFile : World → Path → Except Error (List UInt8)
  createDirAll : World → Path → Except Error Unit × World
  write : World → Path → List UInt8 → Except Error Unit × World

namespace FileSystem

variable {fs : FileSystem} {n : ℕ}

/-- What holds of the files of a system, where `Serves` relates a handle to the bytes in front of
it. -/
structure Lawful (fs : FileSystem) where
  content : fs.World → fs.Path → Option (List UInt8)
  Serves : fs.Handle → List UInt8 → Prop
  openFile_serves : ∀ {world path handle}, fs.openFile world path = .ok handle →
    ∃ bytes, content world path = some bytes ∧ Serves handle bytes
  read_serves : ∀ {n count} {handle handle' : fs.Handle} {buf buf' : Bytes n} {bytes},
    Serves handle bytes → fs.read handle buf = (.ok count, buf', handle') →
      count ≤ n ∧ (count = 0 → n = 0 ∨ bytes = []) ∧
        ∃ rest, bytes = buf'.toList.take count ++ rest ∧ Serves handle' rest
  readFile_content : ∀ {world path bytes}, fs.readFile world path = .ok bytes →
    content world path = some bytes
  createDirAll_content : ∀ world path, content (fs.createDirAll world path).2 = content world
  write_content : ∀ {world world' path bytes}, fs.write world path bytes = (.ok (), world') →
    content world' path = some bytes

/-- A write touches no other file, whether it succeeds or not. -/
def Lawful.WritesApart (laws : Lawful fs) : Prop :=
  ∀ (world : fs.World) (path : fs.Path) (bytes : List UInt8) (other : fs.Path), other ≠ path →
    laws.content (fs.write world path bytes).2 other = laws.content world other

/-! ## Runs of reads -/

/-- Reads that each return some bytes lead from one handle and buffer to another. -/
inductive Drains (fs : FileSystem) {n : ℕ} :
    fs.Handle → Bytes n → List (List UInt8) → fs.Handle → Bytes n → Prop
  | nil (handle : fs.Handle) (buf : Bytes n) : Drains fs handle buf [] handle buf
  | cons {handle handle' handle'' : fs.Handle} {buf buf' buf'' : Bytes n} {count : ℕ}
      {chunks : List (List UInt8)} (hread : fs.read handle buf = (.ok count, buf', handle'))
      (hpos : count ≠ 0) (hle : count ≤ n) (hrest : Drains fs handle' buf' chunks handle'' buf'') :
    Drains fs handle buf (buf'.toList.take count :: chunks) handle'' buf''

/-- The chunks of a file are its beginning, and there are at most as many as it has bytes. -/
theorem Lawful.drains_serves (laws : Lawful fs) {handle handle' : fs.Handle} {buf buf' : Bytes n}
    {chunks : List (List UInt8)} (h : Drains fs handle buf chunks handle' buf')
    {bytes : List UInt8} (hserves : laws.Serves handle bytes) :
    ∃ rest, bytes = chunks.flatten ++ rest ∧ laws.Serves handle' rest ∧
      chunks.length + rest.length ≤ bytes.length := by
  induction h generalizing bytes with
  | nil handle buf => exact ⟨bytes, rfl, hserves, by simp⟩
  | @cons _ _ _ _ buf _ count _ hread hpos hle _ ih =>
    obtain ⟨-, -, rest, hbytes, hserves'⟩ := laws.read_serves hserves hread
    obtain ⟨rest', hrest, hserves'', hlen⟩ := ih hserves'
    refine ⟨rest', ?_, hserves'', ?_⟩
    · rw [hbytes, hrest, List.flatten_cons, List.append_assoc]
    · have hchunk : (buf.toList.take count).length = count :=
        List.length_take_of_le (by rwa [Vector.length_toList])
      rw [hbytes, List.length_append, List.length_cons, hchunk]
      omega

/-! ## Files in memory -/

/-- A system whose operations never fail on files that exist. -/
def memory : FileSystem where
  Path := String
  World := String → Option (List UInt8)
  Handle := List UInt8
  Error := String
  join dir name := dir ++ "/" ++ name
  openFile world path :=
    match world path with
    | some bytes => .ok bytes
    | none => .error "no such file"
  read {n} handle buf :=
    (.ok (min n handle.length),
      Bytes.ofList (handle.take n ++ buf.toList.drop (handle.take n).length) (by
        rw [List.length_append, List.length_drop, Vector.length_toList, List.length_take]
        omega),
      handle.drop n)
  readFile world path :=
    match world path with
    | some bytes => .ok bytes
    | none => .error "no such file"
  createDirAll world _ := (.ok (), world)
  write world path bytes := (.ok (), fun other => if other = path then some bytes else world other)

def memoryLaws : Lawful memory where
  content world path := world path
  Serves handle bytes := handle = bytes
  openFile_serves := by
    intro world path handle h
    simp only [memory] at h
    cases hpath : world path with
    | none =>
      rw [hpath] at h
      cases h
    | some bytes =>
      rw [hpath] at h
      obtain rfl := Except.ok.inj h
      exact ⟨_, rfl, rfl⟩
  read_serves := by
    intro n count handle handle' buf buf' bytes hserves h
    obtain rfl : handle = bytes := hserves
    obtain ⟨hcount, h⟩ := Prod.mk.inj h
    obtain ⟨rfl, rfl⟩ := Prod.mk.inj h
    obtain rfl := Except.ok.inj hcount
    have hchunk : ∀ stored : List UInt8, min n stored.length = 0 → n = 0 ∨ stored = [] := by
      intro stored hzero
      rw [← List.length_eq_zero_iff]
      omega
    have hfront : ∀ stored rest : List UInt8,
        stored = (stored.take n ++ rest).take (min n stored.length) ++ stored.drop n := by
      intro stored rest
      rw [List.take_left' List.length_take, List.take_append_drop]
    refine ⟨Nat.min_le_left _ _, hchunk handle, List.drop n handle, ?_, rfl⟩
    rw [Bytes.toList_ofList]
    exact hfront handle _
  readFile_content := by
    intro world path bytes h
    simp only [memory] at h
    cases hpath : world path with
    | none =>
      rw [hpath] at h
      cases h
    | some bytes' =>
      rw [hpath] at h
      rw [Except.ok.inj h]
  createDirAll_content world path := rfl
  write_content := by
    intro world world' path bytes h
    obtain ⟨-, rfl⟩ := Prod.mk.inj h
    exact if_pos rfl

theorem memory_writesApart : memoryLaws.WritesApart := by
  intro world path bytes other hne
  exact if_neg hne

section Memory
variable {world : memory.World} {path : memory.Path} {bytes : List UInt8}

theorem memory_readFile (h : memoryLaws.content world path = some bytes) :
    memory.readFile world path = .ok bytes := by
  have hworld : world path = some bytes := h
  simp only [memory, hworld]

theorem memory_openFile (h : memoryLaws.content world path = some bytes) :
    memory.openFile world path = .ok bytes := by
  have hworld : world path = some bytes := h
  simp only [memory, hworld]

end Memory

end FileSystem

end Foundations
