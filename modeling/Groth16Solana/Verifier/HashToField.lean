import Groth16Solana.Foundations.BigEndian
import Groth16Solana.Verifier.Syscalls

/-! # BSB22 hash-to-field (`hash_to_field.rs`)

The expander writes its three preimages into one scratch buffer at hand-kept offsets. Its slice
operations are the checked ones, so `none` is a panic, and `expandMessageXmd_eq` shows that the
two compile-time assertions rule it out and what the three preimages are. -/

set_option autoImplicit false

namespace Groth16Solana
open Foundations

/-- `B_IN_BYTES`: SHA-256 output size. -/
def bInBytes : ℕ := 32

/-- `R_IN_BYTES`: SHA-256 block size. -/
def rInBytes : ℕ := 64

/-- `L`: the output length of the expander. -/
def lInBytes : ℕ := 48

def maxScratch : ℕ := 256

/-- The two compile-time assertions of the expander. -/
structure Admitted (msgLen dstLen : ℕ) : Prop where
  dst_le : dstLen ≤ 255
  b0_le : rInBytes + msgLen + 2 + 1 + (dstLen + 1) ≤ maxScratch

/-! ## `expand_message_xmd` -/

section Expander
variable {n msgLen dstLen : ℕ}

/-- The closure `append_dst_prime`: writes `dst || I2OSP(len(dst), 1)`, returns the new offset. -/
def appendDstPrime (dst : Bytes dstLen) (scratch : Bytes n) (offset : ℕ) :
    Option (Bytes n × ℕ) := do
  let scratch ← scratch.copyFromSlice? offset (offset + dstLen) dst.toList
  let scratch ← scratch.setByte? (offset + dstLen) (UInt8.ofNat dstLen)
  return (scratch, offset + dstLen + 1)

/-- The loop that overwrites the first `B_IN_BYTES` of the buffer with `b0 XOR b1`. -/
def xorInto (scratch : Bytes n) (b0 b1 : Bytes 32) : Bytes n :=
  let xored := (List.zipWith (fun x y => x ^^^ y) b0.toList b1.toList).take bInBytes
  Bytes.ofList ((xored ++ scratch.toList.drop xored.length).take n) (by
    simp only [List.length_take, List.length_append, List.length_drop, Vector.length_toList]
    omega)

def expandMessageXmdSha256L48 (rt : Runtime) (msg : Bytes msgLen) (dst : Bytes dstLen) :
    Option (Bytes lInBytes) := do
  let scratch := Bytes.zero maxScratch
  -- b_0 = H(z_pad || msg || l_i_b_str || 0x00 || DST_prime); the scratch buffer starts as z_pad
  let offset := rInBytes
  let scratch ← scratch.copyFromSlice? offset (offset + msgLen) msg.toList
  let offset := offset + msgLen
  let scratch ← scratch.copyFromSlice? offset (offset + 2) (beList 2 lInBytes)
  let offset := offset + 2
  let scratch ← scratch.setByte? offset 0x00
  let offset := offset + 1
  let (scratch, offset) ← appendDstPrime dst scratch offset
  let b0 := rt.sha256 (← scratch.sliceTo? offset)
  -- b_1 = H(b_0 || I2OSP(1, 1) || DST_prime)
  let offset := 0
  let scratch ← scratch.copyFromSlice? offset (offset + bInBytes) b0.toList
  let offset := offset + bInBytes
  let scratch ← scratch.setByte? offset 0x01
  let offset := offset + 1
  let (scratch, offset) ← appendDstPrime dst scratch offset
  let b1 := rt.sha256 (← scratch.sliceTo? offset)
  -- b_2 = H((b_0 XOR b_1) || I2OSP(2, 1) || DST_prime)
  let scratch := xorInto scratch b0 b1
  let offset := bInBytes
  let scratch ← scratch.setByte? offset 0x02
  let offset := offset + 1
  let (scratch, offset) ← appendDstPrime dst scratch offset
  let b2 := rt.sha256 (← scratch.sliceTo? offset)
  -- uniform_bytes = (b_1 || b_2)[..L]
  let out := Bytes.zero lInBytes
  let out ← out.copyFromSlice? 0 bInBytes b1.toList
  out.copyFromSlice? bInBytes lInBytes (← b2.sliceTo? (lInBytes - bInBytes))

/-- `DST_prime`. -/
def dstPrime (dst : Bytes dstLen) : List UInt8 := dst.toList ++ [UInt8.ofNat dstLen]

/-- The preimage of `b_0`. -/
def preimage0 (msg : Bytes msgLen) (dst : Bytes dstLen) : List UInt8 :=
  List.replicate rInBytes 0 ++ msg.toList ++ beList 2 lInBytes ++ [0x00] ++ dstPrime dst

/-- The preimage of `b_1` and `b_2`: a chained block, its number and `DST_prime`. -/
def preimage (block : List UInt8) (number : UInt8) (dst : Bytes dstLen) : List UInt8 :=
  block ++ [number] ++ dstPrime dst

def xorBlocks (b0 b1 : Bytes 32) : List UInt8 :=
  List.zipWith (fun x y => x ^^^ y) b0.toList b1.toList

@[simp] theorem xorBlocks_length (b0 b1 : Bytes 32) : (xorBlocks b0 b1).length = 32 := by
  simp [xorBlocks]

theorem appendDstPrime_prefix (dst : Bytes dstLen) {scratch : Bytes n} {offset : ℕ}
    {known : List UInt8} (hbuf : scratch.toList.take offset = known) (hlen : known.length = offset)
    (hn : offset + dstLen + 1 ≤ n) :
    ∃ scratch', appendDstPrime dst scratch offset = some (scratch', offset + dstLen + 1) ∧
      scratch'.toList.take (offset + dstLen + 1) = known ++ dstPrime dst := by
  have hdst : dst.toList.length = dstLen := dst.length_toList
  obtain ⟨s₁, hs₁, hk₁⟩ := Bytes.copyFromSlice?_prefix dst.toList hbuf hlen
    (show offset + dst.toList.length = offset + dstLen by rw [hdst]) (by omega)
  obtain ⟨s₂, hs₂, hk₂⟩ := Bytes.setByte?_prefix (UInt8.ofNat dstLen) hk₁
    (by rw [List.length_append, hlen, hdst]) hn
  refine ⟨s₂, ?_, ?_⟩
  · simp [appendDstPrime, hs₁, hs₂]
  · rw [hk₂, List.append_assoc, dstPrime]

/-- The round that hashes what the buffer holds up to `DST_prime`. -/
theorem round_prefix (dst : Bytes dstLen) (number : UInt8) {scratch : Bytes n} {offset : ℕ}
    {known : List UInt8} (hbuf : scratch.toList.take offset = known)
    (hlen : known.length = offset) (hn : offset + 1 + dstLen + 1 ≤ n) :
    ∃ s₁ s₂, scratch.setByte? offset number = some s₁ ∧
      appendDstPrime dst s₁ (offset + 1) = some (s₂, offset + 1 + dstLen + 1) ∧
      s₂.sliceTo? (offset + 1 + dstLen + 1) = some (preimage known number dst) := by
  obtain ⟨s₁, hs₁, hk₁⟩ := Bytes.setByte?_prefix number hbuf hlen (by omega)
  obtain ⟨s₂, hs₂, hk₂⟩ := appendDstPrime_prefix dst hk₁ (by simp [hlen]) hn
  refine ⟨s₁, s₂, hs₁, hs₂, ?_⟩
  rw [Bytes.sliceTo?_eq hn, hk₂, preimage]

theorem xorInto_prefix (scratch : Bytes n) (b0 b1 : Bytes 32) (hn : 32 ≤ n) :
    (xorInto scratch b0 b1).toList.take 32 = xorBlocks b0 b1 := by
  have hlen : (xorBlocks b0 b1).length = 32 := xorBlocks_length b0 b1
  have htake : (xorBlocks b0 b1).take bInBytes = xorBlocks b0 b1 :=
    List.take_of_length_le (by rw [hlen]; rfl)
  change ((((xorBlocks b0 b1).take bInBytes) ++ _).take n).take 32 = _
  rw [htake, List.take_take, Nat.min_eq_left hn]
  exact List.take_left' hlen

/-- What the expander returns: the first 48 bytes of `b_1 || b_2`. -/
theorem expandMessageXmd_eq (rt : Runtime) (msg : Bytes msgLen) (dst : Bytes dstLen)
    (h : Admitted msgLen dstLen) :
    ∃ out, expandMessageXmdSha256L48 rt msg dst = some out ∧
      let b0 := rt.sha256 (preimage0 msg dst)
      let b1 := rt.sha256 (preimage b0.toList 0x01 dst)
      let b2 := rt.sha256 (preimage (xorBlocks b0 b1) 0x02 dst)
      out.toList = (b1.toList ++ b2.toList).take lInBytes := by
  have hmax : 64 + msgLen + 2 + 1 + (dstLen + 1) ≤ 256 := h.b0_le
  -- round 0: the buffer's leading zeros are `z_pad`
  have hk₀ : (Bytes.zero maxScratch).toList.take rInBytes = List.replicate rInBytes 0 := rfl
  obtain ⟨s₁, hs₁, hk₁⟩ := Bytes.copyFromSlice?_prefix msg.toList hk₀ (by simp)
    (show _ = rInBytes + msgLen by simp) (by simp only [rInBytes, maxScratch]; omega)
  obtain ⟨s₂, hs₂, hk₂⟩ := Bytes.copyFromSlice?_prefix (beList 2 lInBytes) hk₁ (by simp)
    (show _ = rInBytes + msgLen + 2 by simp) (by simp only [rInBytes, maxScratch]; omega)
  obtain ⟨s₃, s₄, hs₃, hs₄, hp₀⟩ := round_prefix dst 0x00 hk₂ (by simp; omega)
    (by simp only [rInBytes, maxScratch]; omega)
  generalize hb0 : rt.sha256 (preimage0 msg dst) = b0
  have hb0' : rt.sha256 (preimage (List.replicate rInBytes 0 ++ msg.toList ++ beList 2 lInBytes)
      0x00 dst) = b0 := hb0
  -- round 1: `b_0` overwrites the start of the buffer
  obtain ⟨s₅, hs₅, hk₅⟩ := Bytes.copyFromSlice?_prefix b0.toList
    (show s₄.toList.take 0 = [] by simp) rfl
    (show _ = 0 + bInBytes by simp [bInBytes]) (by simp only [bInBytes, maxScratch]; omega)
  obtain ⟨s₆, s₇, hs₆, hs₇, hp₁⟩ := round_prefix dst 0x01 hk₅ (by simp [bInBytes])
    (by simp only [bInBytes, maxScratch]; omega)
  generalize hb1 : rt.sha256 (preimage b0.toList 0x01 dst) = b1
  have hb1' : rt.sha256 (preimage ([] ++ b0.toList) 0x01 dst) = b1 := hb1
  -- round 2: the xor loop overwrites it again
  have hk₈ : (xorInto s₇ b0 b1).toList.take bInBytes = xorBlocks b0 b1 :=
    xorInto_prefix s₇ b0 b1 (by decide)
  obtain ⟨s₈, s₉, hs₈, hs₉, hp₂⟩ := round_prefix dst 0x02 hk₈ (by simp [bInBytes])
    (by simp only [bInBytes, maxScratch]; omega)
  generalize hb2 : rt.sha256 (preimage (xorBlocks b0 b1) 0x02 dst) = b2
  -- the output buffer
  obtain ⟨o₁, ho₁, hko₁⟩ := Bytes.copyFromSlice?_prefix b1.toList
    (show (Bytes.zero lInBytes).toList.take 0 = [] by simp) rfl
    (show _ = bInBytes by simp [bInBytes]) (by simp [bInBytes, lInBytes])
  have hs₁₀ : b2.sliceTo? (lInBytes - bInBytes) = some (b2.toList.take 16) :=
    Bytes.sliceTo?_eq (by decide)
  obtain ⟨o₂, ho₂, hko₂⟩ := Bytes.copyFromSlice?_prefix (b2.toList.take 16) hko₁
    (by simp [bInBytes]) (show _ = lInBytes by simp [bInBytes, lInBytes]) (by simp [lInBytes])
  refine ⟨o₂, ?_, ?_⟩
  · unfold expandMessageXmdSha256L48
    simp only [hs₁, hs₂, hs₃, hs₄, hp₀, hb0', hs₅, hs₆, hs₇, hp₁, hb1', hs₈, hs₉, hp₂, hb2, ho₁,
      hs₁₀, ho₂, Option.bind_eq_bind, Option.bind_some]
  · have htake : o₂.toList.take lInBytes = o₂.toList := List.take_of_length_le (by simp)
    simp only [hb1, hb2]
    rw [← htake, hko₂, List.nil_append, List.take_append,
      List.take_of_length_le (show b1.toList.length ≤ lInBytes by simp [lInBytes])]
    simp [lInBytes]

theorem expandMessageXmd_isSome (rt : Runtime) (msg : Bytes msgLen) (dst : Bytes dstLen)
    (h : Admitted msgLen dstLen) : (expandMessageXmdSha256L48 rt msg dst).isSome := by
  obtain ⟨out, hout, -⟩ := expandMessageXmd_eq rt msg dst h
  rw [hout, Option.isSome_some]

end Expander

/-! ## Reduction modulo the group order -/

/-- `reduce_be_l48`: the six words of the expander's output, most significant first, as two
integers below `2^192`; the product with the Montgomery form of `2^192` is the only conversion. -/
def reduceBeL48 (rt : Runtime) (raw : Bytes lInBytes) : BigInt4 :=
  let limb (i : ℕ) : UInt64 := UInt64.ofNat (beNat ((raw.toList.drop (8 * i)).take 8))
  let twoPow192 := rt.fr.new #v[0, 0, 0, 1]
  rt.fr.add (rt.fr.mul #v[limb 2, limb 1, limb 0, 0] twoPow192) #v[limb 5, limb 4, limb 3, 0]

/-- `hash_to_field_bn254_fr`. The compile-time assertions are its last argument. -/
def hashToFieldBn254Fr (rt : Runtime) {msgLen dstLen : ℕ} (msg : Bytes msgLen) (dst : Bytes dstLen)
    (h : Admitted msgLen dstLen) : Bytes 32 :=
  let raw := (expandMessageXmdSha256L48 rt msg dst).get (expandMessageXmd_isSome rt msg dst h)
  let limbs := (reduceBeL48 rt raw).toList
  Bytes.ofList (limbs.reverse.flatMap fun limb => beList 8 limb.toNat) (by
    simp [List.length_flatMap, List.map_const', limbs])

end Groth16Solana
