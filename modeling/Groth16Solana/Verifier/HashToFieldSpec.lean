import Groth16Solana.Foundations.ExpandMessage
import Groth16Solana.Foundations.Words
import Groth16Solana.Verifier.Calls
import Groth16Solana.Verifier.Reference

/-! # What hash-to-field computes

The expander is the one of RFC 9380 for any hash function, and the reduction is the residue of the
expander's output modulo the group order, so no challenge fails the range check. -/

set_option autoImplicit false

namespace Groth16Solana
open Foundations

/-! ## The expander -/

section Expander
variable {msgLen dstLen : ℕ}

/-- The three preimages of the code are those of the standard. -/
theorem expandMessageXmd_eq_xmdExpand (rt : Runtime) (msg : Bytes msgLen) (dst : Bytes dstLen)
    (h : Admitted msgLen dstLen) :
    ∃ out, expandMessageXmdSha256L48 rt msg dst = some out ∧
      out.toList = xmdExpand rt.sha256 rInBytes lInBytes msg.toList dst.toList := by
  obtain ⟨out, hout, hbytes⟩ := expandMessageXmd_eq rt msg dst h
  have hdst : dstPrime dst = xmdDstPrime dst.toList := by
    rw [xmdDstPrime, Vector.length_toList]
    rfl
  refine ⟨out, hout, ?_⟩
  rw [xmdExpand_of_two_blocks _ _ _ _ _ (by decide), hbytes]
  simp only [xmdBlock_zero, xmdBlock_one, xmdBlock_two, strxor, preimage0, preimage, xorBlocks, hdst]

/-- No slice of the expander is out of bounds, and it returns the first 48 bytes of `b_1 || b_2`. The
hash function is arbitrary, so no other byte of the scratch buffer enters a preimage. -/
theorem expandMessageXmd_rfc9380 (rt : Runtime) (msg : Bytes msgLen) (dst : Bytes dstLen)
    (h : Admitted msgLen dstLen) :
    let dstPrime := dst.toList ++ beList 1 dstLen
    let b0 := (rt.sha256 (List.replicate 64 0 ++ msg.toList ++ beList 2 48 ++ [0x00] ++ dstPrime)).toList
    let b1 := (rt.sha256 (b0 ++ [0x01] ++ dstPrime)).toList
    let b2 := (rt.sha256 (List.zipWith (fun x y => x ^^^ y) b0 b1 ++ [0x02] ++ dstPrime)).toList
    ∃ out, expandMessageXmdSha256L48 rt msg dst = some out ∧ out.toList = (b1 ++ b2).take 48 := by
  intro dstPrime b0 b1 b2
  obtain ⟨out, hout, hbytes⟩ := expandMessageXmd_eq_xmdExpand rt msg dst h
  have hdst : dstPrime = xmdDstPrime dst.toList := by
    rw [xmdDstPrime, Vector.length_toList]
  have hb0 : b0 = xmdBlock rt.sha256 rInBytes lInBytes msg.toList dst.toList 0 := by
    rw [xmdBlock_zero, ← hdst, rInBytes, lInBytes]
  have hb1 : b1 = xmdBlock rt.sha256 rInBytes lInBytes msg.toList dst.toList 1 := by
    rw [xmdBlock_one, ← hdst, ← hb0]
  have hb2 : b2 = xmdBlock rt.sha256 rInBytes lInBytes msg.toList dst.toList 2 := by
    rw [xmdBlock_two, ← hdst, ← hb0, ← hb1, strxor]
  refine ⟨out, hout, ?_⟩
  rw [hbytes, xmdExpand_of_two_blocks _ _ _ _ _ (by decide), hb1, hb2, lInBytes]

theorem expandMessageXmd_rfc9380_commitment :
    let dstPrime := bsb22Dst.toList ++ beList 1 16
    let b0 := (referenceRuntime.sha256
      (List.replicate 64 0 ++ (Bytes.zero 64).toList ++ beList 2 48 ++ [0x00] ++ dstPrime)).toList
    let b1 := (referenceRuntime.sha256 (b0 ++ [0x01] ++ dstPrime)).toList
    let b2 := (referenceRuntime.sha256
      (List.zipWith (fun x y => x ^^^ y) b0 b1 ++ [0x02] ++ dstPrime)).toList
    ∃ out, expandMessageXmdSha256L48 referenceRuntime (Bytes.zero 64) bsb22Dst = some out ∧
      out.toList = (b1 ++ b2).take 48 :=
  expandMessageXmd_rfc9380 referenceRuntime (Bytes.zero 64) bsb22Dst admitted_commitment

end Expander

/-! ## Limbs -/

theorem limbsNat_eq (a b c d : UInt64) :
    limbsNat #v[a, b, c, d] = a.toNat + 2 ^ 64 * (b.toNat + 2 ^ 64 * (c.toNat + 2 ^ 64 * d.toNat)) := rfl

/-- A half of the expander's output has three limbs. -/
theorem limbsNat_half_lt (a b c : UInt64) : limbsNat #v[a, b, c, 0] < 2 ^ 192 := by
  have ha := a.toNat_lt
  have hb := b.toNat_lt
  have hc := c.toNat_lt
  rw [limbsNat_eq, UInt64.toNat_zero]
  omega

theorem wordsNat_reverse (limbs : BigInt4) : wordsNat limbs.toList.reverse = limbsNat limbs := by
  obtain ⟨⟨l⟩, hl⟩ := limbs
  rcases l with _ | ⟨a, _ | ⟨b, _ | ⟨c, _ | ⟨d, _ | ⟨e, l⟩⟩⟩⟩⟩
  · simp at hl
  · simp at hl
  · simp at hl
  · simp at hl
  · change wordsNat [d, c, b, a] = limbsNat #v[a, b, c, d]
    rw [limbsNat_eq]
    simp only [wordsNat, List.length_cons, List.length_nil]
    omega
  · simp at hl

/-! ## The reduction -/

/-- What arkworks documents of `Fr`: `new` stores `n * R`, a product stores `a * b * R⁻¹` and a sum
`a + b`, all modulo the group order, for the Montgomery radix `R = 2^256`. -/
structure MontgomeryForm (fr : ArkFr) : Prop where
  new : ∀ n, limbsNat (fr.new n) = limbsNat n * 2 ^ 256 % frModulus
  mul : ∀ a b, limbsNat a < frModulus → limbsNat b < frModulus →
    limbsNat (fr.mul a b) = limbsNat a * limbsNat b * montgomeryInv % frModulus
  add : ∀ a b, limbsNat a < frModulus → limbsNat b < frModulus →
    limbsNat (fr.add a b) = (limbsNat a + limbsNat b) % frModulus

theorem montgomeryInv_mul : 2 ^ 256 * montgomeryInv % frModulus = 1 := by decide +kernel

theorem frModulus_pos : 0 < frModulus := by decide

theorem two_pow_lt_frModulus : 2 ^ 192 < frModulus := by decide +kernel

theorem MontgomeryForm.mul_new {fr : ArkFr} (hfr : MontgomeryForm fr) {a n : BigInt4}
    (ha : limbsNat a < frModulus) :
    limbsNat (fr.mul a (fr.new n)) = limbsNat a * limbsNat n % frModulus := by
  have hnew := hfr.new n
  have hlt : limbsNat (fr.new n) < frModulus := by
    rw [hnew]
    exact Nat.mod_lt _ frModulus_pos
  rw [hfr.mul a _ ha hlt, hnew]
  have hstored : limbsNat a * (limbsNat n * 2 ^ 256 % frModulus) * montgomeryInv ≡
      limbsNat a * limbsNat n * (2 ^ 256 * montgomeryInv) [MOD frModulus] := by
    have hfactor := (Nat.mod_modEq (limbsNat n * 2 ^ 256) frModulus).mul_left (limbsNat a)
    have hmod := hfactor.mul_right montgomeryInv
    have hassoc : limbsNat a * (limbsNat n * 2 ^ 256) * montgomeryInv =
        limbsNat a * limbsNat n * (2 ^ 256 * montgomeryInv) := by ring
    rwa [hassoc] at hmod
  have hone : 2 ^ 256 * montgomeryInv ≡ 1 [MOD frModulus] :=
    montgomeryInv_mul.trans (Nat.mod_eq_of_lt (by decide)).symm
  have hproduct := hstored.trans (hone.mul_left (limbsNat a * limbsNat n))
  rwa [Nat.mul_one] at hproduct

/-- The six words of the buffer are the limbs of its two halves. -/
theorem beNat_eq_halves (raw : Bytes lInBytes) :
    let limb (i : ℕ) : UInt64 := UInt64.ofNat (beNat ((raw.toList.drop (8 * i)).take 8))
    beNat raw.toList =
      limbsNat #v[limb 2, limb 1, limb 0, 0] * 2 ^ 192 + limbsNat #v[limb 5, limb 4, limb 3, 0] := by
  intro limb
  have hwords : beWords 6 raw.toList = [limb 0, limb 1, limb 2, limb 3, limb 4, limb 5] := by
    simp only [beWords, List.drop_drop]
    rfl
  have hvalue : wordsNat (beWords 6 raw.toList) = beNat raw.toList :=
    wordsNat_beWords 6 raw.toList (by rw [Vector.length_toList]; rfl)
  rw [← hvalue, hwords, limbsNat_eq, limbsNat_eq, UInt64.toNat_zero]
  simp only [wordsNat, List.length_cons, List.length_nil]
  omega

theorem limbsNat_reduceBeL48 {rt : Runtime} (hfr : MontgomeryForm rt.fr) (raw : Bytes lInBytes) :
    limbsNat (reduceBeL48 rt raw) = beNat raw.toList % frModulus := by
  have hsplit := beNat_eq_halves raw
  simp only [reduceBeL48] at hsplit ⊢
  generalize UInt64.ofNat (beNat ((raw.toList.drop (8 * 0)).take 8)) = h2 at *
  generalize UInt64.ofNat (beNat ((raw.toList.drop (8 * 1)).take 8)) = h1 at *
  generalize UInt64.ofNat (beNat ((raw.toList.drop (8 * 2)).take 8)) = h0 at *
  generalize UInt64.ofNat (beNat ((raw.toList.drop (8 * 3)).take 8)) = l2 at *
  generalize UInt64.ofNat (beNat ((raw.toList.drop (8 * 4)).take 8)) = l1 at *
  generalize UInt64.ofNat (beNat ((raw.toList.drop (8 * 5)).take 8)) = l0 at *
  have hhigh := (limbsNat_half_lt h0 h1 h2).trans two_pow_lt_frModulus
  have hlow := (limbsNat_half_lt l0 l1 l2).trans two_pow_lt_frModulus
  have hpow : limbsNat #v[0, 0, 0, 1] = 2 ^ 192 := by decide
  have hmul := hfr.mul_new (n := #v[0, 0, 0, 1]) hhigh
  rw [hpow] at hmul
  have hlt : limbsNat (rt.fr.mul #v[h0, h1, h2, 0] (rt.fr.new #v[0, 0, 0, 1])) < frModulus := by
    rw [hmul]
    exact Nat.mod_lt _ frModulus_pos
  rw [hfr.add _ _ hlt hlow, hmul, hsplit, Nat.mod_add_mod]

theorem toList_hashToFieldBn254Fr (rt : Runtime) {msgLen dstLen : ℕ} (msg : Bytes msgLen)
    (dst : Bytes dstLen) (h : Admitted msgLen dstLen) {raw : Bytes lInBytes}
    (hraw : expandMessageXmdSha256L48 rt msg dst = some raw) :
    (hashToFieldBn254Fr rt msg dst h).toList = beList 32 (limbsNat (reduceBeL48 rt raw)) := by
  have hget : (expandMessageXmdSha256L48 rt msg dst).get (expandMessageXmd_isSome rt msg dst h) = raw :=
    Option.get_of_eq_some _ hraw
  have hbytes : (hashToFieldBn254Fr rt msg dst h).toList =
      wordBytes (reduceBeL48 rt raw).toList.reverse := by
    rw [hashToFieldBn254Fr, Bytes.toList_ofList, hget, wordBytes]
  rw [hbytes, wordBytes_eq_beList, wordsNat_reverse, List.length_reverse, Vector.length_toList]

theorem frModulus_lt_bytes : frModulus < 256 ^ 32 := by decide +kernel

/-- The reduction is exact, its value is below the group order, and what `hash_to_field_bn254_fr` writes
is the one 32-byte encoding of it; so the challenge of every commitment is in range. -/
theorem reduceBeL48_exact (rt : Runtime) (hfr : MontgomeryForm rt.fr) :
    (∀ raw, limbsNat (reduceBeL48 rt raw) = beNat raw.toList % frModulus ∧
      limbsNat (reduceBeL48 rt raw) < frModulus) ∧
    (∀ {msgLen dstLen : ℕ} (msg : Bytes msgLen) (dst : Bytes dstLen) (h : Admitted msgLen dstLen),
      ∃ raw, expandMessageXmdSha256L48 rt msg dst = some raw ∧
        ∀ bytes : Bytes 32, hashToFieldBn254Fr rt msg dst h = bytes ↔
          beNat bytes.toList = beNat raw.toList % frModulus) ∧
    ∀ commitment, isLessThanBn254FieldSizeBe (commitmentHash rt commitment) = true := by
  have hreduce (raw : Bytes lInBytes) : limbsNat (reduceBeL48 rt raw) < frModulus := by
    rw [limbsNat_reduceBeL48 hfr]
    exact Nat.mod_lt _ frModulus_pos
  have hvalue {msgLen dstLen : ℕ} (msg : Bytes msgLen) (dst : Bytes dstLen) (h : Admitted msgLen dstLen) :
      ∃ raw, expandMessageXmdSha256L48 rt msg dst = some raw ∧
        beNat (hashToFieldBn254Fr rt msg dst h).toList = beNat raw.toList % frModulus := by
    obtain ⟨raw, hraw⟩ := Option.isSome_iff_exists.mp (expandMessageXmd_isSome rt msg dst h)
    refine ⟨raw, hraw, ?_⟩
    rw [toList_hashToFieldBn254Fr rt msg dst h hraw,
      beNat_beList_of_lt ((hreduce raw).trans frModulus_lt_bytes), limbsNat_reduceBeL48 hfr]
  refine ⟨fun raw => ⟨limbsNat_reduceBeL48 hfr raw, hreduce raw⟩, ?_, ?_⟩
  · intro msgLen dstLen msg dst h
    obtain ⟨raw, hraw, hresidue⟩ := hvalue msg dst h
    refine ⟨raw, hraw, fun bytes => ?_⟩
    constructor
    · rintro rfl
      exact hresidue
    · intro hbytes
      exact Vector.toList_inj.mp (beNat_inj (by simp) (hresidue.trans hbytes.symm))
  · intro commitment
    obtain ⟨raw, -, hresidue⟩ := hvalue commitment bsb22Dst admitted_commitment
    rw [isLessThan_iff, commitmentHash, hresidue]
    exact Nat.mod_lt _ frModulus_pos

theorem limbsNat_natLimbs {n : ℕ} (h : n < frModulus) : limbsNat (natLimbs n) = n := by
  have hlt := h.trans frModulus_lt_bytes
  rw [natLimbs, limbsNat_eq]
  simp only [UInt64.toNat_ofNat']
  omega

theorem montgomeryForm_montgomeryFr : MontgomeryForm montgomeryFr where
  new _ := limbsNat_natLimbs (Nat.mod_lt _ frModulus_pos)
  mul _ _ _ _ := limbsNat_natLimbs (Nat.mod_lt _ frModulus_pos)
  add _ _ _ _ := limbsNat_natLimbs (Nat.mod_lt _ frModulus_pos)

theorem reduceBeL48_exact_reference :
    limbsNat (reduceBeL48 referenceRuntime (Vector.replicate lInBytes 0xff)) =
      (2 ^ 384 - 1) % frModulus := by
  have hexact := reduceBeL48_exact referenceRuntime montgomeryForm_montgomeryFr
  rw [(hexact.1 _).1]
  have hones : beNat (Vector.replicate lInBytes (0xff : UInt8)).toList = 2 ^ 384 - 1 := by decide +kernel
  exact congrArg (· % frModulus) hones

end Groth16Solana
