import Groth16Solana.Foundations.Sha256
import Groth16Solana.Bn254.Decoder
import Groth16Solana.Verifier.AltBn128

/-! # A runtime that meets the assumptions

SHA-256, Montgomery arithmetic modulo the group order, the arkworks decoder and the group G1 are the
real ones. The second group is `ZMod r` with the pairing `(P, k) ↦ k • P`, decoded from the identity
and the generator of G2 only. -/

set_option autoImplicit false

namespace Groth16Solana
open Foundations

/-! ## Scalar field arithmetic on limbs -/

def limbsNat (limbs : BigInt4) : ℕ :=
  limbs[0].toNat + 2 ^ 64 * (limbs[1].toNat + 2 ^ 64 * (limbs[2].toNat + 2 ^ 64 * limbs[3].toNat))

def natLimbs (n : ℕ) : BigInt4 :=
  #v[UInt64.ofNat n, UInt64.ofNat (n / 2 ^ 64), UInt64.ofNat (n / 2 ^ 128),
    UInt64.ofNat (n / 2 ^ 192)]

/-- The inverse of the Montgomery radix `2^256` modulo the group order. -/
def montgomeryInv : ℕ :=
  9915499612839321149637521777990102151350674507940716049588462388200839649614

def montgomeryFr : ArkFr where
  new n := natLimbs (limbsNat n * 2 ^ 256 % frModulus)
  mul a b := natLimbs (limbsNat a * limbsNat b * montgomeryInv % frModulus)
  add a b := natLimbs ((limbsNat a + limbsNat b) % frModulus)

/-! ## The pairing -/

/-- `k • P`, which is well defined on `ZMod r` because the group has order `r`. -/
def scalarPairing : Pairing G1 (ZMod frModulus) (Multiplicative G1) :=
  AddMonoidHom.mk' (fun P => AddMonoidHom.mk'
      (fun k => Additive.ofMul (Multiplicative.ofAdd (k.val • P))) (by
        intro k l
        rw [ZMod.val_add, nsmul_mod, add_nsmul]
        rfl)) (by
    intro P Q
    ext k
    exact congrArg (fun R => Additive.ofMul (Multiplicative.ofAdd R)) (nsmul_add P Q k.val))

/-- The generator of G2 as the syscalls read it: `x.c1`, `x.c0`, `y.c1` and `y.c0`. -/
def g2GeneratorBytes : Bytes 128 :=
  Bytes.ofList
    (beList 32 11559732032986387107991004021392285783925812861821192530917403151452391805634 ++
      beList 32 10857046999023057135944570762232829481370756359578518086990519993285655852781 ++
      beList 32 4082367875863433681332203403145435568316851327593401208105741076214120093531 ++
      beList 32 8495653923123431417604973247489272438418190587263600148770280649306958101930)
    (by simp)

def referenceDecodeG2 (g2 : Bytes 128) : Option (ZMod frModulus) :=
  if g2 = Bytes.zero 128 then some 0 else if g2 = g2GeneratorBytes then some 1 else none

/-! ## The syscalls -/

def firstBytes (n : ℕ) (l : List UInt8) : Bytes n :=
  Bytes.ofList ((l ++ List.replicate n 0).take n) (by simp)

def readPairs : ℕ → List UInt8 → List (Bytes 64 × Bytes 128)
  | 0, _ => []
  | k + 1, l => (firstBytes 64 l, firstBytes 128 (l.drop 64)) :: readPairs k (l.drop 192)

open Classical in
noncomputable def referenceRuntime : Runtime where
  bsb22 := true
  altBn128G1Addition input := do
    let P ← arkDecodeG1 (firstBytes 64 input.toList)
    let Q ← arkDecodeG1 (firstBytes 64 (input.toList.drop 64))
    return encodeG1 (P + Q)
  altBn128G1Multiplication input := do
    let P ← arkDecodeG1 (firstBytes 64 input.toList)
    return encodeG1 (beNat (input.toList.drop 64) • P)
  altBn128Pairing input :=
    if input.length % 192 ≠ 0 then none
    else do
      let points ← decodePairs arkDecodeG1 referenceDecodeG2 (readPairs (input.length / 192) input)
      return beBytes 32 (if scalarPairing.product points = 1 then 1 else 0)
  sha256 := sha256
  fr := montgomeryFr

theorem firstBytes_append {n : ℕ} (bytes : Bytes n) (rest : List UInt8) :
    firstBytes n (bytes.toList ++ rest) = bytes := by
  refine Vector.toList_inj.mp ?_
  rw [firstBytes, Bytes.toList_ofList, List.append_assoc, List.take_left' (by simp)]

theorem pairBytes_length (pairs : List (Bytes 64 × Bytes 128)) :
    (pairBytes pairs).length = 192 * pairs.length := by
  induction pairs with
  | nil => rfl
  | cons p pairs ih =>
    rw [pairBytes, List.flatMap_cons, List.length_append, List.length_cons]
    rw [pairBytes] at ih
    rw [ih]
    simp
    omega

theorem readPairs_pairBytes (pairs : List (Bytes 64 × Bytes 128)) :
    readPairs pairs.length (pairBytes pairs) = pairs := by
  induction pairs with
  | nil => rfl
  | cons p pairs ih =>
    have hcons : pairBytes (p :: pairs) = p.1.toList ++ (p.2.toList ++ pairBytes pairs) := by
      rw [pairBytes, List.flatMap_cons, List.append_assoc]
      rfl
    have hdrop : (p.1.toList ++ (p.2.toList ++ pairBytes pairs)).drop 64 =
        p.2.toList ++ pairBytes pairs := List.drop_left' (by simp)
    have hdrop' : (p.1.toList ++ (p.2.toList ++ pairBytes pairs)).drop 192 = pairBytes pairs := by
      rw [← List.append_assoc]
      exact List.drop_left' (by simp)
    rw [hcons, List.length_cons, readPairs, hdrop, hdrop', firstBytes_append, firstBytes_append, ih]

/-- The reference runtime meets the assumptions. -/
noncomputable def referenceSyscalls :
    AltBn128 referenceRuntime (ZMod frModulus) (Multiplicative G1) where
  decodeG1 := arkDecodeG1
  decodeG2 := referenceDecodeG2
  e := scalarPairing
  decodeG1_encodeG1 := arkDecodeG1_encodeG1
  addition a b input h := by
    have hb : firstBytes 64 b.toList = b := by simpa using firstBytes_append b []
    have hdrop : (a.toList ++ b.toList).drop 64 = b.toList := List.drop_left' (by simp)
    simp only [referenceRuntime, h, firstBytes_append, hdrop, hb]
  multiplication a scalar input h := by
    have hdrop : (a.toList ++ scalar.toList).drop 64 = scalar.toList := List.drop_left' (by simp)
    simp only [referenceRuntime, h, firstBytes_append, hdrop]
  pairing pairs := by
    have hlen := pairBytes_length pairs
    have hmod : (pairBytes pairs).length % 192 = 0 := by omega
    have hdiv : (pairBytes pairs).length / 192 = pairs.length := by omega
    simp only [referenceRuntime, hmod, hdiv, readPairs_pairBytes, ne_eq, not_true_eq_false, if_false]
    congr!

/-! ## Small keys -/

/-- A key whose G1 points are `alpha` and `ic` and whose G2 points are all the generator. -/
def smallVk (alpha : G1) (ic : List G1) (vkCommitment : Option CommitmentVerifyingKey) :
    Groth16Verifyingkey where
  nrPubinputs := ic.length - 1 - vkCommitment.isSome.toNat
  vkAlphaG1 := encodeG1 alpha
  vkBetaG2 := g2GeneratorBytes
  vkGammaG2 := g2GeneratorBytes
  vkDeltaG2 := g2GeneratorBytes
  vkIc := ic.map encodeG1
  vkCommitment := vkCommitment

theorem referenceDecodeG2_generator : referenceDecodeG2 g2GeneratorBytes = some 1 := by
  have hne : g2GeneratorBytes ≠ Bytes.zero 128 := by decide +kernel
  rw [referenceDecodeG2, if_neg hne, if_pos rfl]

theorem referenceSyscalls_decodeG2 : referenceSyscalls.decodeG2 = referenceDecodeG2 := rfl

theorem referenceSyscalls_e : referenceSyscalls.e = scalarPairing := rfl

theorem decodeG2_generator : referenceSyscalls.decodeG2 g2GeneratorBytes = some 1 := by
  rw [referenceSyscalls_decodeG2, referenceDecodeG2_generator]

theorem g1Generator_ne_zero : g1Generator ≠ 0 := by
  intro h
  cases h

theorem scalarPairing_one (P : G1) :
    scalarPairing.pair P 1 = Multiplicative.ofAdd P := by
  have hone : (1 : ZMod frModulus).val = 1 := ZMod.val_one _
  change Multiplicative.ofAdd ((1 : ZMod frModulus).val • P) = _
  rw [hone, one_nsmul]

/-- A verifier for one public input, which is one. -/
def smallVerifier : Groth16Verifier 1 :=
  ⟨encodeG1 (-g1Generator), g2GeneratorBytes, encodeG1 (-g1Generator), #v[beBytes 32 1],
    Bytes.zero 64, smallVk g1Generator [0, g1Generator] none, none, none⟩

theorem smallVerifier_new :
    Groth16Verifier.new (encodeG1 (-g1Generator)) g2GeneratorBytes (encodeG1 (-g1Generator))
      #v[beBytes 32 1] (smallVk g1Generator [0, g1Generator] none) = .ok smallVerifier := rfl

end Groth16Solana
