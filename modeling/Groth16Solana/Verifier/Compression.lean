import Groth16Solana.Circom.ProofPoints
import Groth16Solana.Verifier.Encodings
import Groth16Solana.Verifier.GroupRuntime

/-! # Compressed proofs (`decompression.rs`, `convert_proof_to_compressed`)

A compressed point is its first coordinate with the sign of the second one in the flags. The four calls
are those of the runtime; they are taken as arkworks has them. -/

set_option autoImplicit false

namespace Groth16Solana
open Foundations

/-- The compression calls; `none` is a failure. -/
structure Compression where
  g1CompressBe : Bytes 64 → Option (Bytes 32)
  g2CompressBe : Bytes 128 → Option (Bytes 64)
  g1DecompressBe : Bytes 32 → Option (Bytes 64)
  g2DecompressBe : Bytes 64 → Option (Bytes 128)

section
variable (calls : Compression)

def decompressG1 (g1Bytes : Bytes 32) : Except Groth16Error (Bytes 64) :=
  okOr .decompressingG1Failed (calls.g1DecompressBe g1Bytes)

def decompressG2 (g2Bytes : Bytes 64) : Except Groth16Error (Bytes 128) :=
  okOr .decompressingG2Failed (calls.g2DecompressBe g2Bytes)

def convertProofToCompressed (proofA : Bytes 64) (proofB : Bytes 128) (proofC : Bytes 64) :
    Except Groth16Error (Bytes 32 × Bytes 64 × Bytes 32) := do
  let compressedA ← okOr .proofConversionError (calls.g1CompressBe proofA)
  let compressedC ← okOr .proofConversionError (calls.g1CompressBe proofC)
  let compressedB ← okOr .proofConversionError (calls.g2CompressBe proofB)
  return (compressedA, compressedB, compressedC)

end

/-! ## The compressed form -/

def signMask (positive : Bool) : UInt8 := if positive then 0 else 0x80

def compressG1 : G1 → Bytes 32
  | .zero => Bytes.ofList (0x40 :: List.replicate 31 0) rfl
  | .some x y _ => Bytes.ofList (flaggedBe (signMask (fqLe y (-y))) x.val) (flaggedBe_length _ _)

/-- On the twist the flags stand in front of `c1`. -/
def compressTwist : Twist → Bytes 64
  | .zero => Bytes.ofList (0x40 :: List.replicate 63 0) rfl
  | .some x y _ => Bytes.ofList (flaggedBe (signMask (fq2Le y (-y))) x.im.val ++ beList 32 x.re.val)
      (by rw [List.length_append, flaggedBe_length, beList_length])

def compressG2 (Q : G2Group) : Bytes 64 := compressTwist Q.1

/-- The calls work as arkworks does. Zero bytes stand for the identity on both sides. -/
structure ArkCompression (calls : Compression) : Prop where
  g1_compress_zero : calls.g1CompressBe (Bytes.zero 64) = some (Bytes.zero 32)
  g1_compress : ∀ {g1 P}, g1 ≠ Bytes.zero 64 → arkDecodeG1 g1 = some P →
    calls.g1CompressBe g1 = some (compressG1 P)
  g1_decompress_zero : calls.g1DecompressBe (Bytes.zero 32) = some (Bytes.zero 64)
  g1_decompress : ∀ P, calls.g1DecompressBe (compressG1 P) = some (encodeG1 P)
  g2_compress_zero : calls.g2CompressBe (Bytes.zero 128) = some (Bytes.zero 64)
  g2_compress : ∀ {g2 Q}, g2 ≠ Bytes.zero 128 → arkDecodeG2 g2 = some Q →
    calls.g2CompressBe g2 = some (compressG2 Q)
  g2_decompress_zero : calls.g2DecompressBe (Bytes.zero 64) = some (Bytes.zero 128)
  g2_decompress : ∀ Q, calls.g2DecompressBe (compressG2 Q) = some (encodeG2 Q)

/-! ## What the flags leave in the coordinates -/

theorem flaggedBe_inj {v v' : ℕ} (hv : v < fqModulus) (hv' : v' < fqModulus) {positive positive' : Bool}
    (h : flaggedBe (signMask positive) v = flaggedBe (signMask positive') v') :
    positive = positive' ∧ v = v' := by
  have hbits := fqModulus_lt
  have hvalue := congrArg beNat h
  rw [signMask, signMask, beNat_flaggedBe hv, beNat_flaggedBe hv'] at hvalue
  cases positive with
  | true =>
    cases positive' with
    | true => exact ⟨rfl, by simpa using hvalue⟩
    | false => simp only [if_true, Bool.false_eq_true, if_false] at hvalue; omega
  | false =>
    cases positive' with
    | true => simp only [if_true, Bool.false_eq_true, if_false] at hvalue; omega
    | false => exact ⟨rfl, by simpa using hvalue⟩

theorem beNat_identityFlag (k : ℕ) : beNat (0x40 :: List.replicate k 0) = 0x40 * 256 ^ k := by
  rw [beNat_cons, beNat_replicate_zero, List.length_replicate, Nat.add_zero]
  rfl

/-- The flag of the identity is no sign. -/
theorem flaggedBe_ne_identity {v : ℕ} (hv : v < fqModulus) (positive : Bool) :
    flaggedBe (signMask positive) v ≠ 0x40 :: List.replicate 31 0 := by
  intro h
  have hbits := fqModulus_lt
  have hvalue := congrArg beNat h
  rw [signMask, beNat_flaggedBe hv, beNat_identityFlag] at hvalue
  cases positive with
  | true => simp only [if_true] at hvalue; omega
  | false => simp only [Bool.false_eq_true, if_false] at hvalue; omega

/-- Only a first coordinate of zero is written as zeros. -/
theorem eq_zero_of_flaggedBe {v : ℕ} (hv : v < fqModulus) {positive : Bool}
    (h : flaggedBe (signMask positive) v = List.replicate 32 0) : v = 0 := by
  have hvalue := congrArg beNat h
  rw [signMask, beNat_flaggedBe hv, beNat_replicate_zero] at hvalue
  omega

/-! ## The sign tells the second coordinate -/

theorem eq_of_sign {F : Type} [InvolutiveNeg F] {le : F → F → Bool}
    (hantisymm : ∀ a b, le a b = true → le b a = true → a = b)
    (htotal : ∀ a b, le a b = true ∨ le b a = true) {y y' : F} (hy : y = y' ∨ y = -y')
    (hsign : le y (-y) = le y' (-y')) : y = y' := by
  obtain hy | rfl := hy
  · exact hy
  · rw [neg_neg] at hsign
    obtain hle | hle := htotal y' (-y')
    · exact hantisymm _ _ (hsign.trans hle) hle
    · exact hantisymm _ _ hle (hsign.symm.trans hle)

theorem fqLe_antisymm (a b : Fq) (h : fqLe a b = true) (h' : fqLe b a = true) : a = b := by
  rw [fqLe, decide_eq_true_iff] at h h'
  exact ZMod.val_injective _ (Nat.le_antisymm h h')

theorem fqLe_total (a b : Fq) : fqLe a b = true ∨ fqLe b a = true := by
  rw [fqLe, fqLe, decide_eq_true_iff, decide_eq_true_iff]
  exact Nat.le_total _ _

theorem fq2Le_antisymm (a b : Fq2) (h : fq2Le a b = true) (h' : fq2Le b a = true) : a = b := by
  rw [fq2Le, decide_eq_true_iff] at h h'
  have him : a.im.val = b.im.val := by omega
  have hre : a.re.val = b.re.val := by omega
  exact QuadraticAlgebra.ext (ZMod.val_injective _ hre) (ZMod.val_injective _ him)

theorem fq2Le_total (a b : Fq2) : fq2Le a b = true ∨ fq2Le b a = true := by
  rw [fq2Le, fq2Le, decide_eq_true_iff, decide_eq_true_iff]
  omega

theorem compressG1_injective {P Q : G1} (h : compressG1 P = compressG1 Q) : P = Q := by
  have hbytes := congrArg Vector.toList h
  cases P with
  | zero =>
    cases Q with
    | zero => rfl
    | some x y hxy => exact absurd hbytes.symm (flaggedBe_ne_identity x.val_lt _)
  | some x y hxy =>
    cases Q with
    | zero => exact absurd hbytes (flaggedBe_ne_identity x.val_lt _)
    | some x' y' hxy' =>
      obtain ⟨hsign, hx⟩ := flaggedBe_inj x.val_lt x'.val_lt hbytes
      obtain rfl := ZMod.val_injective _ hx
      have hsquare : y ^ 2 = y' ^ 2 :=
        (Mordell.equation_iff.mp hxy.1).trans (Mordell.equation_iff.mp hxy'.1).symm
      obtain rfl := eq_of_sign fqLe_antisymm fqLe_total (sq_eq_sq_iff_eq_or_eq_neg.mp hsquare) hsign
      rfl

theorem compressTwist_ne_identity {x y : Fq2} (hxy : (mordell twistB).Nonsingular x y) :
    compressTwist (.some x y hxy) ≠ compressTwist 0 := by
  intro h
  have hbytes : flaggedBe (signMask (fq2Le y (-y))) x.im.val ++ beList 32 x.re.val =
    (0x40 :: List.replicate 31 0) ++ List.replicate 32 0 := congrArg Vector.toList h
  have hfront := List.append_inj_left hbytes (by rw [flaggedBe_length]; rfl)
  exact flaggedBe_ne_identity x.im.val_lt _ hfront

theorem compressTwist_injective {P Q : Twist} (h : compressTwist P = compressTwist Q) : P = Q := by
  cases P with
  | zero =>
    cases Q with
    | zero => rfl
    | some x y hxy => exact absurd h.symm (compressTwist_ne_identity hxy)
  | some x y hxy =>
    cases Q with
    | zero => exact absurd h (compressTwist_ne_identity hxy)
    | some x' y' hxy' =>
      have hlt := fqModulus_lt_bytes
      have hbytes := congrArg Vector.toList h
      obtain ⟨him, hre⟩ := List.append_inj hbytes (by rw [flaggedBe_length, flaggedBe_length])
      obtain ⟨hsign, him⟩ := flaggedBe_inj x.im.val_lt x'.im.val_lt him
      have hre := beList_inj (x.re.val_lt.trans hlt) (x'.re.val_lt.trans hlt) hre
      obtain rfl : x = x' := QuadraticAlgebra.ext (ZMod.val_injective _ hre) (ZMod.val_injective _ him)
      have hsquare : y ^ 2 = y' ^ 2 :=
        (Mordell.equation_iff.mp hxy.1).trans (Mordell.equation_iff.mp hxy'.1).symm
      obtain rfl := eq_of_sign fq2Le_antisymm fq2Le_total (sq_eq_sq_iff_eq_or_eq_neg.mp hsquare) hsign
      rfl

/-! ## No compressed point is zero -/

theorem not_isSquare {c : ℕ} (hc : (c : Fq) ≠ 0)
    (h : powMod fqModulus 254 c (fqModulus / 2) ≠ 1) : ¬ IsSquare (c : Fq) := by
  rw [ZMod.euler_criterion fqModulus hc, natCast_pow_eq_one_iff fqModulus_prime.one_lt,
    ← powMod_eq fqModulus 254 _ _ (by decide +kernel)]
  exact h

theorem x_ne_zero_of_mordell {x y : Fq} (h : (mordell curveB).Nonsingular x y) : x ≠ 0 := by
  rintro rfl
  have hthree : ¬ IsSquare ((3 : ℕ) : Fq) := not_isSquare (by decide +kernel) (by decide +kernel)
  have hsquare : y ^ 2 = ((3 : ℕ) : Fq) := by
    rw [Mordell.equation_iff.mp h.1]
    simp
  exact hthree ⟨y, by rw [← hsquare, sq]⟩

/-- The norm of the twist's constant. -/
def twistNorm : ℕ := 21087453498479301738505683583845423561061080261299122796980902361914303298513

theorem x_ne_zero_of_twist {x y : Fq2} (h : (mordell twistB).Nonsingular x y) : x ≠ 0 := by
  rintro rfl
  have hresidue : ¬ IsSquare (twistNorm : Fq) := not_isSquare (by decide +kernel) (by decide +kernel)
  have hsquare : y ^ 2 = twistB := by
    rw [Mordell.equation_iff.mp h.1]
    simp
  have hnorm : QuadraticAlgebra.norm y ^ 2 = (twistNorm : Fq) := by
    rw [← map_pow, hsquare]
    decide +kernel
  exact hresidue ⟨QuadraticAlgebra.norm y, by rw [← hnorm, sq]⟩

theorem compressG1_ne_zero (P : G1) : compressG1 P ≠ Bytes.zero 32 := by
  intro h
  cases P with
  | zero => exact absurd h (by decide)
  | some x y hxy =>
    have hx := eq_zero_of_flaggedBe x.val_lt (congrArg Vector.toList h)
    exact x_ne_zero_of_mordell hxy ((ZMod.val_eq_zero x).mp hx)

theorem compressTwist_ne_zero (P : Twist) : compressTwist P ≠ Bytes.zero 64 := by
  intro h
  cases P with
  | zero => exact absurd h (by decide)
  | some x y hxy =>
    have hbytes : flaggedBe (signMask (fq2Le y (-y))) x.im.val ++ beList 32 x.re.val =
      List.replicate 32 0 ++ List.replicate 32 0 := congrArg Vector.toList h
    obtain ⟨him, hre⟩ := List.append_inj hbytes (by rw [flaggedBe_length]; rfl)
    have him := eq_zero_of_flaggedBe x.im.val_lt him
    have hre : x.re.val = 0 := by
      have hvalue := congrArg beNat hre
      rwa [beNat_replicate_zero, beNat_beList_of_lt (x.re.val_lt.trans fqModulus_lt_bytes)] at hvalue
    exact x_ne_zero_of_twist hxy
      (QuadraticAlgebra.ext ((ZMod.val_eq_zero _).mp hre) ((ZMod.val_eq_zero _).mp him))

/-! ## There and back -/

section
variable {calls : Compression}

theorem ArkCompression.g1_roundtrip (hcalls : ArkCompression calls) {g1 : Bytes 64} {P : G1}
    (h : arkDecodeG1 g1 = some P) :
    ∃ bytes, calls.g1CompressBe g1 = some bytes ∧ decompressG1 calls bytes = .ok (encodeG1 P) := by
  by_cases hzero : g1 = Bytes.zero 64
  · rw [hzero, arkDecodeG1_zero] at h
    obtain rfl := Option.some.inj h
    refine ⟨_, hzero ▸ hcalls.g1_compress_zero, ?_⟩
    rw [decompressG1, hcalls.g1_decompress_zero, okOr_some]
    rfl
  · refine ⟨_, hcalls.g1_compress hzero h, ?_⟩
    rw [decompressG1, hcalls.g1_decompress, okOr_some]

theorem ArkCompression.g2_roundtrip (hcalls : ArkCompression calls) {g2 : Bytes 128} {Q : G2Group}
    (h : arkDecodeG2 g2 = some Q) :
    ∃ bytes, calls.g2CompressBe g2 = some bytes ∧ decompressG2 calls bytes = .ok (encodeG2 Q) := by
  by_cases hzero : g2 = Bytes.zero 128
  · rw [hzero, arkDecodeG2_zero] at h
    obtain rfl := Option.some.inj h
    refine ⟨_, hzero ▸ hcalls.g2_compress_zero, ?_⟩
    rw [decompressG2, hcalls.g2_decompress_zero, okOr_some]
    rfl
  · refine ⟨_, hcalls.g2_compress hzero h, ?_⟩
    rw [decompressG2, hcalls.g2_decompress, okOr_some]

variable {rt : Runtime} {GT : Type} [CommGroup GT] {S : AltBn128 rt G2Group GT}

/-- A proof that went through the compressed form has canonical bytes, and no call tells it from the
proof that it was. -/
theorem compressed_proof_answers (hcalls : ArkCompression calls) (hS : ArkDecoders S) {n : ℕ}
    (self : Groth16Verifier n) {A C : G1} {B : G2Group} (hA : arkDecodeG1 self.proofA = some A)
    (hB : arkDecodeG2 self.proofB = some B) (hC : arkDecodeG1 self.proofC = some C) :
    ∃ compressedA compressedB compressedC,
      convertProofToCompressed calls self.proofA self.proofB self.proofC =
        .ok (compressedA, compressedB, compressedC) ∧
      decompressG1 calls compressedA = .ok (encodeG1 A) ∧
      decompressG2 calls compressedB = .ok (encodeG2 B) ∧
      decompressG1 calls compressedC = .ok (encodeG1 C) ∧
      ∀ (before : List Call) (call : Call),
        (call.run rt (runCalls rt
            { self with proofA := encodeG1 A, proofB := encodeG2 B, proofC := encodeG1 C } before)).1 =
          (call.run rt (runCalls rt self before)).1 := by
  obtain ⟨compressedA, hcompressA, hplainA⟩ := hcalls.g1_roundtrip hA
  obtain ⟨compressedB, hcompressB, hplainB⟩ := hcalls.g2_roundtrip hB
  obtain ⟨compressedC, hcompressC, hplainC⟩ := hcalls.g1_roundtrip hC
  refine ⟨compressedA, compressedB, compressedC, ?_, hplainA, hplainB, hplainC, ?_⟩
  · rw [convertProofToCompressed, hcompressA, hcompressB, hcompressC]
    rfl
  · intro before call
    apply runCalls_same S
    rw [← hS.decodeG1] at hA hC
    rw [← hS.decodeG2] at hB
    have hA' : S.decodeG1 (encodeG1 A) = some A := S.decodeG1_encodeG1 A
    have hB' : S.decodeG2 (encodeG2 B) = some B := hS.decodeG2 ▸ arkDecodeG2_encodeG2 B
    have hC' : S.decodeG1 (encodeG1 C) = some C := S.decodeG1_encodeG1 C
    exact ⟨hA'.trans hA.symm, hB'.trans hB.symm, hC'.trans hC.symm, rfl, rfl, rfl, rfl, rfl, rfl, rfl,
      rfl, rfl, rfl⟩

end

/-! ## The calls of arkworks -/

open Classical in
noncomputable def arkCompression : Compression where
  g1CompressBe g1 :=
    if g1 = Bytes.zero 64 then some (Bytes.zero 32) else (arkDecodeG1 g1).map compressG1
  g2CompressBe g2 :=
    if g2 = Bytes.zero 128 then some (Bytes.zero 64) else (arkDecodeG2 g2).map compressG2
  g1DecompressBe bytes :=
    if bytes = Bytes.zero 32 then some (Bytes.zero 64)
    else if h : ∃ P, compressG1 P = bytes then some (encodeG1 h.choose) else none
  g2DecompressBe bytes :=
    if bytes = Bytes.zero 64 then some (Bytes.zero 128)
    else if h : ∃ Q, compressG2 Q = bytes then some (encodeG2 h.choose) else none

theorem arkCompression_ark : ArkCompression arkCompression where
  g1_compress_zero := by simp only [arkCompression, if_true]
  g1_compress := by
    intro g1 P hne h
    simp only [arkCompression, if_neg hne, h, Option.map_some]
  g1_decompress_zero := by simp only [arkCompression, if_true]
  g1_decompress := by
    intro P
    have hexists : ∃ Q, compressG1 Q = compressG1 P := ⟨P, rfl⟩
    have hchosen : hexists.choose = P := compressG1_injective hexists.choose_spec
    simp only [arkCompression, if_neg (compressG1_ne_zero P), dif_pos hexists, hchosen]
  g2_compress_zero := by simp only [arkCompression, if_true]
  g2_compress := by
    intro g2 Q hne h
    simp only [arkCompression, if_neg hne, h, Option.map_some]
  g2_decompress_zero := by simp only [arkCompression, if_true]
  g2_decompress := by
    intro Q
    have hexists : ∃ Q', compressG2 Q' = compressG2 Q := ⟨Q, rfl⟩
    have hchosen : hexists.choose = Q := Subtype.ext (compressTwist_injective hexists.choose_spec)
    have hne : compressG2 Q ≠ Bytes.zero 64 := compressTwist_ne_zero Q.1
    simp only [arkCompression, if_neg hne, dif_pos hexists, hchosen]

/-- Points of the generators, with a sign on `C`. -/
def flaggedVerifier : Groth16Verifier 1 :=
  { signedVerifier (2 ^ 254 * 2 + (fqModulus - 2)) with proofB := encodeG2 g2Base }

theorem compressed_proof_answers_flagged :
    ∃ compressedA compressedB compressedC, ∃ proofC : Bytes 64,
      convertProofToCompressed arkCompression flaggedVerifier.proofA flaggedVerifier.proofB
        flaggedVerifier.proofC = .ok (compressedA, compressedB, compressedC) ∧
      decompressG1 arkCompression compressedC = .ok proofC ∧
      (verify (groupRuntime arkDecodeG2 g2Pairing) { flaggedVerifier with proofC := proofC }).1 =
        (verify (groupRuntime arkDecodeG2 g2Pairing) flaggedVerifier).1 := by
  have hA : arkDecodeG1 flaggedVerifier.proofA = some (-g1Generator) :=
    arkDecodeG1_encodeG1 (-g1Generator)
  have hB : arkDecodeG2 flaggedVerifier.proofB = some g2Base := arkDecodeG2_encodeG2 g2Base
  have hC := decode_signed (Or.inr rfl)
  obtain ⟨compressedA, compressedB, compressedC, hcompress, -, -, hplain, hanswers⟩ :=
    compressed_proof_answers arkCompression_ark arkDecoders_arkSyscalls flaggedVerifier hA hB hC
  exact ⟨compressedA, compressedB, compressedC, _, hcompress, hplain, hanswers [] .verify⟩

end Groth16Solana
