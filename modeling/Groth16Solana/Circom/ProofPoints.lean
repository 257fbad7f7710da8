import Groth16Solana.Bn254.TwistDecoder
import Groth16Solana.Circom.ProofAcceptance
import Groth16Solana.Verifier.Challenge

/-! # The points of a converted proof

The bytes of `B` and `C` carry a sign that the decoder of the syscalls ignores, so it reads every
converted proof as the points of the prover, with `A` negated. -/

set_option autoImplicit false

namespace Groth16Solana
open Foundations

/-! ## Points by their coordinates -/

theorem OnCurve.on_mordell {x y : ℕ} (h : OnCurve x y) :
    (mordell curveB).Nonsingular (x : Fq) (y : Fq) := h.nonsingular

open Classical in
/-- The point with the given coordinates, or the identity where there is none. -/
noncomputable def CircomG1.toG1 (point : CircomG1) : G1 :=
  if h : OnCurve point.x point.y then .some (point.x : Fq) (point.y : Fq) h.on_mordell else 0

open Classical in
noncomputable def CircomG2.toG2 (point : CircomG2) : G2Group :=
  if h : OnTwist point.x point.y then h.inG2.point else 0

theorem CircomG1.toG1_of_onCurve {point : CircomG1} (h : OnCurve point.x point.y) :
    point.toG1 = .some (point.x : Fq) (point.y : Fq) h.nonsingular := dif_pos h

theorem CircomG2.toG2_of_onTwist {point : CircomG2} (h : OnTwist point.x point.y) :
    point.toG2 = h.inG2.point := dif_pos h

theorem not_onCurve_zero : ¬ OnCurve 0 0 := fun h => absurd h.equation (by decide +kernel)

theorem not_onTwist_zero : ¬ OnTwist (0, 0) (0, 0) := fun h => absurd h.equation (by decide +kernel)

theorem CircomG1.toG1_identity {point : CircomG1} (hx : point.x = 0) (hy : point.y = 0) :
    point.toG1 = 0 := by
  rw [CircomG1.toG1, dif_neg]
  rw [hx, hy]
  exact not_onCurve_zero

theorem CircomG2.toG2_identity {point : CircomG2} (hx : point.x = (0, 0)) (hy : point.y = (0, 0)) :
    point.toG2 = 0 := by
  rw [CircomG2.toG2, dif_neg]
  rw [hx, hy]
  exact not_onTwist_zero

/-! ## Coordinates in bytes -/

theorem flaggedBe_length (mask : UInt8) (v : ℕ) : (flaggedBe mask v).length = 32 := by
  rw [flaggedBe, List.length_cons, beList_length]

/-- A sign is two in the flags of a coordinate. -/
theorem beNat_flaggedBe {v : ℕ} (hv : v < fqModulus) (positive : Bool) :
    beNat (flaggedBe (if positive then 0 else 0x80) v) =
      2 ^ 254 * (if positive then 0 else 2) + v := by
  have hp : fqModulus < 64 * 256 ^ 31 := by decide +kernel
  have htop : v / 256 ^ 31 < 64 := Nat.div_lt_of_lt_mul (by omega)
  have hmod := Nat.div_add_mod v (256 ^ 31)
  have hval : (UInt8.ofNat (v / 256 ^ 31)).toNat = v / 256 ^ 31 := by
    rw [UInt8.toNat_ofNat']
    omega
  rw [flaggedBe, beNat_cons, beList_length, beNat_beList, UInt8.toNat_or, hval]
  cases positive with
  | true =>
    simp only [if_true, UInt8.toNat_zero, Nat.or_zero]
    omega
  | false =>
    have hmask : (0x80 : UInt8).toNat = 2 ^ 7 * 1 := rfl
    have htop' : v / 256 ^ 31 < 2 ^ 7 := by omega
    rw [if_neg Bool.false_ne_true, if_neg Bool.false_ne_true, hmask, Nat.or_comm,
      ← Nat.two_pow_add_eq_or_of_lt htop' 1]
    omega

/-! ## Reading a proof back -/

theorem decode_serializeProofA {point : CircomG1} (h : ValidG1 point) :
    arkDecodeG1 (serializeProofA (pointOfG1 point).neg) = some (-point.toG1) := by
  rcases h with ⟨hx, hy⟩ | h
  · have hzero : joinG1 0 0 = Bytes.zero 64 := by decide
    rw [serializeProofA_pointOfG1, CircomG1.toG1_identity hx hy, hx, hy]
    simp only [Nat.cast_zero, neg_zero, ZMod.val_zero, hzero]
    exact arkDecodeG1_zero
  · rw [serializeProofA_pointOfG1, neg_val h.y_lt, if_neg h.y_pos.ne', ZMod.val_natCast_of_lt h.x_lt,
      ← encodeG1_neg h, arkDecodeG1_encodeG1, CircomG1.toG1_of_onCurve h]

/-- A finite `C`, whatever its sign. -/
theorem decode_finite_proofC {x y : ℕ} (h : OnCurve x y) :
    arkDecodeG1 (serializeProofC ⟨(x : Fq), (y : Fq), false⟩) =
      some (.some (x : Fq) (y : Fq) h.nonsingular) := by
  have hbytes := toList_serializeProofC h.x_lt h.y_lt
  generalize fqLe (y : Fq) (-(y : Fq)) = positive at hbytes
  have hfront : (serializeProofC ⟨(x : Fq), (y : Fq), false⟩).toList = [] ++ (beList 32 x ++ _) := hbytes
  have hbehind : (serializeProofC ⟨(x : Fq), (y : Fq), false⟩).toList =
      beList 32 x ++ (flaggedBe (if positive then 0 else 0x80) y ++ []) := by
    rw [hbytes, List.append_nil]
  have hx := coordinateAt_of_append 0 hfront rfl (beList_length 32 x)
  have hy := coordinateAt_of_append 1 hbehind (beList_length 32 x) (flaggedBe_length _ y)
  rw [beNat_beList_of_lt (h.x_lt.trans fqModulus_lt_bytes)] at hx
  rw [beNat_flaggedBe h.y_lt] at hy
  exact arkDecodeG1_of_point hx hy (by cases positive <;> simp) h

theorem decode_serializeProofC {point : CircomG1} (h : ValidG1 point) :
    arkDecodeG1 (serializeProofC (pointOfG1 point)) = some point.toG1 := by
  rcases h with ⟨hx, hy⟩ | h
  · have hpoint : pointOfG1 point = ArkAffine.identity := by
      rw [pointOfG1, ConversionStep.affine, if_pos]
      simp [hx, hy]
    have hbytes : serializeProofC ArkAffine.identity = flaggedIdentity := by decide +kernel
    rw [hpoint, hbytes, CircomG1.toG1_identity hx hy]
    exact arkDecodeG1_flaggedIdentity
  · have hy : (point.y : Fq) ≠ 0 := Mordell.y_ne_zero noZeroY h.nonsingular.1
    have hpoint : pointOfG1 point = ⟨(point.x : Fq), (point.y : Fq), false⟩ := by
      rw [pointOfG1, ConversionStep.affine, if_neg fun hzero => hy hzero.2]
      rfl
    rw [hpoint, decode_finite_proofC h, CircomG1.toG1_of_onCurve h]

theorem decode_finite_proofB {x y : ℕ × ℕ} (h : OnTwist x y) :
    arkDecodeG2 (serializeProofB ⟨fq2Of x, fq2Of y, false⟩) = some h.inG2.point := by
  have hbytes := toList_serializeProofB h.x_lt h.y_lt
  generalize fq2Le (fq2Of y) (-fq2Of y) = positive at hbytes
  exact arkDecodeG2_of_blocks hbytes (flaggedBe_length _ y.2) (beNat_flaggedBe h.y_lt.2 positive)
    (by cases positive <;> simp) h

/-- The identity has a flag of its own. -/
theorem decode_identity_proofB :
    arkDecodeG2 (serializeProofB ArkAffine.identity) = some 0 := by
  have hne : serializeProofB ArkAffine.identity ≠ Bytes.zero 128 := by decide +kernel
  have hx1 : coordinateAt (serializeProofB ArkAffine.identity) 0 = 0 := by decide +kernel
  have hx0 : coordinateAt (serializeProofB ArkAffine.identity) 1 = 0 := by decide +kernel
  have hy1 : coordinateAt (serializeProofB ArkAffine.identity) 2 = 2 ^ 254 := by decide +kernel
  have hy0 : coordinateAt (serializeProofB ArkAffine.identity) 3 = 0 := by decide +kernel
  have hpos : 0 < fqModulus := fqModulus_prime.pos
  unfold arkDecodeG2
  simp only [hx1, hx0, hy1, hy0]
  rw [if_neg hne, if_neg (by omega), if_pos (by omega)]

theorem ValidG2.identity_or_onTwist {point : CircomG2} (h : ValidG2 point) :
    point.x = (0, 0) ∧ point.y = (0, 0) ∨ OnTwist point.x point.y := by
  rcases h with hzero | ⟨hx, hy, hequation, hin⟩
  · exact Or.inl hzero
  · exact Or.inr ⟨hx, hy, hequation, hin⟩

theorem decode_serializeProofB {point : CircomG2} (h : ValidG2 point) :
    arkDecodeG2 (serializeProofB (pointOfG2 point)) = some point.toG2 := by
  rcases h.identity_or_onTwist with ⟨hx, hy⟩ | h
  · have hpoint : pointOfG2 point = ArkAffine.identity := by
      have hzero : fq2Of (0, 0) = 0 := by decide
      rw [pointOfG2, ConversionStep.affine, hx, hy, hzero, if_pos ⟨rfl, rfl⟩]
    rw [hpoint, CircomG2.toG2_identity hx hy]
    exact decode_identity_proofB
  · have hne : ¬ (fq2Of point.x = 0 ∧ fq2Of point.y = 0) := by
      intro hzero
      obtain ⟨hx, hy⟩ := hzero
      have hequation := h.equation
      rw [hx, hy] at hequation
      exact twistB_ne_zero (by simpa using hequation.symm)
    have hpoint : pointOfG2 point = ⟨fq2Of point.x, fq2Of point.y, false⟩ := by
      rw [pointOfG2, ConversionStep.affine, if_neg hne]
      rfl
    rw [hpoint, decode_finite_proofB h, CircomG2.toG2_of_onTwist h]

/-! ## Reading a key back -/

theorem decode_joinG1 {x y z : ℕ} (h : ValidG1 ⟨x, y, z⟩) :
    arkDecodeG1 (joinG1 x y) = some (CircomG1.toG1 ⟨x, y, z⟩) := by
  rcases h with ⟨hx, hy⟩ | h
  · have hzero : joinG1 0 0 = Bytes.zero 64 := by decide
    rw [CircomG1.toG1_identity hx hy]
    obtain rfl : x = 0 := hx
    obtain rfl : y = 0 := hy
    rw [hzero, arkDecodeG1_zero]
  · rw [CircomG1.toG1_of_onCurve h]
    exact arkDecodeG1_joinG1 h

theorem decode_joinG2 {x y z : ℕ × ℕ} (h : ValidG2 ⟨x, y, z⟩) :
    arkDecodeG2 (joinG2 x y) = some (CircomG2.toG2 ⟨x, y, z⟩) := by
  rcases h.identity_or_onTwist with ⟨hx, hy⟩ | h
  · have hzero : joinG2 (0, 0) (0, 0) = Bytes.zero 128 := by decide +kernel
    rw [CircomG2.toG2_identity hx hy]
    obtain rfl : x = (0, 0) := hx
    obtain rfl : y = (0, 0) := hy
    rw [hzero, arkDecodeG2, if_pos rfl]
  · have hvalue : beNat (beList 32 y.2) = 2 ^ 254 * 0 + y.2 := by
      rw [beNat_beList_of_lt (h.y_lt.2.trans fqModulus_lt_bytes), Nat.mul_zero, Nat.zero_add]
    rw [CircomG2.toG2_of_onTwist h]
    exact arkDecodeG2_of_blocks rfl (beList_length 32 y.2) hvalue (Or.inl rfl) h

/-- Without the sign the bytes are the canonical ones. -/
theorem joinG1_eq_encodeG1 {point : CircomG1} (h : ValidG1 point) :
    joinG1 point.x point.y = encodeG1 point.toG1 := by
  rcases h with ⟨hx, hy⟩ | h
  · have hzero : joinG1 0 0 = encodeG1 0 := by decide
    rw [CircomG1.toG1_identity hx hy, hx, hy, hzero]
  · rw [CircomG1.toG1_of_onCurve h, encodeG1_of_onCurve h]

theorem decode_negateG1Be_joinG1 {point : CircomG1} (h : ValidG1 point) :
    arkDecodeG1 (negateG1Be (joinG1 point.x point.y)) = some (-point.toG1) := by
  rw [joinG1_eq_encodeG1 h, negateG1Be_encodeG1, arkDecodeG1_encodeG1]

/-- What `convert_proof` writes is read as the proof's points with `A` negated. -/
theorem convertedBytes_decode {proof : CircomProof} {bytes : ProofBytes}
    (h : convertProof proof = .ok bytes) :
    arkDecodeG1 bytes.1 = some (-proof.a.toG1) ∧ arkDecodeG2 bytes.2.1 = some proof.b.toG2 ∧
      arkDecodeG1 bytes.2.2 = some proof.c.toG1 := by
  obtain ⟨ha, hb, hc⟩ := exists_convertProof_iff.mp ⟨bytes, h⟩
  obtain ⟨-, rfl⟩ := convertProof_eq_ok_iff.mp h
  exact ⟨decode_serializeProofA ha, decode_serializeProofB hb, decode_serializeProofC hc⟩

end Groth16Solana
