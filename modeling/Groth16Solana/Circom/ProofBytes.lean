import Groth16Solana.Circom.ProofParser

/-! # The bytes of a converted proof

For a proof of finite points the conversion succeeds. The bytes of `A` are plain; those of `B` and `C`
carry the sign flag of `y` in the top byte of their second coordinate. -/

set_option autoImplicit false

namespace Groth16Solana
open Foundations

/-! ## Coordinates -/

/-- A coordinate is read when it is below the modulus, as itself. -/
theorem convertCoordinate_toBytesLe (n : ℕ) :
    convertCoordinate (toBytesLe n) =
      if 256 ^ 32 ≤ n then .error .proofConversionError
      else if 2 ^ 255 ≤ n then .error (.arkworksSerializationError .unexpectedFlags)
      else if fqModulus ≤ n then .error (.arkworksSerializationError .invalidData)
      else .ok (n : Fq) := by
  unfold convertCoordinate
  by_cases hn : n < 256 ^ 32
  · have hlen := (toBytesLe_length_le_iff n).mpr hn
    have hpad : Bytes.copyFromSlice? (Bytes.zero 32) 0 (toBytesLe n).length (toBytesLe n) = some _ :=
      dif_pos ⟨Nat.zero_add _, hlen⟩
    have hvalue : leNat (toBytesLe n ++ List.replicate (32 - (toBytesLe n).length) 0) = n := by
      have hzero : leNat (List.replicate (32 - (toBytesLe n).length) 0) = 0 := by
        simp [leNat, Nat.ofDigits_replicate_zero]
      rw [leNat_append, leNat_toBytesLe, hzero, Nat.mul_zero, Nat.add_zero]
    rw [hpad, okOr_some, ok_bind, if_neg (by omega), fqDeserialize, Bytes.toList_copyFromSlice]
    simp only [List.take_zero, List.nil_append, Bytes.toList_ofList, Bytes.toList_zero,
      List.drop_replicate, hvalue]
    by_cases hp : n < fqModulus
    · rw [if_pos hp, if_neg (not_le.mpr hp)]
    · rw [if_neg hp, if_pos (not_lt.mp hp)]
  · have hlen := mt (toBytesLe_length_le_iff n).mp hn
    have hpad : Bytes.copyFromSlice? (Bytes.zero 32) 0 (toBytesLe n).length (toBytesLe n) = none :=
      dif_neg fun h => hlen h.2
    rw [hpad, okOr_none, error_bind, if_pos (by omega)]

theorem convertCoordinate_of_lt {n : ℕ} (h : n < fqModulus) :
    convertCoordinate (toBytesLe n) = .ok (n : Fq) := by
  have hbits := fqModulus_lt
  rw [convertCoordinate_toBytesLe, if_neg (by omega), if_neg (by omega), if_neg (by omega)]

/-! ## Finite points -/

structure FiniteG1 (point : CircomG1) : Prop where
  onCurve : OnCurve point.x point.y
  z_eq : point.z = 1

structure FiniteG2 (point : CircomG2) : Prop where
  x_lt : point.x.1 < fqModulus ∧ point.x.2 < fqModulus
  y_lt : point.y.1 < fqModulus ∧ point.y.2 < fqModulus
  equation : fq2Of point.y ^ 2 = fq2Of point.x ^ 3 + twistB
  inG2 : InG2 (.some (fq2Of point.x) (fq2Of point.y) (twist_nonsingular equation))
  z_eq : point.z = (1, 0)

theorem twistB_ne_zero : twistB ≠ 0 := by decide +kernel

theorem convertG1_of_finite {point : CircomG1} (h : FiniteG1 point) :
    convertG1 point = .ok ⟨(point.x : Fq), (point.y : Fq), false⟩ := by
  have hy : (point.y : Fq) ≠ 0 := Mordell.y_ne_zero noZeroY h.onCurve.nonsingular.1
  have hvalid : G1Affine.isValid (.newUnchecked (point.x : Fq) (point.y : Fq)) = true := by
    simp [G1Affine.isValid, ArkAffine.newUnchecked, nonsingular_iff.mp h.onCurve.nonsingular]
  unfold convertG1
  simp only [convertCoordinate_of_lt h.onCurve.x_lt, convertCoordinate_of_lt h.onCurve.y_lt, ok_bind]
  rw [if_neg fun hzero => hy hzero.2, hvalid]
  rfl

theorem convertG2_of_finite {point : CircomG2} (h : FiniteG2 point) :
    convertG2 point = .ok ⟨fq2Of point.x, fq2Of point.y, false⟩ := by
  have hne : ¬ (fq2Of point.x = 0 ∧ fq2Of point.y = 0) := by
    rintro ⟨hx, hy⟩
    have heq := h.equation
    rw [hx, hy] at heq
    exact twistB_ne_zero (by simpa using heq.symm)
  have hvalid : G2Affine.isValid (.newUnchecked (fq2Of point.x) (fq2Of point.y)) = true := by
    have hin := h.inG2
    simp [G2Affine.isValid, ArkAffine.newUnchecked, h.equation, hin]
  unfold convertG2
  simp only [convertCoordinate_of_lt h.x_lt.1, convertCoordinate_of_lt h.x_lt.2,
    convertCoordinate_of_lt h.y_lt.1, convertCoordinate_of_lt h.y_lt.2, ok_bind]
  have hcond : ¬ ((⟨(point.x.1 : Fq), (point.x.2 : Fq)⟩ : Fq2) = 0 ∧
      (⟨(point.y.1 : Fq), (point.y.2 : Fq)⟩ : Fq2) = 0) := hne
  rw [if_neg hcond]
  exact (congrArg (fun valid => checkPoint valid >>= fun _ => _) hvalid)

/-! ## Serialized points -/

/-- The big-endian bytes of `v` with flags in the top byte. -/
def flaggedBe (mask : UInt8) (v : ℕ) : List UInt8 :=
  (UInt8.ofNat (v / 256 ^ 31) ||| mask) :: beList 31 v

theorem beList_succ (v : ℕ) : beList 32 v = UInt8.ofNat (v / 256 ^ 31) :: beList 31 v :=
  beList_append 31 1 v

/-- An integer below the modulus leaves the two flag bits clear. -/
theorem flaggedBe_eq_iff {mask : UInt8} {v : ℕ} (hmask : mask = 0 ∨ mask = 0x80)
    (hv : v < fqModulus) :
    flaggedBe mask v = beList 32 v ↔ mask = 0 := by
  rw [flaggedBe, beList_succ, List.cons.injEq, and_iff_left rfl]
  obtain rfl | rfl := hmask
  · simp
  · have htop : v / 256 ^ 31 < 64 := by
      have hp : fqModulus < 64 * 256 ^ 31 := by decide +kernel
      exact Nat.div_lt_of_lt_mul (by omega)
    have hor : 128 ≤ (UInt8.ofNat (v / 256 ^ 31) ||| 0x80).toNat := by
      rw [UInt8.toNat_or]
      exact Nat.right_le_or
    have hval : (UInt8.ofNat (v / 256 ^ 31)).toNat = v / 256 ^ 31 := by
      rw [UInt8.toNat_ofNat']
      omega
    refine iff_of_false ?_ (by decide)
    intro heq
    rw [heq, hval] at hor
    omega

theorem reverse_fqSerialize (x : Fq) : (fqSerialize x).toList.reverse = beList 32 x.val := rfl

theorem reverse_fqSerializeWithFlags (x : Fq) (flags : SWFlags) :
    (fqSerializeWithFlags x flags).toList.reverse = flaggedBe flags.u8Bitmask x.val := by
  have hbytes : (fqSerialize x).toList = leList 31 x.val ++ [UInt8.ofNat (x.val / 256 ^ 31)] :=
    leList_append 31 1 x.val
  unfold fqSerializeWithFlags
  rw [Bytes.toList_ofList, hbytes, List.modify_eq_take_drop, List.take_left' (by simp),
    List.drop_left' (by simp)]
  simp [flaggedBe, beList]

theorem reverseChunks_two {size : ℕ} {first second : List UInt8} (hfirst : first.length = size)
    (hsecond : second.length = size) :
    reverseChunks size 2 (first ++ second) = first.reverse ++ second.reverse := by
  subst hfirst
  simp [reverseChunks, ← hsecond]

/-! ## The sign of `y` -/

/-- `y` is at most its negative. -/
def SmallY (y : ℕ) : Prop := 2 * y < fqModulus

/-- `y` is at most its negative, by `c1` and, where that is zero, by `c0`. -/
def SmallY2 (y : ℕ × ℕ) : Prop := if y.2 = 0 then SmallY y.1 else SmallY y.2

theorem fqModulus_odd : fqModulus % 2 = 1 := by decide +kernel

theorem neg_val {y : ℕ} (hy : y < fqModulus) :
    (-(y : Fq)).val = if y = 0 then 0 else fqModulus - y := by
  by_cases hzero : y = 0
  · subst hzero
    simp
  · have hne : (y : Fq) ≠ 0 := by
      rw [ne_eq, ZMod.natCast_eq_zero_iff]
      exact Nat.not_dvd_of_pos_of_lt (Nat.pos_of_ne_zero hzero) hy
    rw [ZMod.neg_val, if_neg hne, if_neg hzero, ZMod.val_natCast_of_lt hy]

theorem fqLe_neg_iff {y : ℕ} (hy : y < fqModulus) :
    fqLe (y : Fq) (-(y : Fq)) = true ↔ SmallY y := by
  have hodd := fqModulus_odd
  rw [fqLe, decide_eq_true_iff, ZMod.val_natCast_of_lt hy, neg_val hy, SmallY]
  by_cases hzero : y = 0
  · rw [if_pos hzero]
    omega
  · rw [if_neg hzero]
    omega

theorem fq2Le_neg_iff {y : ℕ × ℕ} (hy : y.1 < fqModulus ∧ y.2 < fqModulus) :
    fq2Le (fq2Of y) (-fq2Of y) = true ↔ SmallY2 y := by
  have hodd := fqModulus_odd
  have hre : (fq2Of y).re.val = y.1 := ZMod.val_natCast_of_lt hy.1
  have him : (fq2Of y).im.val = y.2 := ZMod.val_natCast_of_lt hy.2
  have hre' : (-fq2Of y).re.val = if y.1 = 0 then 0 else fqModulus - y.1 := neg_val hy.1
  have him' : (-fq2Of y).im.val = if y.2 = 0 then 0 else fqModulus - y.2 := neg_val hy.2
  rw [fq2Le, decide_eq_true_iff, hre, him, hre', him', SmallY2]
  unfold SmallY
  by_cases him0 : y.2 = 0
  · by_cases hre0 : y.1 = 0
    · simp [him0, hre0]
      omega
    · simp [him0, hre0]
      omega
  · simp only [if_neg him0]
    omega

/-! ## The proof -/

theorem u8Bitmask_toFlags {F : Type} [Neg F] (le : F → F → Bool) (x y : F) :
    (toFlags le ⟨x, y, false⟩).u8Bitmask = if le y (-y) then 0 else 0x80 := by
  unfold toFlags
  rw [if_neg Bool.false_ne_true]
  split <;> rfl

theorem toList_take_copyFromSlice {n m : ℕ} (buf : Bytes n) (src : Bytes m)
    (h : 0 + m = m ∧ m ≤ n) :
    ((buf.copyFromSlice 0 m src h).take m).toList = src.toList := by
  rw [Vector.toList_take, Bytes.toList_copyFromSlice, List.take_zero, List.nil_append]
  exact List.take_left' (by simp)

theorem serializeProofA_eq (x y : Fq) (infinity : Bool) :
    serializeProofA ⟨x, y, infinity⟩ = joinG1 x.val y.val := by
  have hzero : (Bytes.zero 65).toList = [] ++ List.replicate 65 0 := by simp
  have hfirst := Bytes.toList_copyFromSlice_zero hzero 0 32 (fqSerialize x) rfl (by decide)
  have hsecond := Bytes.toList_copyFromSlice_zero hfirst 32 64 (fqSerialize y) (by simp) (by decide)
  have hx : (fqSerialize x).toList.length = 32 := Vector.length_toList
  have hy : (fqSerialize y).toList.length = 32 := Vector.length_toList
  have hchunks := reverseChunks_two hx hy
  rw [reverse_fqSerialize, reverse_fqSerialize] at hchunks
  rw [← Vector.toList_inj, toList_joinG1, ← hchunks]
  unfold serializeProofA convertEndianness
  rw [Bytes.toList_ofList, Vector.toList_take, hsecond, List.nil_append, List.take_left' (by simp)]

theorem toList_serializeProofC {x y : ℕ} (hx : x < fqModulus) (hy : y < fqModulus) :
    (serializeProofC ⟨(x : Fq), (y : Fq), false⟩).toList =
      beList 32 x ++ flaggedBe (if fqLe (y : Fq) (-(y : Fq)) then 0 else 0x80) y := by
  have hbytes : (G1Affine.serialize ⟨(x : Fq), (y : Fq), false⟩).toList = (fqSerialize (x : Fq)).toList ++
      (fqSerializeWithFlags (y : Fq) (toFlags fqLe ⟨(x : Fq), (y : Fq), false⟩)).toList :=
        Vector.toList_append
  unfold serializeProofC convertEndianness
  rw [Bytes.toList_ofList, toList_take_copyFromSlice, hbytes, reverseChunks_two (by simp) (by simp),
    reverse_fqSerialize, reverse_fqSerializeWithFlags, u8Bitmask_toFlags, ZMod.val_natCast_of_lt hx,
    ZMod.val_natCast_of_lt hy]

theorem toList_serializeProofB {x y : ℕ × ℕ} (hx : x.1 < fqModulus ∧ x.2 < fqModulus)
    (hy : y.1 < fqModulus ∧ y.2 < fqModulus) :
    (serializeProofB ⟨fq2Of x, fq2Of y, false⟩).toList =
      beList 32 x.2 ++ beList 32 x.1 ++
        (flaggedBe (if fq2Le (fq2Of y) (-fq2Of y) then 0 else 0x80) y.2 ++ beList 32 y.1) := by
  have hbytes : (G2Affine.serialize ⟨fq2Of x, fq2Of y, false⟩).toList = (fq2Serialize (fq2Of x)).toList ++
      (fq2SerializeWithFlags (fq2Of y) (toFlags fq2Le ⟨fq2Of x, fq2Of y, false⟩)).toList :=
        Vector.toList_append
  have hxBytes : (fq2Serialize (fq2Of x)).toList.reverse = beList 32 x.2 ++ beList 32 x.1 := by
    unfold fq2Serialize
    rw [Vector.toList_append, List.reverse_append, reverse_fqSerialize, reverse_fqSerialize]
    simp only [fq2Of, ZMod.val_natCast_of_lt hx.1, ZMod.val_natCast_of_lt hx.2]
  have hyBytes (flags : SWFlags) : (fq2SerializeWithFlags (fq2Of y) flags).toList.reverse =
      flaggedBe flags.u8Bitmask y.2 ++ beList 32 y.1 := by
    unfold fq2SerializeWithFlags
    rw [Vector.toList_append, List.reverse_append, reverse_fqSerialize, reverse_fqSerializeWithFlags]
    simp only [fq2Of, ZMod.val_natCast_of_lt hy.1, ZMod.val_natCast_of_lt hy.2]
  unfold serializeProofB convertEndianness
  rw [Bytes.toList_ofList, toList_take_copyFromSlice, hbytes, reverseChunks_two (by simp) (by simp),
    hxBytes, hyBytes, u8Bitmask_toFlags]

structure FiniteProof (proof : CircomProof) : Prop where
  a : FiniteG1 proof.a
  b : FiniteG2 proof.b
  c : FiniteG1 proof.c

/-- The bytes of a proof without flags, `A` negated. -/
def verifierBytes (proof : CircomProof) : ProofBytes :=
  (joinG1 proof.a.x (fqModulus - proof.a.y), joinG2 proof.b.x proof.b.y, joinG1 proof.c.x proof.c.y)

theorem convertProof_of_finite {proof : CircomProof} (h : FiniteProof proof) :
    convertProof proof = .ok (joinG1 proof.a.x (fqModulus - proof.a.y),
      serializeProofB ⟨fq2Of proof.b.x, fq2Of proof.b.y, false⟩,
      serializeProofC ⟨(proof.c.x : Fq), (proof.c.y : Fq), false⟩) := by
  have hx := h.a.onCurve.x_lt
  have hy := h.a.onCurve.y_lt
  have ha : serializeProofA (ArkAffine.neg ⟨(proof.a.x : Fq), (proof.a.y : Fq), false⟩) =
      joinG1 proof.a.x (fqModulus - proof.a.y) := by
    rw [ArkAffine.neg, serializeProofA_eq, neg_val hy, if_neg h.a.onCurve.y_pos.ne',
      ZMod.val_natCast_of_lt hx]
  unfold convertProof
  simp only [convertG1_of_finite h.a, convertG2_of_finite h.b, convertG1_of_finite h.c, ok_bind, ha]
  rfl

theorem serializeProofC_eq_iff {x y : ℕ} (hx : x < fqModulus) (hy : y < fqModulus) :
    serializeProofC ⟨(x : Fq), (y : Fq), false⟩ = joinG1 x y ↔ SmallY y := by
  rw [← fqLe_neg_iff hy, ← Vector.toList_inj, toList_serializeProofC hx hy, toList_joinG1,
    List.append_right_inj]
  cases hle : fqLe (y : Fq) (-(y : Fq)) with
  | true => simp [flaggedBe_eq_iff (Or.inl rfl) hy]
  | false => simp [flaggedBe_eq_iff (Or.inr rfl) hy]

theorem serializeProofB_eq_iff {x y : ℕ × ℕ} (hx : x.1 < fqModulus ∧ x.2 < fqModulus)
    (hy : y.1 < fqModulus ∧ y.2 < fqModulus) :
    serializeProofB ⟨fq2Of x, fq2Of y, false⟩ = joinG2 x y ↔ SmallY2 y := by
  have hjoin : (joinG2 x y).toList =
      beList 32 x.2 ++ beList 32 x.1 ++ (beList 32 y.2 ++ beList 32 y.1) := rfl
  rw [← fq2Le_neg_iff hy, ← Vector.toList_inj, toList_serializeProofB hx hy, hjoin, List.append_right_inj,
    List.append_left_inj]
  cases hle : fq2Le (fq2Of y) (-fq2Of y) with
  | true => simp [flaggedBe_eq_iff (Or.inl rfl) hy.2]
  | false => simp [flaggedBe_eq_iff (Or.inr rfl) hy.2]

/-- The conversion of a proof of finite points has plain bytes when neither `B` nor `C` has a large `y`. -/
theorem convertProof_plain_iff {proof : CircomProof} (h : FiniteProof proof) :
    convertProof proof = .ok (verifierBytes proof) ↔ SmallY2 proof.b.y ∧ SmallY proof.c.y := by
  rw [convertProof_of_finite h, verifierBytes, Except.ok.injEq, Prod.mk.injEq, Prod.mk.injEq,
    and_iff_right rfl, serializeProofB_eq_iff h.b.x_lt h.b.y_lt,
    serializeProofC_eq_iff h.c.onCurve.x_lt h.c.onCurve.y_lt]

def generatorG2 : CircomG2 :=
  { x := (10857046999023057135944570762232829481370756359578518086990519993285655852781,
      11559732032986387107991004021392285783925812861821192530917403151452391805634)
    y := (8495653923123431417604973247489272438418190587263600148770280649306958101930,
      4082367875863433681332203403145435568316851327593401208105741076214120093531)
    z := (1, 0) }

theorem finite_generatorG2 : FiniteG2 generatorG2 := by
  have hx : fq2Of generatorG2.x = g2X := by decide +kernel
  have hy : fq2Of generatorG2.y = g2Y := by decide +kernel
  have hequation : fq2Of generatorG2.y ^ 2 = fq2Of generatorG2.x ^ 3 + twistB := by
    rw [hx, hy]
    exact g2_equation
  have hin : InG2 (.some _ _ (twist_nonsingular hequation)) := by
    have hgenerator := inG2_generator
    unfold g2Generator at hgenerator
    simpa only [hx, hy] using hgenerator
  exact ⟨by decide +kernel, by decide +kernel, hequation, hin, rfl⟩

/-- The proof whose `A` and `B` are the generators and whose `C` is `(1, y)`. -/
def generatorProof (y : ℕ) : CircomProof := { a := ⟨1, 2, 1⟩, b := generatorG2, c := ⟨1, y, 1⟩ }

theorem finite_generatorProof {y : ℕ} (hy : OnCurve 1 y) : FiniteProof (generatorProof y) := by
  have ha : OnCurve 1 2 := ⟨by decide +kernel, by decide +kernel, by decide +kernel⟩
  exact ⟨⟨ha, rfl⟩, finite_generatorG2, ⟨hy, rfl⟩⟩

theorem convertProof_plain_generators :
    convertProof (generatorProof 2) = .ok (verifierBytes (generatorProof 2)) := by
  have hC : OnCurve 1 2 := ⟨by decide +kernel, by decide +kernel, by decide +kernel⟩
  have hb : SmallY2 (generatorProof 2).b.y := by
    unfold SmallY2 SmallY
    decide +kernel
  have hc : SmallY (generatorProof 2).c.y := by
    unfold SmallY
    decide +kernel
  exact (convertProof_plain_iff (finite_generatorProof hC)).mpr ⟨hb, hc⟩

/-- `C` is the negated generator, whose `y` is large. -/
theorem convertProof_large_y :
    FiniteProof (generatorProof (fqModulus - 2)) ∧
      convertProof (generatorProof (fqModulus - 2)) ≠ .ok
        (verifierBytes (generatorProof (fqModulus - 2))) := by
  have hC : OnCurve 1 (fqModulus - 2) := ⟨by decide +kernel, by decide +kernel, by decide +kernel⟩
  have hlarge : ¬ SmallY (fqModulus - 2) := by
    unfold SmallY
    decide +kernel
  refine ⟨finite_generatorProof hC, ?_⟩
  rw [convertProof_of_finite (finite_generatorProof hC)]
  intro heq
  have hc := congrArg (fun bytes => bytes.2.2) (Except.ok.inj heq)
  exact hlarge ((serializeProofC_eq_iff hC.x_lt hC.y_lt).mp hc)

end Groth16Solana
