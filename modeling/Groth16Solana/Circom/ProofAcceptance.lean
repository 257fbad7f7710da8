import Groth16Solana.Circom.ProofBytes
import Groth16Solana.Verifier.Negation

/-! # The proofs that are converted

The conversion is a row of checks and then the bytes. It accepts the proofs whose points are valid, and
names the first check that fails. -/

set_option autoImplicit false

namespace Groth16Solana
open Foundations

/-! ## Valid points -/

/-- The identity, or a point of the curve in canonical coordinates. -/
def ValidG1 (point : CircomG1) : Prop := point.x = 0 ∧ point.y = 0 ∨ OnCurve point.x point.y

/-- The identity, or a point of the subgroup in canonical coordinates. -/
def ValidG2 (point : CircomG2) : Prop :=
  point.x = (0, 0) ∧ point.y = (0, 0) ∨
    (point.x.1 < fqModulus ∧ point.x.2 < fqModulus) ∧ (point.y.1 < fqModulus ∧ point.y.2 < fqModulus) ∧
    ∃ h : fq2Of point.y ^ 2 = fq2Of point.x ^ 3 + twistB,
      InG2 (.some (fq2Of point.x) (fq2Of point.y) (twist_nonsingular h))

/-! ## The checks -/

/-- A step of the conversion that may fail: a coordinate, or `check` of a point. -/
inductive ConversionStep where
  | coordinate (n : ℕ)
  | checkG1 (x y : Fq)
  | checkG2 (x y : Fq2)

namespace ConversionStep

def Fails : ConversionStep → Prop
  | coordinate n => fqModulus ≤ n
  | checkG1 x y => ¬ (x = 0 ∧ y = 0) ∧ y ^ 2 ≠ x ^ 3 + curveB
  | checkG2 x y => ¬ (x = 0 ∧ y = 0) ∧
      ¬ ∃ h : y ^ 2 = x ^ 3 + twistB, InG2 (.some x y (twist_nonsingular h))

/-- Whether the step is a coordinate of more than 32 bytes. -/
def tooLong : ConversionStep → Bool
  | coordinate n => decide (32 < (toBytesLe n).length)
  | _ => false

/-- How arkworks refuses the step; a coordinate may reach into the bit of a flag. -/
def serializationError : ConversionStep → SerializationError
  | coordinate n => if 2 ^ 255 ≤ n then .unexpectedFlags else .invalidData
  | _ => .invalidData

def error (self : ConversionStep) : Groth16Error :=
  if self.tooLong then .proofConversionError
  else .arkworksSerializationError self.serializationError

/-- The point a check is made of. -/
def affine {F : Type} [Zero F] [DecidableEq F] (x y : F) : ArkAffine F :=
  if x = 0 ∧ y = 0 then ArkAffine.identity else ArkAffine.newUnchecked x y

/-- The code of a step, without its value. -/
def run : ConversionStep → Except Groth16Error Unit
  | coordinate n => do
    let _ ← convertCoordinate (toBytesLe n)
    return ()
  | checkG1 x y => checkPoint (G1Affine.isValid (affine x y))
  | checkG2 x y => checkPoint (G2Affine.isValid (affine x y))

theorem error_coordinate (n : ℕ) : (coordinate n).error =
    if 256 ^ 32 ≤ n then .proofConversionError
    else .arkworksSerializationError (if 2 ^ 255 ≤ n then .unexpectedFlags else .invalidData) := by
  have hlong : 32 < (toBytesLe n).length ↔ 256 ^ 32 ≤ n := by
    rw [← not_iff_not, not_lt, not_le, toBytesLe_length_le_iff]
  simp only [error, tooLong, serializationError, decide_eq_true_eq, hlong]

theorem run_coordinate (n : ℕ) :
    (coordinate n).run = if fqModulus ≤ n then .error (coordinate n).error else .ok () := by
  have hbits := fqModulus_lt
  rw [run, convertCoordinate_toBytesLe, error_coordinate]
  by_cases hn : 256 ^ 32 ≤ n
  · rw [if_pos hn, if_pos (by omega), if_pos hn]
    rfl
  · rw [if_neg hn, if_neg hn]
    by_cases hflag : 2 ^ 255 ≤ n
    · rw [if_pos hflag, if_pos (by omega), if_pos hflag]
      rfl
    · rw [if_neg hflag, if_neg hflag]
      by_cases hp : fqModulus ≤ n
      · rw [if_pos hp, if_pos hp]
        rfl
      · rw [if_neg hp, if_neg hp]
        rfl

theorem not_fails_checkG1 {x y : Fq} :
    ¬ (checkG1 x y).Fails ↔ x = 0 ∧ y = 0 ∨ y ^ 2 = x ^ 3 + curveB := by
  rw [Fails, not_and_or, not_not, ne_eq, not_not]

theorem not_fails_checkG2 {x y : Fq2} :
    ¬ (checkG2 x y).Fails ↔ x = 0 ∧ y = 0 ∨
      ∃ h : y ^ 2 = x ^ 3 + twistB, InG2 (.some x y (twist_nonsingular h)) := by
  rw [Fails, not_and_or, not_not, not_not]

theorem isValid_affine_G1 (x y : Fq) :
    G1Affine.isValid (affine x y) = true ↔ ¬ (checkG1 x y).Fails := by
  by_cases hzero : x = 0 ∧ y = 0
  · simp [affine, Fails, hzero, G1Affine.isValid, ArkAffine.identity]
  · simp [affine, Fails, hzero, G1Affine.isValid, ArkAffine.newUnchecked]

theorem isValid_affine_G2 (x y : Fq2) :
    G2Affine.isValid (affine x y) = true ↔ ¬ (checkG2 x y).Fails := by
  by_cases hzero : x = 0 ∧ y = 0
  · simp [affine, Fails, hzero, G2Affine.isValid, ArkAffine.identity]
  · by_cases hcurve : y ^ 2 = x ^ 3 + twistB
    · simp [affine, Fails, hzero, hcurve, G2Affine.isValid, ArkAffine.newUnchecked]
    · simp [affine, Fails, hzero, hcurve, G2Affine.isValid, ArkAffine.newUnchecked]

theorem run_of_not_fails {step : ConversionStep} (h : ¬ step.Fails) : step.run = .ok () := by
  cases step with
  | coordinate n => exact (run_coordinate n).trans (if_neg h)
  | checkG1 x y => exact if_pos ((isValid_affine_G1 x y).mpr h)
  | checkG2 x y => exact if_pos ((isValid_affine_G2 x y).mpr h)

theorem run_of_fails {step : ConversionStep} (h : step.Fails) : step.run = .error step.error := by
  cases step with
  | coordinate n => exact (run_coordinate n).trans (if_pos h)
  | checkG1 x y => exact if_neg (mt (isValid_affine_G1 x y).mp (not_not.mpr h))
  | checkG2 x y => exact if_neg (mt (isValid_affine_G2 x y).mp (not_not.mpr h))

theorem run_eq_ok_iff {step : ConversionStep} : step.run = .ok () ↔ ¬ step.Fails := by
  constructor
  · intro hrun h
    rw [run_of_fails h] at hrun
    cases hrun
  · exact run_of_not_fails

theorem run_eq_error_iff {step : ConversionStep} {err : Groth16Error} :
    step.run = .error err ↔ step.Fails ∧ err = step.error := by
  by_cases h : step.Fails
  · simp [run_of_fails h, h, eq_comm]
  · simp [run_of_not_fails h, h]

end ConversionStep

/-! ## The conversion as a row of checks -/

open ConversionStep

def stepsG1 (point : CircomG1) : List ConversionStep :=
  [coordinate point.x, coordinate point.y, checkG1 (point.x : Fq) (point.y : Fq)]

def stepsG2 (point : CircomG2) : List ConversionStep :=
  [coordinate point.x.1, coordinate point.x.2, coordinate point.y.1, coordinate point.y.2,
    checkG2 (fq2Of point.x) (fq2Of point.y)]

/-- The steps in the order of the source. -/
def conversionSteps (proof : CircomProof) : List ConversionStep :=
  stepsG1 proof.a ++ stepsG2 proof.b ++ stepsG1 proof.c

def pointOfG1 (point : CircomG1) : G1Affine := affine (point.x : Fq) (point.y : Fq)

def pointOfG2 (point : CircomG2) : G2Affine := affine (fq2Of point.x) (fq2Of point.y)

/-- A coordinate that is read is read as itself. -/
theorem convertCoordinate_bind {α : Type} (n : ℕ) (f : Fq → Except Groth16Error α) :
    (convertCoordinate (toBytesLe n) >>= f) = ((coordinate n).run >>= fun _ => f (n : Fq)) := by
  rw [run, convertCoordinate_toBytesLe]
  split
  · rfl
  · split
    · rfl
    · split <;> rfl

theorem convertG1_eq (point : CircomG1) :
    convertG1 point = ((stepsG1 point).forM run >>= fun _ => .ok (pointOfG1 point)) := by
  have hsteps : (stepsG1 point).forM run = ((coordinate point.x).run >>= fun _ =>
      (coordinate point.y).run >>= fun _ => (checkG1 (point.x : Fq) (point.y : Fq)).run) := by
    simp [stepsG1]
  unfold convertG1
  simp only [convertCoordinate_bind, hsteps, bind_assoc]
  rfl

theorem convertG2_eq (point : CircomG2) :
    convertG2 point = ((stepsG2 point).forM run >>= fun _ => .ok (pointOfG2 point)) := by
  have hsteps : (stepsG2 point).forM run = ((coordinate point.x.1).run >>= fun _ =>
      (coordinate point.x.2).run >>= fun _ => (coordinate point.y.1).run >>= fun _ =>
      (coordinate point.y.2).run >>= fun _ => (checkG2 (fq2Of point.x) (fq2Of point.y)).run) := by
    simp [stepsG2]
  unfold convertG2
  simp only [convertCoordinate_bind, hsteps, bind_assoc]
  rfl

/-- The bytes of a proof that passes. -/
def convertedBytes (proof : CircomProof) : ProofBytes :=
  (serializeProofA (pointOfG1 proof.a).neg, serializeProofB (pointOfG2 proof.b),
    serializeProofC (pointOfG1 proof.c))

theorem convertProof_eq (proof : CircomProof) :
    convertProof proof =
      ((conversionSteps proof).forM run >>= fun _ => .ok (convertedBytes proof)) := by
  have hsteps : (conversionSteps proof).forM run = ((stepsG1 proof.a).forM run >>= fun _ =>
      (stepsG2 proof.b).forM run >>= fun _ => (stepsG1 proof.c).forM run) := by
    simp only [conversionSteps, List.forM_eq_forM, List.forM_append, bind_assoc]
  unfold convertProof
  simp only [convertG1_eq, convertG2_eq, hsteps, bind_assoc]
  rfl

theorem convertProof_eq_ok_iff {proof : CircomProof} {bytes : ProofBytes} :
    convertProof proof = .ok bytes ↔
      (∀ step ∈ conversionSteps proof, ¬ step.Fails) ∧ bytes = convertedBytes proof := by
  have hsteps : (conversionSteps proof).forM run = .ok () ↔
      ∀ step ∈ conversionSteps proof, ¬ step.Fails := by
    simp only [forM_eq_ok_iff, run_eq_ok_iff]
  rw [convertProof_eq, bind_eq_ok, ← hsteps]
  constructor
  · rintro ⟨⟨⟩, hrun, hbytes⟩
    exact ⟨hrun, (Except.ok.inj hbytes).symm⟩
  · rintro ⟨hrun, rfl⟩
    exact ⟨(), hrun, rfl⟩

theorem convertProof_eq_error_iff {proof : CircomProof} {err : Groth16Error} :
    convertProof proof = .error err ↔
      ∃ before step after, conversionSteps proof = before ++ step :: after ∧
        (∀ passed ∈ before, ¬ passed.Fails) ∧ step.Fails ∧ err = step.error := by
  simp only [convertProof_eq, bind_eq_error, forM_eq_error_iff, run_eq_ok_iff, run_eq_error_iff,
    reduceCtorEq, and_false, exists_false, or_false]

/-! ## The accepted proofs -/

theorem curve_equation_iff {x y : ℕ} :
    (y : Fq) ^ 2 = (x : Fq) ^ 3 + curveB ↔ y ^ 2 % fqModulus = (x ^ 3 + 3) % fqModulus := by
  rw [← ZMod.natCast_eq_natCast_iff', curveB]
  push_cast
  rfl

theorem natCast_eq_zero {n : ℕ} (hn : n < fqModulus) : (n : Fq) = 0 ↔ n = 0 := by
  rw [ZMod.natCast_eq_zero_iff]
  constructor
  · intro hdvd
    exact Nat.eq_zero_of_dvd_of_lt hdvd hn
  · rintro rfl
    exact dvd_zero _

theorem not_fails_coordinate {n : ℕ} : ¬ (coordinate n).Fails ↔ n < fqModulus := Nat.not_le

theorem validG1_iff (point : CircomG1) :
    ValidG1 point ↔ ∀ step ∈ stepsG1 point, ¬ step.Fails := by
  have hpos := fqModulus_prime.pos
  simp only [stepsG1, List.forall_mem_cons, List.not_mem_nil, false_implies, implies_true, and_true,
    not_fails_coordinate, not_fails_checkG1]
  constructor
  · rintro (⟨hx, hy⟩ | h)
    · exact ⟨by omega, by omega, Or.inl (by simp [hx, hy])⟩
    · exact ⟨h.x_lt, h.y_lt, Or.inr (curve_equation_iff.mpr h.equation)⟩
  · rintro ⟨hx, hy, hidentity | hcurve⟩
    · rw [natCast_eq_zero hx, natCast_eq_zero hy] at hidentity
      exact Or.inl hidentity
    · exact Or.inr ⟨hx, hy, curve_equation_iff.mp hcurve⟩

theorem fq2Of_eq_zero {c : ℕ × ℕ} (h₀ : c.1 < fqModulus) (h₁ : c.2 < fqModulus) :
    fq2Of c = 0 ↔ c = (0, 0) := by
  rw [fq2Of, QuadraticAlgebra.ext_iff, Prod.ext_iff, ← natCast_eq_zero h₀, ← natCast_eq_zero h₁]
  rfl

theorem validG2_iff (point : CircomG2) :
    ValidG2 point ↔ ∀ step ∈ stepsG2 point, ¬ step.Fails := by
  have hpos := fqModulus_prime.pos
  simp only [stepsG2, List.forall_mem_cons, List.not_mem_nil, false_implies, implies_true, and_true,
    not_fails_coordinate, not_fails_checkG2]
  constructor
  · rintro (⟨hx, hy⟩ | ⟨hx, hy, hcurve⟩)
    · have hx0 := (fq2Of_eq_zero (c := point.x) (by simp [hx, hpos]) (by simp [hx, hpos])).mpr hx
      have hy0 := (fq2Of_eq_zero (c := point.y) (by simp [hy, hpos]) (by simp [hy, hpos])).mpr hy
      refine ⟨?_, ?_, ?_, ?_, Or.inl ⟨hx0, hy0⟩⟩ <;> simp [hx, hy, hpos]
    · exact ⟨hx.1, hx.2, hy.1, hy.2, Or.inr hcurve⟩
  · rintro ⟨hx₀, hx₁, hy₀, hy₁, hidentity | hcurve⟩
    · rw [fq2Of_eq_zero hx₀ hx₁, fq2Of_eq_zero hy₀ hy₁] at hidentity
      exact Or.inl hidentity
    · exact Or.inr ⟨⟨hx₀, hx₁⟩, ⟨hy₀, hy₁⟩, hcurve⟩

theorem exists_convertProof_iff {proof : CircomProof} :
    (∃ bytes, convertProof proof = .ok bytes) ↔
      ValidG1 proof.a ∧ ValidG2 proof.b ∧ ValidG1 proof.c := by
  simp only [convertProof_eq_ok_iff, exists_and_left, exists_eq, and_true]
  rw [validG1_iff, validG2_iff, validG1_iff, conversionSteps, List.forall_mem_append,
    List.forall_mem_append, and_assoc]

/-- The conversion accepts the proofs of valid points, and its error is that of the first step that
fails. -/
theorem convertProof_accepts_iff (proof : CircomProof) :
    ((∃ bytes, convertProof proof = .ok bytes) ↔
      ValidG1 proof.a ∧ ValidG2 proof.b ∧ ValidG1 proof.c) ∧
    ∀ err, convertProof proof = .error err ↔
      ∃ before step after, conversionSteps proof = before ++ step :: after ∧
        (∀ passed ∈ before, ¬ passed.Fails) ∧ step.Fails ∧
        err = if step.tooLong then .proofConversionError
          else .arkworksSerializationError step.serializationError :=
  ⟨exists_convertProof_iff, fun _ => convertProof_eq_error_iff⟩

/-! ## The two negations -/

theorem serializeProofA_pointOfG1 (point : CircomG1) :
    serializeProofA (pointOfG1 point).neg = joinG1 (point.x : Fq).val (-(point.y : Fq)).val := by
  unfold pointOfG1 affine
  split
  next hzero =>
    rw [ArkAffine.identity, ArkAffine.neg, serializeProofA_eq, hzero.1, hzero.2]
  next =>
    rw [ArkAffine.newUnchecked, ArkAffine.neg, serializeProofA_eq]

/-- On valid points the field's negation is the subtraction of limbs. No point of the curve has `y = 0`,
where the two would differ. -/
theorem serializeProofA_eq_negateG1Be {point : CircomG1} (h : ValidG1 point) :
    serializeProofA (pointOfG1 point).neg = negateG1Be (joinG1 point.x point.y) := by
  rw [serializeProofA_pointOfG1]
  rcases h with ⟨hx, hy⟩ | h
  · have hzero : joinG1 0 0 = Bytes.zero 64 := by decide
    simp [hx, hy, hzero]
  · rw [neg_val h.y_lt, if_neg h.y_pos.ne', ZMod.val_natCast_of_lt h.x_lt, negateG1Be_joinG1 h]

/-- The conversion negates `A` as the function for gnark's proofs does. -/
theorem convertProof_negates (proof : CircomProof) (bytes : ProofBytes)
    (h : convertProof proof = .ok bytes) :
    bytes.1 = negateG1Be (joinG1 proof.a.x proof.a.y) := by
  have hvalid := (exists_convertProof_iff.mp ⟨bytes, h⟩).1
  obtain ⟨-, rfl⟩ := convertProof_eq_ok_iff.mp h
  exact serializeProofA_eq_negateG1Be hvalid

theorem convertProof_negates_generators :
    ∃ bytes, convertProof (generatorProof 2) = .ok bytes ∧
      bytes.1 = negateG1Be (joinG1 (generatorProof 2).a.x (generatorProof 2).a.y) := by
  have hC : OnCurve 1 2 := ⟨by decide +kernel, by decide +kernel, by decide +kernel⟩
  have hconvert := convertProof_of_finite (finite_generatorProof hC)
  exact ⟨_, hconvert, convertProof_negates _ _ hconvert⟩

end Groth16Solana
