import Groth16Solana.Verifier.Equation

/-! # Keys whose delta equals gamma

With `delta = gamma` the third proof point cancels the public inputs: `-alpha`, `beta` and `-L` are
accepted for every statement, where `L` is what `prepare_inputs` computes for it. -/

set_option autoImplicit false

namespace Groth16Solana
open Foundations

section
variable {rt : Runtime} {G2 GT : Type} [AddCommGroup G2] [CommGroup GT] (S : AltBn128 rt G2 GT)
include S

/-! ## Canonical prepared inputs -/

theorem decodeG1_eq_of_canonical {bytes : Bytes 64} {P : G1} (h : CanonicalG1 bytes)
    (hdec : S.decodeG1 bytes = some P) : bytes = encodeG1 P := by
  obtain ⟨Q, rfl⟩ := canonicalG1_iff.mp h
  rw [S.decodeG1_encodeG1, Option.some.injEq] at hdec
  rw [hdec]

theorem accumulateInputs_canonical {check : Bool} {vkIc : List (Bytes 64)}
    (inputs : List (Bytes 32)) {i : ℕ} {acc out : Bytes 64} (hacc : CanonicalG1 acc)
    (h : accumulateInputs rt check vkIc i inputs acc = .ok out) : CanonicalG1 out := by
  induction inputs generalizing i acc with
  | nil =>
    rw [accumulateInputs, Except.ok.injEq] at h
    exact h ▸ hacc
  | cons input inputs ih =>
    obtain ⟨-, acc', ⟨bytes, -, hstep⟩, hrest⟩ := accumulateInputs_cons_eq_ok_iff.mp h
    obtain ⟨P, Q, -, -, rfl⟩ := S.g1MulAdd_eq_ok_iff.mp hstep
    exact ih (canonicalG1_iff.mpr ⟨_, rfl⟩) hrest

theorem preparedInputs_plain_eq {check : Bool} {n : ℕ} {self : Groth16Verifier n} {ic : ℕ → G1}
    (hkey : self.verifyingkey.vkCommitment = none) (hcommitment : self.proofCommitment = none)
    (hic : ∀ bytes ∈ self.verifyingkey.vkIc, CanonicalG1 bytes)
    (hins : ∀ i : Fin n, beNat (self.publicInputs.get i).toList < frModulus)
    (hdec : DecodesIc S self.verifyingkey.vkIc (n + 1) ic) :
    preparedInputs rt check self = .ok (encodeG1 (publicSum self.publicInputs ic)) := by
  obtain ⟨out, hout, hL⟩ := (preparedInputs_plain_decodes S hkey hcommitment).mpr
    ⟨fun _ => hins, ic, hdec, rfl⟩
  obtain ⟨first, acc, hfirst, hacc, hadd⟩ := preparedInputs_eq_ok_iff.mp hout
  rw [addCommitment_plain hkey hcommitment, ite_self, Except.ok.injEq] at hadd
  subst hadd
  have hcanon := accumulateInputs_canonical S _ (hic first (List.mem_of_mem_head? hfirst)) hacc
  rw [hout, decodeG1_eq_of_canonical S hcanon hL]

/-! ## The forged proof -/

theorem forged_equation {vk : Groth16Verifyingkey} {key : Key G2} (hdec : DecodesKey S vk key)
    (hdelta : vk.vkDeltaG2 = vk.vkGammaG2) (L : G1) :
    S.e.pair key.alpha key.beta =
      S.e.pair key.alpha key.beta * S.e.pair L key.gamma * S.e.pair (-L) key.delta := by
  have hγδ : key.delta = key.gamma := by
    have hδ := hdec.delta
    rw [hdelta, hdec.gamma, Option.some.injEq] at hδ
    exact hδ.symm
  rw [hγδ, Pairing.pair_neg_left, mul_inv_cancel_right]

/-- The four-pair check accepts the forged proof once `L` is prepared. -/
theorem forged_pairing {n : ℕ} {self : Groth16Verifier n} {key : Key G2} {L : G1}
    (hdec : DecodesKey S self.verifyingkey key)
    (hdelta : self.verifyingkey.vkDeltaG2 = self.verifyingkey.vkGammaG2)
    (halpha : CanonicalG1 self.verifyingkey.vkAlphaG1)
    (hA : self.proofA = negateG1Be self.verifyingkey.vkAlphaG1)
    (hB : self.proofB = self.verifyingkey.vkBetaG2)
    (hC : self.proofC = negateG1Be (encodeG1 L)) (hL : self.preparedPublicInputs = encodeG1 L) :
    checkPairing rt .proofVerificationFailed (pairingInput self).toList = .ok () := by
  obtain ⟨α, hα, hnegα⟩ := decodeG1_negate S halpha
  obtain rfl := Option.some_injective _ (hα.symm.trans hdec.alpha)
  rw [← hA] at hnegα
  refine (pairingCheck_iff S hnegα).mpr ⟨key.beta, L, key.gamma, -L, key.delta, key.alpha, key.beta,
    by rw [hB, hdec.beta], by rw [hL, S.decodeG1_encodeG1], hdec.gamma, ?_, hdec.delta, hdec.alpha,
    hdec.beta, forged_equation S hdec hdelta L⟩
  rw [hC, negateG1Be_encodeG1, S.decodeG1_encodeG1]

/-- The forgery with the plain constructor. -/
theorem forgeable_plain {n : ℕ} {vk : Groth16Verifyingkey} {key : Key G2} (hdec : DecodesKey S vk key)
    (halpha : CanonicalG1 vk.vkAlphaG1) (hic : ∀ bytes ∈ vk.vkIc, CanonicalG1 bytes)
    (hdelta : vk.vkDeltaG2 = vk.vkGammaG2) {publicInputs : Vector (Bytes 32) n}
    (hins : ∀ i : Fin n, beNat (publicInputs.get i).toList < frModulus) {proofA proofC : Bytes 64}
    {proofB : Bytes 128} {self : Groth16Verifier n}
    (hnew : Groth16Verifier.new proofA proofB proofC publicInputs vk = .ok self) (check : Bool) :
    ∃ L, prepareInputs rt check self = (.ok (), { self with preparedPublicInputs := L }) ∧
      ∃ forged, Groth16Verifier.new (negateG1Be vk.vkAlphaG1) vk.vkBetaG2 (negateG1Be L)
        publicInputs vk = .ok forged ∧ (verify rt forged).1 = .ok () := by
  obtain ⟨hkey, hlen, rfl⟩ := new_eq_ok_iff.mp hnew
  have hdecIc := hdec.ic
  rw [hlen] at hdecIc
  -- both the honest and the forged verifier prepare the same point
  have hprep (check : Bool) (a c : Bytes 64) (b : Bytes 128) :
      preparedInputs rt check ⟨a, b, c, publicInputs, Bytes.zero 64, vk, none, none⟩ =
        .ok (encodeG1 (publicSum publicInputs key.ic)) :=
    preparedInputs_plain_eq S hkey rfl hic hins hdecIc
  refine ⟨_, prepareInputs_of_ok (hprep check _ _ _), _, new_eq_ok_iff.mpr ⟨hkey, hlen, rfl⟩, ?_⟩
  rw [verify, verifyCommon_eq_ok_iff]
  refine ⟨_, hprep true _ _ _, verifyPrepared_eq_ok_iff.mpr ⟨?_, fun _ => ?_⟩⟩
  · exact forged_pairing S hdec hdelta halpha rfl rfl rfl rfl
  · simp [verifyCommitmentPok, hkey]

/-- The forgery with a commitment, to the identity. -/
theorem forgeable_bsb22 (hbuild : rt.bsb22 = true) {n : ℕ} {vk : Groth16Verifyingkey} {key : Key G2}
    (hdec : DecodesKey S vk key)
    (hcommitmentKey : ∀ commitmentKey ∈ vk.vkCommitment,
      (∃ g, S.decodeG2 commitmentKey.g2 = some g) ∧
        ∃ gSigmaNeg, S.decodeG2 commitmentKey.gSigmaNegG2 = some gSigmaNeg)
    (halpha : CanonicalG1 vk.vkAlphaG1) (hdelta : vk.vkDeltaG2 = vk.vkGammaG2)
    {publicInputs : Vector (Bytes 32) n}
    (hins : ∀ i : Fin n, beNat (publicInputs.get i).toList < frModulus) {proofA proofC : Bytes 64}
    {proofB : Bytes 128} {self : Groth16Verifier n}
    (hnew : Groth16Verifier.newWithCommitment proofA proofB proofC (Bytes.zero 64) (Bytes.zero 64)
      publicInputs vk = .ok self) (check : Bool) :
    ∃ L, prepareInputs rt check self = (.ok (), { self with preparedPublicInputs := L }) ∧
      ∃ forged, Groth16Verifier.newWithCommitment (negateG1Be vk.vkAlphaG1) vk.vkBetaG2
          (negateG1Be L) (Bytes.zero 64) (Bytes.zero 64) publicInputs vk = .ok forged ∧
        (verify rt forged).1 = .ok () := by
  obtain ⟨hsome, hlen, rfl⟩ := newWithCommitment_eq_ok_iff.mp hnew
  obtain ⟨commitmentKey, hkey⟩ := Option.isSome_iff_exists.mp hsome
  obtain ⟨⟨g, hg⟩, gSigmaNeg, hσ⟩ := hcommitmentKey commitmentKey hkey
  have hdecIc := hdec.ic
  rw [hlen] at hdecIc
  have hzero : S.decodeG1 (Bytes.zero 64) = some 0 := S.decodeG1_encodeG1 0
  have hprep (check : Bool) (a c : Bytes 64) (b : Bytes 128) :
      preparedInputs rt check ⟨a, b, c, publicInputs, Bytes.zero 64, vk, some (Bytes.zero 64),
          some (Bytes.zero 64)⟩ =
        .ok (encodeG1 (publicSum publicInputs key.ic +
          challenge rt (Bytes.zero 64) • key.ic (n + 1) + 0)) :=
    (preparedInputs_bsb22_eq_ok_iff S hbuild hkey rfl).mpr
      ⟨fun _ => hins, key.ic, 0, hdecIc, hzero, rfl⟩
  refine ⟨_, prepareInputs_of_ok (hprep check _ _ _), _,
    newWithCommitment_eq_ok_iff.mpr ⟨hsome, hlen, rfl⟩, ?_⟩
  rw [verify, verifyCommon_eq_ok_iff]
  refine ⟨_, hprep true _ _ _, verifyPrepared_eq_ok_iff.mpr ⟨?_, fun _ => ?_⟩⟩
  · exact forged_pairing S hdec hdelta halpha rfl rfl rfl rfl
  · -- the knowledge proof of the identity is trivial
    simp only [verifyCommitmentPok, hkey]
    exact (pokCheck_iff S).mpr ⟨0, gSigmaNeg, 0, g, hzero, hσ, hzero, hg, by simp⟩

/-- A key with `delta = gamma` accepts a forged proof for all public inputs, with either
constructor. -/
theorem forgeable_of_delta_eq_gamma {n : ℕ} {vk : Groth16Verifyingkey} {key : Key G2}
    (hdec : DecodesKey S vk key)
    (hcommitmentKey : ∀ commitmentKey ∈ vk.vkCommitment,
      (∃ g, S.decodeG2 commitmentKey.g2 = some g) ∧
        ∃ gSigmaNeg, S.decodeG2 commitmentKey.gSigmaNegG2 = some gSigmaNeg)
    (halpha : CanonicalG1 vk.vkAlphaG1) (hic : ∀ bytes ∈ vk.vkIc, CanonicalG1 bytes)
    (hdelta : vk.vkDeltaG2 = vk.vkGammaG2) (publicInputs : Vector (Bytes 32) n)
    (hins : ∀ i : Fin n, beNat (publicInputs.get i).toList < frModulus) :
    (∀ proofA proofB proofC self,
      Groth16Verifier.new proofA proofB proofC publicInputs vk = .ok self →
      ∀ check, ∃ L, prepareInputs rt check self =
          (.ok (), { self with preparedPublicInputs := L }) ∧
        ∃ forged, Groth16Verifier.new (negateG1Be vk.vkAlphaG1) vk.vkBetaG2 (negateG1Be L)
            publicInputs vk = .ok forged ∧ (verify rt forged).1 = .ok ()) ∧
    (rt.bsb22 = true → ∀ proofA proofB proofC self,
      Groth16Verifier.newWithCommitment proofA proofB proofC (Bytes.zero 64) (Bytes.zero 64)
        publicInputs vk = .ok self →
      ∀ check, ∃ L, prepareInputs rt check self =
          (.ok (), { self with preparedPublicInputs := L }) ∧
        ∃ forged, Groth16Verifier.newWithCommitment (negateG1Be vk.vkAlphaG1) vk.vkBetaG2
            (negateG1Be L) (Bytes.zero 64) (Bytes.zero 64) publicInputs vk = .ok forged ∧
          (verify rt forged).1 = .ok ()) := by
  constructor
  · intro proofA proofB proofC self hnew check
    exact forgeable_plain S hdec halpha hic hdelta hins hnew check
  · intro hbuild proofA proofB proofC self hnew check
    exact forgeable_bsb22 S hbuild hdec hcommitmentKey halpha hdelta hins hnew check

end

/-- A forged proof with a commitment on the reference runtime. -/
theorem forgeable_of_delta_eq_gamma_small :
    ∃ L forged, Groth16Verifier.newWithCommitment (negateG1Be (encodeG1 g1Generator))
        g2GeneratorBytes (negateG1Be L) (Bytes.zero 64) (Bytes.zero 64) #v[beBytes 32 1]
        (smallVk g1Generator [0, g1Generator, g1Generator]
          (some ⟨g2GeneratorBytes, g2GeneratorBytes⟩)) = .ok forged ∧
      (verify referenceRuntime forged).1 = .ok () := by
  have hic : ∀ bytes ∈ (smallVk g1Generator [0, g1Generator, g1Generator]
      (some ⟨g2GeneratorBytes, g2GeneratorBytes⟩)).vkIc, CanonicalG1 bytes := by
    intro bytes hbytes
    obtain ⟨P, -, rfl⟩ := List.mem_map.mp hbytes
    exact canonicalG1_iff.mpr ⟨P, rfl⟩
  have hkey : ∀ commitmentKey ∈ (smallVk g1Generator [0, g1Generator, g1Generator]
      (some ⟨g2GeneratorBytes, g2GeneratorBytes⟩)).vkCommitment,
      (∃ g, referenceSyscalls.decodeG2 commitmentKey.g2 = some g) ∧
        ∃ gSigmaNeg, referenceSyscalls.decodeG2 commitmentKey.gSigmaNegG2 = some gSigmaNeg := by
    intro commitmentKey hmem
    obtain rfl := Option.some_injective _ hmem
    exact ⟨⟨1, decodeG2_generator⟩, 1, decodeG2_generator⟩
  obtain ⟨-, hbsb22⟩ := forgeable_of_delta_eq_gamma referenceSyscalls (n := 1)
    (decodesKey_smallVk _ _ _) hkey (canonicalG1_iff.mpr ⟨g1Generator, rfl⟩) hic rfl
    #v[beBytes 32 1] (by decide +kernel)
  obtain ⟨L, -, forged, hnew, hverify⟩ :=
    hbsb22 rfl (Bytes.zero 64) (Bytes.zero 128) (Bytes.zero 64) _ rfl true
  exact ⟨L, forged, hnew, hverify⟩

end Groth16Solana
