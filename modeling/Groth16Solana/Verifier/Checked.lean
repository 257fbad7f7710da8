import Groth16Solana.Verifier.Runs

/-! # `verify` against `verify_unchecked`

The range check stops the loop at the first input that is not below the group order and changes
nothing else. Below the order the two calls are one function; above it only the unchecked one can
accept, and it cannot tell congruent inputs apart. -/

set_option autoImplicit false

namespace Groth16Solana
open Foundations

variable {rt : Runtime} {nrInputs : ℕ}

def Canonical (inputs : List (Bytes 32)) : Prop :=
  ∀ input ∈ inputs, beNat input.toList < frModulus

/-! ## The loop -/

section Loop
variable {vkIc : List (Bytes 64)}

theorem accumulateInputs_check (inputs : List (Bytes 32)) (hins : Canonical inputs) (i : ℕ)
    (acc : Bytes 64) :
    accumulateInputs rt true vkIc i inputs acc = accumulateInputs rt false vkIc i inputs acc := by
  induction inputs generalizing i acc with
  | nil => rfl
  | cons input inputs ih =>
    obtain ⟨hin, hins⟩ := List.forall_mem_cons.mp hins
    rw [accumulateInputs_cons, accumulateInputs_cons, if_neg (by omega), if_neg (by simp)]
    simp only [ih hins]

/-- A checked loop that ends saw canonical inputs only. -/
theorem accumulateInputs_checked_eq_ok_iff (inputs : List (Bytes 32)) {i : ℕ} {acc out : Bytes 64} :
    accumulateInputs rt true vkIc i inputs acc = .ok out ↔
      Canonical inputs ∧ accumulateInputs rt false vkIc i inputs acc = .ok out := by
  constructor
  · intro h
    have hins : Canonical inputs := ((accumulateInputs_eq_ok_iff inputs).mp h).1 rfl
    exact ⟨hins, by rwa [← accumulateInputs_check inputs hins]⟩
  · rintro ⟨hins, h⟩
    rwa [accumulateInputs_check inputs hins]

theorem accumulateInputs_cons_eq_range_error_iff {i : ℕ} {input : Bytes 32}
    {inputs : List (Bytes 32)} {acc : Bytes 64} (hin : beNat input.toList < frModulus) :
    accumulateInputs rt true vkIc i (input :: inputs) acc =
        .error .publicInputGreaterThanFieldSize ↔
      ∃ acc', Accumulates rt vkIc i input acc acc' ∧
        accumulateInputs rt true vkIc (i + 1) inputs acc' =
          .error .publicInputGreaterThanFieldSize := by
  rw [accumulateInputs_cons, if_neg (by omega), bind_eq_error]
  constructor
  · rintro (hic | ⟨ic, hic, h⟩)
    · obtain ⟨-, hne⟩ := okOr_eq_error.mp hic
      cases hne
    · rcases bind_eq_error.mp h with hstep | ⟨acc', hstep, hrest⟩
      · have hne := g1MulAdd_error hstep
        simp [StepError] at hne
      · exact ⟨acc', ⟨ic, okOr_eq_ok.mp hic, hstep⟩, hrest⟩
  · rintro ⟨acc', ⟨ic, hic, hstep⟩, hrest⟩
    exact Or.inr ⟨ic, okOr_eq_ok.mpr hic, bind_eq_error.mpr (Or.inr ⟨acc', hstep, hrest⟩)⟩

/-- Where the checked loop stops with the range error. -/
theorem accumulateInputs_eq_range_error_iff (inputs : List (Bytes 32)) {i : ℕ} {acc : Bytes 64} :
    accumulateInputs rt true vkIc i inputs acc = .error .publicInputGreaterThanFieldSize ↔
      ∃ k, ∃ hk : k < inputs.length, frModulus ≤ beNat inputs[k].toList ∧
        ∃ accs : ℕ → Bytes 64, accs 0 = acc ∧
          ∀ j (hj : j < k), Accumulates rt vkIc (i + j) inputs[j] (accs j) (accs (j + 1)) := by
  induction inputs generalizing i acc with
  | nil =>
    constructor
    · intro h
      cases h
    · rintro ⟨k, hk, -⟩
      simp at hk
  | cons input inputs ih =>
    by_cases hin : beNat input.toList < frModulus
    · rw [accumulateInputs_cons_eq_range_error_iff hin]
      have hshift (j : ℕ) : i + 1 + j = i + (j + 1) := by omega
      have hchain {k : ℕ} (hk : k < inputs.length) :=
        exists_chain_succ_iff (k := k) (a := acc) (P := fun _ => True) (R := fun j hj =>
          Accumulates rt vkIc (i + j) ((input :: inputs).get ⟨j, hj.trans (Nat.succ_lt_succ hk)⟩))
      simp only [true_and] at hchain
      simp only [ih, hshift]
      constructor
      · rintro ⟨acc', hstep, k, hk, hbig, hrest⟩
        exact ⟨k + 1, Nat.succ_lt_succ hk, hbig, (hchain hk).mpr ⟨acc', hstep, hrest⟩⟩
      · rintro ⟨k, hk, hbig, hturns⟩
        cases k with
        | zero => exact absurd hin (Nat.not_lt.mpr hbig)
        | succ k =>
          have hk' : k < inputs.length := Nat.lt_of_succ_lt_succ hk
          obtain ⟨acc', hstep, hrest⟩ := (hchain hk').mp hturns
          exact ⟨acc', hstep, k, hk', hbig, hrest⟩
    · have hbig := Nat.not_lt.mp hin
      rw [accumulateInputs_cons, if_pos ⟨rfl, hbig⟩]
      simp only [true_iff]
      exact ⟨0, by simp, hbig, fun _ => acc, rfl, by simp⟩

end Loop

/-! ## The calls -/

theorem preparedInputs_check {self : Groth16Verifier nrInputs}
    (hins : Canonical self.publicInputs.toList) :
    preparedInputs rt true self = preparedInputs rt false self := by
  simp only [preparedInputs, accumulateInputs_check _ hins]

theorem verify_eq_verifyUnchecked {self : Groth16Verifier nrInputs}
    (hins : Canonical self.publicInputs.toList) : verify rt self = verifyUnchecked rt self := by
  simp only [verify, verifyUnchecked, verifyCommon, prepareInputs, preparedInputs_check hins]

theorem canonical_of_verify {self : Groth16Verifier nrInputs} (h : (verify rt self).1 = .ok ()) :
    Canonical self.publicInputs.toList := by
  obtain ⟨out, hout, -⟩ := verifyCommon_eq_ok_iff.mp h
  obtain ⟨first, acc, -, hacc, -⟩ := preparedInputs_eq_ok_iff.mp hout
  exact ((accumulateInputs_checked_eq_ok_iff _).mp hacc).1

theorem verify_eq_ok_iff {self : Groth16Verifier nrInputs} :
    (verify rt self).1 = .ok () ↔
      (verifyUnchecked rt self).1 = .ok () ∧ Canonical self.publicInputs.toList := by
  constructor
  · intro h
    have hins := canonical_of_verify h
    exact ⟨by rwa [← verify_eq_verifyUnchecked hins], hins⟩
  · rintro ⟨h, hins⟩
    rwa [verify_eq_verifyUnchecked hins]

theorem preparedInputs_eq_range_error_iff {self : Groth16Verifier nrInputs} {first : Bytes 64}
    (hself : Consistent self) (hfirst : self.verifyingkey.vkIc[0]? = some first) :
    preparedInputs rt true self = .error .publicInputGreaterThanFieldSize ↔
      accumulateInputs rt true self.verifyingkey.vkIc 0 self.publicInputs.toList first =
        .error .publicInputGreaterThanFieldSize := by
  rw [preparedInputs, List.head?_eq_getElem?, hfirst, okOr_some, ok_bind, bind_eq_error]
  constructor
  · rintro (h | ⟨acc, -, h⟩)
    · exact h
    · by_cases hbuild : rt.bsb22 = true
      · rw [if_pos hbuild] at h
        have hne := addCommitment_error hself h
        simp [StepError] at hne
      · rw [if_neg hbuild] at h
        cases h
  · exact Or.inl

theorem verify_eq_range_error_iff_preparedInputs {self : Groth16Verifier nrInputs}
    (hself : Consistent self) :
    (verify rt self).1 = .error .publicInputGreaterThanFieldSize ↔
      preparedInputs rt true self = .error .publicInputGreaterThanFieldSize := by
  cases hp : preparedInputs rt true self with
  | error err => simp [verify, verifyCommon_of_error hp]
  | ok out =>
    rw [verify, verifyCommon_of_ok hp]
    have hstate : SameBut self { self with preparedPublicInputs := out } := ⟨out, rfl⟩
    constructor
    · intro h
      have hne := verifyPrepared_error (hstate.consistent hself) h
      simp [PairingError] at hne
    · intro h
      cases h

/-- The range error is that of an input above the order before which no step fails. -/
theorem verify_eq_range_error_iff {self : Groth16Verifier nrInputs} (hself : Consistent self) :
    (verify rt self).1 = .error .publicInputGreaterThanFieldSize ↔
      ∃ k, ∃ hk : k < nrInputs, frModulus ≤ beNat self.publicInputs[k].toList ∧
        ∃ accs : ℕ → Bytes 64, self.verifyingkey.vkIc[0]? = some (accs 0) ∧
          ∀ j (hj : j < k), Accumulates rt self.verifyingkey.vkIc j self.publicInputs[j] (accs j)
            (accs (j + 1)) := by
  have hlen := hself.length_pos
  obtain ⟨first, hfirst⟩ : ∃ first, self.verifyingkey.vkIc[0]? = some first :=
    ⟨_, List.getElem?_eq_getElem (by omega)⟩
  rw [verify_eq_range_error_iff_preparedInputs hself,
    preparedInputs_eq_range_error_iff hself hfirst, accumulateInputs_eq_range_error_iff]
  constructor
  · rintro ⟨k, hk, hbig, accs, rfl, hchain⟩
    refine ⟨k, by simpa using hk, by simpa using hbig, accs, hfirst, fun j hj => ?_⟩
    simpa using hchain j hj
  · rintro ⟨k, hk, hbig, accs, hfirst', hchain⟩
    have he : accs 0 = first := Option.some_injective _ (hfirst'.symm.trans hfirst)
    refine ⟨k, by simpa using hk, by simpa using hbig, accs, he, fun j hj => ?_⟩
    simpa using hchain j hj

/-! ## Congruent inputs -/

/-- The multiplication syscall depends on its scalar modulo the group order only. -/
def ScalarModOrder (rt : Runtime) : Prop :=
  ∀ (point : Bytes 64) (scalar scalar' : Bytes 32),
    beNat scalar.toList % frModulus = beNat scalar'.toList % frModulus →
      rt.altBn128G1Multiplication (mulInput point scalar) =
        rt.altBn128G1Multiplication (mulInput point scalar')

/-- Syscalls that compute in the group have that property. -/
theorem AltBn128.scalarModOrder {G2 GT : Type} [AddCommGroup G2] [CommGroup GT]
    (S : AltBn128 rt G2 GT) : ScalarModOrder rt := by
  intro point scalar scalar' h
  have hnsmul (P : G1) : beNat scalar.toList • P = beNat scalar'.toList • P := by
    rw [← nsmul_mod, h, nsmul_mod]
  rw [S.multiplication point scalar _ (toList_mulInput _ _),
    S.multiplication point scalar' _ (toList_mulInput _ _)]
  simp only [hnsmul]

def Congruent (input input' : Bytes 32) : Prop :=
  beNat input.toList % frModulus = beNat input'.toList % frModulus

theorem accumulateInputs_congr (hmod : ScalarModOrder rt) {vkIc : List (Bytes 64)}
    {inputs inputs' : List (Bytes 32)} (h : List.Forall₂ Congruent inputs inputs') (i : ℕ)
    (acc : Bytes 64) :
    accumulateInputs rt false vkIc i inputs acc = accumulateInputs rt false vkIc i inputs' acc := by
  induction h generalizing i acc with
  | nil => rfl
  | @cons input input' inputs inputs' hin hins ih =>
    have hstep (ic : Bytes 64) : g1MulAdd rt ic input acc = g1MulAdd rt ic input' acc := by
      simp only [g1MulAdd, g1MultiplicationBe, hmod ic input input' hin]
    rw [accumulateInputs_cons, accumulateInputs_cons, if_neg (by simp), if_neg (by simp)]
    simp only [hstep, ih]

theorem verifyUnchecked_congr (hmod : ScalarModOrder rt) {self : Groth16Verifier nrInputs}
    {inputs : Vector (Bytes 32) nrInputs}
    (h : List.Forall₂ Congruent self.publicInputs.toList inputs.toList) :
    (verifyUnchecked rt { self with publicInputs := inputs }).1 = (verifyUnchecked rt self).1 := by
  have hprep : preparedInputs rt false { self with publicInputs := inputs } =
      preparedInputs rt false self := by
    simp only [preparedInputs, ← accumulateInputs_congr hmod h]
    rfl
  cases hp : preparedInputs rt false self with
  | error err =>
    rw [verifyUnchecked, verifyUnchecked, verifyCommon_of_error hp,
      verifyCommon_of_error (hprep.trans hp)]
  | ok out =>
    rw [verifyUnchecked, verifyUnchecked, verifyCommon_of_ok hp, verifyCommon_of_ok (hprep.trans hp)]
    rfl

/-- Congruent inputs below the order are the same bytes. -/
theorem eq_of_congruent {input input' : Bytes 32} (h : Congruent input input')
    (hin : beNat input.toList < frModulus) (hin' : beNat input'.toList < frModulus) :
    input = input' := by
  rw [Congruent, Nat.mod_eq_of_lt hin, Nat.mod_eq_of_lt hin'] at h
  exact Vector.toList_inj.mp (beNat_inj (by simp) h)

/-- `verify` is `verify_unchecked` on canonical inputs, and canonical inputs are unique. -/
theorem verify_checks_inputs {self : Groth16Verifier nrInputs} (h : Constructed rt self) :
    ((verify rt self).1 = .ok () ↔
      (verifyUnchecked rt self).1 = .ok () ∧
        ∀ i : Fin nrInputs, beNat (self.publicInputs.get i).toList < frModulus) ∧
    ((∀ i : Fin nrInputs, beNat (self.publicInputs.get i).toList < frModulus) →
      (verify rt self).1 = (verifyUnchecked rt self).1 ∧
        (verify rt self).2.preparedPublicInputs =
          (verifyUnchecked rt self).2.preparedPublicInputs) ∧
    ((verify rt self).1 = .error .publicInputGreaterThanFieldSize ↔
      ∃ k, ∃ hk : k < nrInputs, frModulus ≤ beNat self.publicInputs[k].toList ∧
        ∃ accs : ℕ → Bytes 64, self.verifyingkey.vkIc[0]? = some (accs 0) ∧
          ∀ j (hj : j < k), Accumulates rt self.verifyingkey.vkIc j self.publicInputs[j] (accs j)
            (accs (j + 1))) ∧
    (ScalarModOrder rt → ∀ inputs : Vector (Bytes 32) nrInputs,
      (∀ i : Fin nrInputs, Congruent (self.publicInputs.get i) (inputs.get i)) →
      (verifyUnchecked rt { self with publicInputs := inputs }).1 = (verifyUnchecked rt self).1 ∧
        (inputs ≠ self.publicInputs → ¬ ((verify rt self).1 = .ok () ∧
          (verify rt { self with publicInputs := inputs }).1 = .ok ()))) := by
  have hins : (∀ i : Fin nrInputs, beNat (self.publicInputs.get i).toList < frModulus) ↔
      Canonical self.publicInputs.toList :=
    (forall_mem_toList (p := fun input : Bytes 32 => beNat input.toList < frModulus)).symm
  refine ⟨by rw [verify_eq_ok_iff, hins], fun hlt => ?_, verify_eq_range_error_iff h.consistent,
    fun hmod inputs hcong => ⟨?_, fun hne hboth => hne ?_⟩⟩
  · rw [verify_eq_verifyUnchecked (hins.mp hlt)]
    exact ⟨rfl, rfl⟩
  · refine verifyUnchecked_congr hmod (List.forall₂_iff_get.mpr ⟨by simp, fun i hi hi' => ?_⟩)
    have hi₀ : i < nrInputs := by simpa using hi
    simpa [Vector.get_eq_getElem] using hcong ⟨i, hi₀⟩
  · have hself := hins.mpr (canonical_of_verify hboth.1)
    have hother := (forall_mem_toList (p := fun input : Bytes 32 => beNat input.toList < frModulus)).mp
      (canonical_of_verify hboth.2)
    refine Vector.ext fun i hi => ?_
    exact (eq_of_congruent (hcong ⟨i, hi⟩) (hself ⟨i, hi⟩) (hother ⟨i, hi⟩)).symm

/-- The small verifier's input against the same input plus the group order. -/
theorem verify_checks_inputs_small :
    (verifyUnchecked referenceRuntime
        { smallVerifier with publicInputs := #v[beBytes 32 (1 + frModulus)] }).1 =
        (verifyUnchecked referenceRuntime smallVerifier).1 ∧
      ¬ ((verify referenceRuntime smallVerifier).1 = .ok () ∧
        (verify referenceRuntime
          { smallVerifier with publicInputs := #v[beBytes 32 (1 + frModulus)] }).1 = .ok ()) := by
  have hcons : Constructed referenceRuntime smallVerifier := .new smallVerifier_new
  have hcong : ∀ i : Fin 1, Congruent (smallVerifier.publicInputs.get i)
      ((#v[beBytes 32 (1 + frModulus)] : Vector (Bytes 32) 1).get i) := by
    intro i
    obtain rfl := Subsingleton.elim i 0
    unfold Congruent
    decide +kernel
  obtain ⟨hsame, hone⟩ := (verify_checks_inputs hcons).2.2.2
    referenceSyscalls.scalarModOrder #v[beBytes 32 (1 + frModulus)] hcong
  exact ⟨hsame, hone (by decide +kernel)⟩

end Groth16Solana
