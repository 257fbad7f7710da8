import Groth16Solana.Verifier.Groth16

/-! # Facts about the verifier's calls that hold for every runtime

What the constructors establish, the loop over the public inputs as a chain of accumulators, and
the loop with its range check against the loop without it. -/

set_option autoImplicit false

namespace Groth16Solana
open Foundations

variable {rt : Runtime} {nrInputs : ℕ}

/-! ## The range check -/

theorem beNat_frModulusBe : beNat frModulusBe.toList = frModulus := by decide +kernel

theorem isLessThan_iff (bytes : Bytes 32) :
    isLessThanBn254FieldSizeBe bytes = true ↔ beNat bytes.toList < frModulus := by
  rw [isLessThanBn254FieldSizeBe, decide_eq_true_iff, lt_iff_beNat_lt (by simp), beNat_frModulusBe]

/-! ## Constructors -/

theorem new_eq_ok_iff {proofA proofC : Bytes 64} {proofB : Bytes 128}
    {publicInputs : Vector (Bytes 32) nrInputs} {vk : Groth16Verifyingkey}
    {self : Groth16Verifier nrInputs} :
    Groth16Verifier.new proofA proofB proofC publicInputs vk = .ok self ↔
      vk.vkCommitment = none ∧ vk.vkIc.length = nrInputs + 1 ∧
        self = ⟨proofA, proofB, proofC, publicInputs, Bytes.zero 64, vk, none, none⟩ := by
  unfold Groth16Verifier.new
  cases hkey : vk.vkCommitment with
  | some key => simp
  | none =>
    by_cases hlen : vk.vkIc.length = nrInputs + 1
    · simp [hlen, eq_comm]
    · simp [hlen, Ne.symm hlen]

theorem newWithCommitment_eq_ok_iff {proofA proofC proofCommitment proofCommitmentPok : Bytes 64}
    {proofB : Bytes 128} {publicInputs : Vector (Bytes 32) nrInputs} {vk : Groth16Verifyingkey}
    {self : Groth16Verifier nrInputs} :
    Groth16Verifier.newWithCommitment proofA proofB proofC proofCommitment proofCommitmentPok
        publicInputs vk = .ok self ↔
      vk.vkCommitment.isSome ∧ vk.vkIc.length = nrInputs + 2 ∧
        self = ⟨proofA, proofB, proofC, publicInputs, Bytes.zero 64, vk, some proofCommitment,
          some proofCommitmentPok⟩ := by
  unfold Groth16Verifier.newWithCommitment
  cases hkey : vk.vkCommitment with
  | none => simp
  | some key =>
    by_cases hlen : vk.vkIc.length = nrInputs + 2
    · simp [hlen, eq_comm]
    · simp [hlen, Ne.symm hlen]

/-- The verifiers that a program can hold before its first call. -/
inductive Constructed (rt : Runtime) : Groth16Verifier nrInputs → Prop
  | new {proofA proofC : Bytes 64} {proofB : Bytes 128}
      {publicInputs : Vector (Bytes 32) nrInputs} {vk : Groth16Verifyingkey}
      {self : Groth16Verifier nrInputs}
      (h : Groth16Verifier.new proofA proofB proofC publicInputs vk = .ok self) :
      Constructed rt self
  | newWithCommitment {proofA proofC proofCommitment proofCommitmentPok : Bytes 64}
      {proofB : Bytes 128} {publicInputs : Vector (Bytes 32) nrInputs} {vk : Groth16Verifyingkey}
      {self : Groth16Verifier nrInputs} (hbuild : rt.bsb22 = true)
      (h : Groth16Verifier.newWithCommitment proofA proofB proofC proofCommitment proofCommitmentPok
        publicInputs vk = .ok self) : Constructed rt self

/-- The invariant the three commitment fields and `vk_ic` keep. -/
inductive Consistent (self : Groth16Verifier nrInputs) : Prop
  | plain (hcommitment : self.proofCommitment = none) (hpok : self.proofCommitmentPok = none)
      (hkey : self.verifyingkey.vkCommitment = none)
      (hlen : self.verifyingkey.vkIc.length = nrInputs + 1)
  | bsb22 (commitment pok : Bytes 64) (key : CommitmentVerifyingKey)
      (hcommitment : self.proofCommitment = some commitment)
      (hpok : self.proofCommitmentPok = some pok)
      (hkey : self.verifyingkey.vkCommitment = some key)
      (hlen : self.verifyingkey.vkIc.length = nrInputs + 2)

theorem Constructed.consistent {self : Groth16Verifier nrInputs} (h : Constructed rt self) :
    Consistent self := by
  cases h with
  | new h =>
    obtain ⟨hkey, hlen, rfl⟩ := new_eq_ok_iff.mp h
    exact .plain rfl rfl hkey hlen
  | newWithCommitment _ h =>
    obtain ⟨hkey, hlen, rfl⟩ := newWithCommitment_eq_ok_iff.mp h
    obtain ⟨key, hkey⟩ := Option.isSome_iff_exists.mp hkey
    exact .bsb22 _ _ key rfl rfl hkey hlen

theorem Consistent.length_pos {self : Groth16Verifier nrInputs} (h : Consistent self) :
    nrInputs + 1 ≤ self.verifyingkey.vkIc.length := by
  cases h with
  | plain _ _ _ hlen => omega
  | bsb22 _ _ _ _ _ _ hlen => omega

/-! ## The loop over the public inputs -/

section Loop
variable {check : Bool} {vkIc : List (Bytes 64)}

def Accumulates (rt : Runtime) (vkIc : List (Bytes 64)) (i : ℕ) (input : Bytes 32)
    (acc acc' : Bytes 64) : Prop :=
  ∃ ic, vkIc[i + 1]? = some ic ∧ g1MulAdd rt ic input acc = .ok acc'

theorem accumulateInputs_cons (i : ℕ) (input : Bytes 32) (inputs : List (Bytes 32))
    (acc : Bytes 64) :
    accumulateInputs rt check vkIc i (input :: inputs) acc =
      if check = true ∧ frModulus ≤ beNat input.toList then
        .error .publicInputGreaterThanFieldSize
      else (do
        let ic ← okOr .invalidPublicInputsLength vkIc[i + 1]?
        let acc ← g1MulAdd rt ic input acc
        accumulateInputs rt check vkIc (i + 1) inputs acc) := by
  have hguard : (check && !isLessThanBn254FieldSizeBe input) = true ↔
      check = true ∧ frModulus ≤ beNat input.toList := by
    rw [Bool.and_eq_true, Bool.not_eq_true', ← Bool.not_eq_true, isLessThan_iff, Nat.not_lt]
  rw [accumulateInputs]
  by_cases h : (check && !isLessThanBn254FieldSizeBe input) = true
  · rw [if_pos h, if_pos (hguard.mp h)]
    rfl
  · rw [if_neg h, if_neg (fun h' => h (hguard.mpr h'))]

theorem accumulateInputs_cons_eq_ok_iff {i : ℕ} {input : Bytes 32} {inputs : List (Bytes 32)}
    {acc out : Bytes 64} :
    accumulateInputs rt check vkIc i (input :: inputs) acc = .ok out ↔
      (check = true → beNat input.toList < frModulus) ∧
        ∃ acc', Accumulates rt vkIc i input acc acc' ∧
          accumulateInputs rt check vkIc (i + 1) inputs acc' = .ok out := by
  rw [accumulateInputs_cons]
  by_cases h : check = true ∧ frModulus ≤ beNat input.toList
  · rw [if_pos h]
    simp only [reduceCtorEq, h.1, forall_const, false_iff, not_and]
    omega
  · have hlt : check = true → beNat input.toList < frModulus := by
      intro hc
      exact Nat.not_le.mp fun hle => h ⟨hc, hle⟩
    rw [if_neg h, bind_eq_ok]
    simp only [bind_eq_ok, okOr_eq_ok]
    constructor
    · rintro ⟨ic, hic, acc', hstep, hrest⟩
      exact ⟨hlt, acc', ⟨ic, hic, hstep⟩, hrest⟩
    · rintro ⟨-, acc', ⟨ic, hic, hstep⟩, hrest⟩
      exact ⟨ic, hic, acc', hstep, hrest⟩

/-- A loop that ends is a chain of accumulators. -/
theorem accumulateInputs_eq_ok_iff (inputs : List (Bytes 32)) {i : ℕ} {acc out : Bytes 64} :
    accumulateInputs rt check vkIc i inputs acc = .ok out ↔
      (check = true → ∀ input ∈ inputs, beNat input.toList < frModulus) ∧
        ∃ accs : ℕ → Bytes 64, accs 0 = acc ∧ accs inputs.length = out ∧
          ∀ j (hj : j < inputs.length),
            Accumulates rt vkIc (i + j) inputs[j] (accs j) (accs (j + 1)) := by
  induction inputs generalizing i acc with
  | nil =>
    constructor
    · intro h
      rw [accumulateInputs, Except.ok.injEq] at h
      exact ⟨by simp, fun _ => acc, rfl, h, by simp⟩
    · rintro ⟨-, accs, rfl, rfl, -⟩
      rfl
  | cons input inputs ih =>
    have hshift (j : ℕ) : i + 1 + j = i + (j + 1) := by omega
    have hchain := exists_chain_succ_iff (k := inputs.length) (a := acc) (P := fun last => last = out)
      (R := fun j _ => Accumulates rt vkIc (i + j) (input :: inputs)[j])
    rw [accumulateInputs_cons_eq_ok_iff]
    simp only [ih, hshift]
    constructor
    · rintro ⟨hin, acc', hstep, hins, hrest⟩
      exact ⟨fun hc => List.forall_mem_cons.mpr ⟨hin hc, hins hc⟩, hchain.mpr ⟨acc', hstep, hrest⟩⟩
    · rintro ⟨hins, hturns⟩
      obtain ⟨acc', hstep, hrest⟩ := hchain.mp hturns
      exact ⟨fun hc => (List.forall_mem_cons.mp (hins hc)).1, acc', hstep,
        fun hc => (List.forall_mem_cons.mp (hins hc)).2, hrest⟩

end Loop

/-! ## Calls -/

theorem preparedInputs_eq_ok_iff {check : Bool} {self : Groth16Verifier nrInputs} {out : Bytes 64} :
    preparedInputs rt check self = .ok out ↔
      ∃ first acc, self.verifyingkey.vkIc.head? = some first ∧
        accumulateInputs rt check self.verifyingkey.vkIc 0 self.publicInputs.toList first = .ok acc ∧
        (if rt.bsb22 then addCommitment rt self acc else .ok acc) = .ok out := by
  simp only [preparedInputs, bind_eq_ok, okOr_eq_ok]
  constructor
  · rintro ⟨first, hfirst, acc, hacc, hout⟩
    exact ⟨first, acc, hfirst, hacc, hout⟩
  · rintro ⟨first, acc, hfirst, hacc, hout⟩
    exact ⟨first, hfirst, acc, hacc, hout⟩

theorem addCommitment_plain {self : Groth16Verifier nrInputs} {acc : Bytes 64}
    (hkey : self.verifyingkey.vkCommitment = none) (hcommitment : self.proofCommitment = none) :
    addCommitment rt self acc = .ok acc := by
  simp [addCommitment, hkey, hcommitment]

theorem addCommitment_bsb22 {self : Groth16Verifier nrInputs} {acc commitment : Bytes 64}
    {key : CommitmentVerifyingKey} (hkey : self.verifyingkey.vkCommitment = some key)
    (hcommitment : self.proofCommitment = some commitment) :
    addCommitment rt self acc = (do
      let ic ← okOr .invalidPublicInputsLength self.verifyingkey.vkIc[nrInputs + 1]?
      let acc ← g1MulAdd rt ic (commitmentHash rt commitment) acc
      mapErr .bsb22InvalidCommitmentPoint (g1Add rt commitment acc)) := by
  simp [addCommitment, hkey, hcommitment]

theorem prepareInputs_of_ok {check : Bool} {self : Groth16Verifier nrInputs} {out : Bytes 64}
    (h : preparedInputs rt check self = .ok out) :
    prepareInputs rt check self = (.ok (), { self with preparedPublicInputs := out }) := by
  rw [prepareInputs, h]

theorem prepareInputs_of_error {check : Bool} {self : Groth16Verifier nrInputs} {err : Groth16Error}
    (h : preparedInputs rt check self = .error err) :
    prepareInputs rt check self = (.error err, self) := by
  rw [prepareInputs, h]

theorem verifyCommon_of_ok {check : Bool} {self : Groth16Verifier nrInputs} {out : Bytes 64}
    (h : preparedInputs rt check self = .ok out) :
    verifyCommon rt check self =
      (verifyPrepared rt { self with preparedPublicInputs := out },
        { self with preparedPublicInputs := out }) := by
  rw [verifyCommon, prepareInputs_of_ok h]

theorem verifyCommon_of_error {check : Bool} {self : Groth16Verifier nrInputs} {err : Groth16Error}
    (h : preparedInputs rt check self = .error err) :
    verifyCommon rt check self = (.error err, self) := by
  rw [verifyCommon, prepareInputs_of_error h]

theorem verifyCommon_eq_ok_iff {check : Bool} {self : Groth16Verifier nrInputs} :
    (verifyCommon rt check self).1 = .ok () ↔
      ∃ out, preparedInputs rt check self = .ok out ∧
        verifyPrepared rt { self with preparedPublicInputs := out } = .ok () := by
  cases h : preparedInputs rt check self with
  | error err => simp [verifyCommon_of_error h]
  | ok out => simp [verifyCommon_of_ok h]

end Groth16Solana
