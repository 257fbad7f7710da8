import Groth16Solana.Circom.ProofPoints
import Groth16Solana.Circom.PublicInputs
import Groth16Solana.Verifier.Encodings
import Groth16Solana.Verifier.GroupRuntime
import Groth16Solana.Verifier.Verdict
import Groth16Solana.Vk.Generate

/-! # A circom proof through the crate

A circuit's key goes through JSON and a generated file, its proof and its public signals through the
converters. The verifier's answer at the end is the equation of the prover's own points. -/

set_option autoImplicit false

namespace Groth16Solana
open Foundations TokenTree

/-- The steps of `tests/rust-vk`; `none` is a failed `expect`. -/
def verifyCircom (rt : Runtime) (n : ℕ) (vk : Groth16Verifyingkey) (circomProof : CircomProof)
    (pubInputs : List ℕ) : Option Unit := do
  let (proofA, proofB, proofC) ← (convertProof circomProof).toOption
  let publicInputs ← convertPublicInputs n pubInputs
  let verifier ← (Groth16Verifier.new proofA proofB proofC publicInputs vk).toOption
  (verify rt verifier).1.toOption

/-! ## The points of a key -/

namespace SnarkjsKey

def g1 (value : ℕ × ℕ) : CircomG1 := ⟨value.1, value.2, 1⟩

def g2 (value : (ℕ × ℕ) × (ℕ × ℕ)) : CircomG2 := ⟨value.1, value.2, (1, 0)⟩

/-- A key of points of the two groups. -/
structure Valid (key : SnarkjsKey) : Prop where
  alpha : ValidG1 (g1 key.alpha)
  beta : ValidG2 (g2 key.beta)
  gamma : ValidG2 (g2 key.gamma)
  delta : ValidG2 (g2 key.delta)
  ic : ∀ value ∈ key.ic, ValidG1 (g1 value)

noncomputable def points (key : SnarkjsKey) : Key G2Group where
  alpha := (g1 key.alpha).toG1
  beta := (g2 key.beta).toG2
  gamma := (g2 key.gamma).toG2
  delta := (g2 key.delta).toG2
  ic j := (g1 (key.ic.getD j (0, 0))).toG1

end SnarkjsKey

section
variable {rt : Runtime} {GT : Type} [CommGroup GT]

variable {S : AltBn128 rt G2Group GT}

theorem ArkDecoders.decodesKey (hS : ArkDecoders S) {key : SnarkjsKey} (h : key.Valid) :
    DecodesKey S key.verifyingkey.asBorrowed key.points where
  alpha := hS.decodeG1 ▸ decode_joinG1 h.alpha
  beta := hS.decodeG2 ▸ decode_joinG2 h.beta
  gamma := hS.decodeG2 ▸ decode_joinG2 h.gamma
  delta := hS.decodeG2 ▸ decode_joinG2 h.delta
  ic := by
    intro j hj
    have hlen : key.verifyingkey.asBorrowed.vkIc.length = key.ic.length := List.length_map _
    rw [hlen] at hj
    have hbytes : key.verifyingkey.asBorrowed.vkIc[j]? = some (joinG1 key.ic[j].1 key.ic[j].2) := by
      show (key.ic.map fun point => joinG1 point.1 point.2)[j]? = _
      rw [List.getElem?_map, List.getElem?_eq_getElem hj, Option.map_some]
    refine ⟨_, hbytes, ?_⟩
    rw [hS.decodeG1, decode_joinG1 (h.ic _ (List.getElem_mem hj)), SnarkjsKey.points]
    simp only [List.getD_eq_getElem _ _ hj]
    rfl

/-! ## The public signals -/

/-- `IC[0] + ∑ v_i * IC[i+1]` for integers. -/
def signalSum (pubInputs : List ℕ) (ic : ℕ → G1) : G1 :=
  ic 0 + ∑ i : Fin pubInputs.length, pubInputs[i] • ic (i + 1)

theorem publicSum_of_signals {n : ℕ} {publicInputs : Vector (Bytes 32) n} {pubInputs : List ℕ}
    (h : publicInputs.toList.map (fun bytes => beNat bytes.toList) = pubInputs) (ic : ℕ → G1) :
    publicSum publicInputs ic = signalSum pubInputs ic := by
  subst h
  rw [publicSum, signalSum, ← weightedSum_toList publicInputs fun j => ic (j + 1),
    weightedSum_eq_sum]
  congr 1
  refine Fintype.sum_equiv (finCongr (List.length_map _).symm) _ _ ?_
  intro i
  simp

/-- Signals of at most 32 bytes are converted when there are as many as the key has inputs. -/
theorem convertPublicInputs_cases (n : ℕ) {pubInputs : List ℕ}
    (hbytes : ∀ value ∈ pubInputs, value < 2 ^ 256) :
    (pubInputs.length = n ∧ ∃ publicInputs, convertPublicInputs n pubInputs = some publicInputs ∧
      publicInputs.toList.map (fun bytes => beNat bytes.toList) = pubInputs) ∨
    (pubInputs.length ≠ n ∧ convertPublicInputs n pubInputs = none) := by
  obtain ⟨out, hout, hlen, hexact⟩ := mapM_convertSignal pubInputs
  have hconvert : convertPublicInputs n pubInputs =
      if h : out.length = n then some ⟨out.toArray, h⟩ else none := by
    rw [convertPublicInputs, hout]
    rfl
  rw [hconvert]
  by_cases hn : out.length = n
  · exact Or.inl ⟨hlen.symm.trans hn, _, dif_pos hn, hexact.mpr hbytes⟩
  · exact Or.inr ⟨fun h => hn (hlen.trans h), dif_neg hn⟩

theorem inRange_iff_signals {n : ℕ} {publicInputs : Vector (Bytes 32) n} {pubInputs : List ℕ}
    (h : publicInputs.toList.map (fun bytes => beNat bytes.toList) = pubInputs) :
    InRange true publicInputs ↔ ∀ value ∈ pubInputs, value < frModulus := by
  subst h
  rw [List.forall_mem_map, forall_mem_toList]
  exact ⟨fun h => h rfl, fun h _ => h⟩

/-! ## The answer -/

/-- Valid points and signals that meet the equation of the circuit's key. -/
structure CircomHolds (S : AltBn128 rt G2Group GT) (key : SnarkjsKey) (n : ℕ) (proof : CircomProof)
    (pubInputs : List ℕ) : Prop where
  a : ValidG1 proof.a
  b : ValidG2 proof.b
  c : ValidG1 proof.c
  arity : key.ic.length = n + 1
  signals : pubInputs.length = n
  inRange : ∀ value ∈ pubInputs, value < frModulus
  equation : S.e.pair proof.a.toG1 proof.b.toG2 = S.e.pair key.points.alpha key.points.beta *
    S.e.pair (signalSum pubInputs key.points.ic) key.points.gamma *
      S.e.pair proof.c.toG1 key.points.delta

theorem ArkDecoders.proofHolds_iff (hS : ArkDecoders S) {proof : CircomProof} {bytes : ProofBytes}
    (hconvert : convertProof proof = .ok bytes) (key : Key G2Group) (L : G1) :
    ProofHolds S key bytes.1 bytes.2.1 bytes.2.2 L ↔
      S.e.pair proof.a.toG1 proof.b.toG2 =
        S.e.pair key.alpha key.beta * S.e.pair L key.gamma * S.e.pair proof.c.toG1 key.delta := by
  obtain ⟨hA, hB, hC⟩ := convertedBytes_decode hconvert
  rw [← hS.decodeG1] at hA hC
  rw [← hS.decodeG2] at hB
  constructor
  · intro h
    obtain ⟨A, B, C, hA', hB', hC', hequation⟩ := h
    obtain rfl : A = proof.a.toG1 := neg_injective (Option.some.inj (hA'.symm.trans hA))
    obtain rfl := Option.some.inj (hB'.symm.trans hB)
    obtain rfl := Option.some.inj (hC'.symm.trans hC)
    exact hequation
  · intro h
    exact ⟨_, _, _, hA, hB, hC, h⟩

/-- The signs that `convert_proof` leaves in `B` and `C` make no difference: the answers are those for
the bare coordinates with `A` negated by `negate_g1_be`. -/
theorem converted_answers_as_plain (hS : ArkDecoders S) {proof : CircomProof} {bytes : ProofBytes}
    (hconvert : convertProof proof = .ok bytes) {n : ℕ} {publicInputs : Vector (Bytes 32) n}
    {vk : Groth16Verifyingkey} {self plain : Groth16Verifier n}
    (hself : Groth16Verifier.new bytes.1 bytes.2.1 bytes.2.2 publicInputs vk = .ok self)
    (hplain : Groth16Verifier.new (negateG1Be (joinG1 proof.a.x proof.a.y))
      (joinG2 proof.b.x proof.b.y) (joinG1 proof.c.x proof.c.y) publicInputs vk = .ok plain)
    (calls : List Call) (call : Call) :
    (call.run rt (runCalls rt self calls)).1 = (call.run rt (runCalls rt plain calls)).1 := by
  obtain ⟨ha, hb, hc⟩ := exists_convertProof_iff.mp ⟨bytes, hconvert⟩
  obtain ⟨hA, hB, hC⟩ := convertedBytes_decode hconvert
  have hA' := decode_negateG1Be_joinG1 ha
  have hB' : arkDecodeG2 (joinG2 proof.b.x proof.b.y) = some proof.b.toG2 := decode_joinG2 hb
  have hC' : arkDecodeG1 (joinG1 proof.c.x proof.c.y) = some proof.c.toG1 := decode_joinG1 hc
  rw [← hS.decodeG1] at hA hA' hC hC'
  rw [← hS.decodeG2] at hB hB'
  obtain ⟨-, -, rfl⟩ := new_eq_ok_iff.mp hself
  obtain ⟨-, -, rfl⟩ := new_eq_ok_iff.mp hplain
  apply runCalls_same S
  exact ⟨hA.trans hA'.symm, hB.trans hB'.symm, hC.trans hC'.symm, rfl, rfl, rfl, rfl, rfl, rfl, rfl,
    rfl, rfl, rfl⟩

/-- The verifier's part of the flow. -/
theorem verify_converted_iff (hS : ArkDecoders S) {key : SnarkjsKey} (hkey : key.Valid) {n : ℕ}
    {proof : CircomProof} {bytes : ProofBytes} (hconvert : convertProof proof = .ok bytes)
    {publicInputs : Vector (Bytes 32) n} {pubInputs : List ℕ}
    (hinputs : publicInputs.toList.map (fun bytes => beNat bytes.toList) = pubInputs)
    {self : Groth16Verifier n}
    (hnew : Groth16Verifier.new bytes.1 bytes.2.1 bytes.2.2 publicInputs
      key.verifyingkey.asBorrowed = .ok self) :
    (verify rt self).1 = .ok () ↔ (∀ value ∈ pubInputs, value < frModulus) ∧
      S.e.pair proof.a.toG1 proof.b.toG2 = S.e.pair key.points.alpha key.points.beta *
        S.e.pair (signalSum pubInputs key.points.ic) key.points.gamma *
          S.e.pair proof.c.toG1 key.points.delta := by
  classical
  have hself := new_eq_ok_iff.mp hnew
  obtain ⟨-, -, rfl⟩ := hself
  rw [verify, verifyCommon_plain_outcome S (.new hnew) rfl (hS.decodesKey hkey),
    inRange_iff_signals hinputs, hS.proofHolds_iff hconvert, publicSum_of_signals hinputs]
  split
  next hout => exact iff_of_false (by simp) fun h => hout h.1
  next hin =>
    split
    next hfails => exact iff_of_false (by simp) fun h => hfails h.2
    next hholds => exact iff_of_true rfl ⟨not_not.mp hin, not_not.mp hholds⟩

/-- The steps of a flow that passes. -/
theorem verifyCircom_eq_some_iff_steps {n : ℕ} {vk : Groth16Verifyingkey} {proof : CircomProof}
    {pubInputs : List ℕ} :
    verifyCircom rt n vk proof pubInputs = some () ↔
      ∃ bytes publicInputs, ∃ self : Groth16Verifier n, convertProof proof = .ok bytes ∧
        convertPublicInputs n pubInputs = some publicInputs ∧
        Groth16Verifier.new bytes.1 bytes.2.1 bytes.2.2 publicInputs vk = .ok self ∧
        (verify rt self).1 = .ok () := by
  simp only [verifyCircom, Option.bind_eq_bind, Option.bind_eq_some_iff, toOption_eq_some]
  constructor
  · intro h
    obtain ⟨bytes, hconvert, publicInputs, hinputs, self, hnew, hverify⟩ := h
    exact ⟨bytes, publicInputs, self, hconvert, hinputs, hnew, hverify⟩
  · intro h
    obtain ⟨bytes, publicInputs, self, hconvert, hinputs, hnew, hverify⟩ := h
    exact ⟨bytes, hconvert, publicInputs, hinputs, self, hnew, hverify⟩

theorem verifyCircom_eq_some_iff (hS : ArkDecoders S) {key : SnarkjsKey} (hkey : key.Valid) (n : ℕ)
    (proof : CircomProof) {pubInputs : List ℕ} (hbytes : ∀ value ∈ pubInputs, value < 2 ^ 256) :
    verifyCircom rt n key.verifyingkey.asBorrowed proof pubInputs = some () ↔
      CircomHolds S key n proof pubInputs := by
  have hlen : key.verifyingkey.asBorrowed.vkIc.length = key.ic.length := List.length_map _
  rw [verifyCircom_eq_some_iff_steps]
  constructor
  · intro h
    obtain ⟨bytes, publicInputs, self, hconvert, hinputs, hnew, hverify⟩ := h
    obtain ⟨ha, hb, hc⟩ := exists_convertProof_iff.mp ⟨bytes, hconvert⟩
    obtain ⟨-, harity, -⟩ := new_eq_ok_iff.mp hnew
    obtain ⟨hsignals, publicInputs', hinputs', hvalues⟩ | ⟨-, hnone⟩ := convertPublicInputs_cases n hbytes
    · obtain rfl := Option.some.inj (hinputs'.symm.trans hinputs)
      obtain ⟨hin, hequation⟩ := (verify_converted_iff hS hkey hconvert hvalues hnew).mp hverify
      exact ⟨ha, hb, hc, hlen ▸ harity, hsignals, hin, hequation⟩
    · cases hinputs.symm.trans hnone
  · intro h
    obtain ⟨bytes, hconvert⟩ := exists_convertProof_iff.mpr ⟨h.a, h.b, h.c⟩
    obtain ⟨-, publicInputs, hinputs, hvalues⟩ | ⟨hne, -⟩ := convertPublicInputs_cases n hbytes
    · have hnew : Groth16Verifier.new bytes.1 bytes.2.1 bytes.2.2 publicInputs
          key.verifyingkey.asBorrowed = .ok _ := new_eq_ok_iff.mpr ⟨rfl, hlen.trans h.arity, rfl⟩
      exact ⟨bytes, publicInputs, _, hconvert, hinputs, hnew,
        (verify_converted_iff hS hkey hconvert hvalues hnew).mpr ⟨h.inRange, h.equation⟩⟩
    · exact absurd h.signals hne

/-- A key of the snarkjs JSON verifies, through the generated file, exactly the proofs that meet its
equation. -/
theorem circom_verifies_iff {json : JsonPackages} {jsonContent source : String}
    {rawVk : RawVerifyingKey} {key : SnarkjsKey} {setup : SetupKind} {provingKeySha256 : Bytes 32}
    (hS : ArkDecoders S) (hparse : ParsesDecimals json) (hjson : json.fromStr jsonContent = .ok rawVk)
    (hkey : IsSnarkjs rawVk key) (hvalid : key.Valid)
    (hsource : parseVkJsonToRustString json jsonContent setup provingKeySha256 = .ok source) :
    ∃ vk, denotedKey source "VERIFYINGKEY" = some vk ∧
      ∀ (n : ℕ) (proof : CircomProof) (pubInputs : List ℕ), (∀ value ∈ pubInputs, value < 2 ^ 256) →
        (verifyCircom rt n vk proof pubInputs = some () ↔ CircomHolds S key n proof pubInputs) := by
  refine ⟨_, denotedKey_of_generated hparse hsource hjson hkey, ?_⟩
  intro n proof pubInputs hbytes
  exact verifyCircom_eq_some_iff hS hvalid n proof hbytes

end

/-! ## The generators -/

/-- Every key has a document. -/
def SnarkjsKey.raw (key : SnarkjsKey) (h : key.ic.length < 2 ^ 64) : RawVerifyingKey :=
  let digits (n : ℕ) := String.ofList (Nat.toDigits 10 n)
  let g1 (value : ℕ × ℕ) := [digits value.1, digits value.2, "1"]
  let g2 (value : (ℕ × ℕ) × (ℕ × ℕ)) :=
    [[digits value.1.1, digits value.1.2], [digits value.2.1, digits value.2.2], ["1", "0"]]
  { vkAlpha1 := g1 key.alpha
    vkBeta2 := g2 key.beta
    vkGamma2 := g2 key.gamma
    vkDelta2 := g2 key.delta
    ic := key.ic.map g1
    ic_length := (List.length_map g1).trans_lt h }

theorem SnarkjsKey.isSnarkjs_raw (key : SnarkjsKey) (h : key.ic.length < 2 ^ 64)
    (hpos : 1 ≤ key.ic.length) : IsSnarkjs (key.raw h) key := by
  have hdigits : ∀ n, decimal (String.ofList (Nat.toDigits 10 n)).toList = some n :=
    fun n => decimal_literal (decimal_toDigits n)
  refine ⟨⟨_, _, rfl, hdigits _, hdigits _⟩,
    ⟨_, _, _, _, rfl, hdigits _, hdigits _, hdigits _, hdigits _⟩,
    ⟨_, _, _, _, rfl, hdigits _, hdigits _, hdigits _, hdigits _⟩,
    ⟨_, _, _, _, rfl, hdigits _, hdigits _, hdigits _, hdigits _⟩, ?_, ?_⟩
  · rw [SnarkjsKey.raw, List.forall₂_map_left_iff, List.forall₂_same]
    intro value _
    exact ⟨_, _, rfl, hdigits _, hdigits _⟩
  · rwa [SnarkjsKey.raw, List.length_map]

def generatorKey : SnarkjsKey where
  alpha := (1, 2)
  beta := (generatorG2.x, generatorG2.y)
  gamma := (generatorG2.x, generatorG2.y)
  delta := (generatorG2.x, generatorG2.y)
  ic := [(1, 2)]

/-- The same key for a circuit with one public signal. -/
def signalKey : SnarkjsKey := { generatorKey with ic := [(1, fqModulus - 2), (1, 2)] }

theorem validG2_generator (z : ℕ × ℕ) : ValidG2 ⟨generatorG2.x, generatorG2.y, z⟩ :=
  Or.inr ⟨finite_generatorG2.x_lt, finite_generatorG2.y_lt, finite_generatorG2.equation,
    finite_generatorG2.inG2⟩

theorem toG2_generator (z : ℕ × ℕ) : CircomG2.toG2 ⟨generatorG2.x, generatorG2.y, z⟩ = g2Base := by
  have hpoint : OnTwist generatorG2.x generatorG2.y := ⟨finite_generatorG2.x_lt,
    finite_generatorG2.y_lt, finite_generatorG2.equation, finite_generatorG2.inG2⟩
  have hx : fq2Of generatorG2.x = g2X := by decide +kernel
  have hy : fq2Of generatorG2.y = g2Y := by decide +kernel
  have htoG2 : CircomG2.toG2 ⟨generatorG2.x, generatorG2.y, z⟩ = hpoint.inG2.point :=
    CircomG2.toG2_of_onTwist hpoint
  rw [htoG2]
  apply Subtype.ext
  show WeierstrassCurve.Affine.Point.some _ _ _ = WeierstrassCurve.Affine.Point.some _ _ _
  simp only [hx, hy]

theorem onCurve_generator : OnCurve 1 2 := ⟨by decide +kernel, by decide +kernel, by decide +kernel⟩

theorem toG1_generator (z : ℕ) : CircomG1.toG1 ⟨1, 2, z⟩ = g1Generator := by
  apply encodeG1_injective
  rw [CircomG1.toG1_of_onCurve onCurve_generator, encodeG1_of_onCurve onCurve_generator]
  rfl

theorem toG1_neg_generator (z : ℕ) : CircomG1.toG1 ⟨1, fqModulus - 2, z⟩ = -g1Generator := by
  have hgenerator := toG1_generator z
  rw [CircomG1.toG1_of_onCurve onCurve_generator] at hgenerator
  apply encodeG1_injective
  rw [CircomG1.toG1_of_onCurve onCurve_neg_generator, encodeG1_of_onCurve onCurve_neg_generator,
    ← encodeG1_neg onCurve_generator, hgenerator]

theorem valid_signalKey : signalKey.Valid where
  alpha := Or.inr onCurve_generator
  beta := validG2_generator _
  gamma := validG2_generator _
  delta := validG2_generator _
  ic := List.forall_mem_cons.mpr ⟨Or.inr onCurve_neg_generator,
    List.forall_mem_singleton.mpr (Or.inr onCurve_generator)⟩

theorem signalSum_signalKey : signalSum [2] signalKey.points.ic = g1Generator := by
  have hfirst : signalKey.points.ic 0 = -g1Generator := toG1_neg_generator 1
  have hsecond : signalKey.points.ic 1 = g1Generator := toG1_generator 1
  have hsum : signalSum [2] signalKey.points.ic =
      signalKey.points.ic 0 + 2 • signalKey.points.ic 1 := by
    simp [signalSum]
  rw [hsum, hfirst, hsecond, two_nsmul, neg_add_cancel_left]

/-- The proof's `C` is the negated generator, whose bytes carry a sign. -/
theorem circomHolds_generators :
    CircomHolds arkSyscalls signalKey 1 (generatorProof (fqModulus - 2)) [2] where
  a := Or.inr onCurve_generator
  b := validG2_generator _
  c := Or.inr onCurve_neg_generator
  arity := rfl
  signals := rfl
  inRange := List.forall_mem_singleton.mpr (by decide +kernel)
  equation := by
    have ha : (generatorProof (fqModulus - 2)).a.toG1 = g1Generator := toG1_generator 1
    have hb : (generatorProof (fqModulus - 2)).b.toG2 = g2Base := toG2_generator (1, 0)
    have hc : (generatorProof (fqModulus - 2)).c.toG1 = -g1Generator := toG1_neg_generator 1
    have halpha : signalKey.points.alpha = g1Generator := toG1_generator 1
    have hbeta : signalKey.points.beta = g2Base := toG2_generator (1, 0)
    have hgamma : signalKey.points.gamma = g2Base := toG2_generator (1, 0)
    have hdelta : signalKey.points.delta = g2Base := toG2_generator (1, 0)
    have hpairing : arkSyscalls.e = g2Pairing := rfl
    rw [ha, hb, hc, halpha, hbeta, hgamma, hdelta, signalSum_signalKey, hpairing, g2Pairing_g2Base,
      g2Pairing_g2Base, ofAdd_neg, mul_inv_cancel_right]

theorem converted_answers_as_plain_generators :
    ∃ bytes self plain, convertProof (generatorProof (fqModulus - 2)) = .ok bytes ∧
      Groth16Verifier.new bytes.1 bytes.2.1 bytes.2.2 (Vector.replicate 0 (Bytes.zero 32))
        generatorKey.verifyingkey.asBorrowed = .ok self ∧
      Groth16Verifier.new (negateG1Be (joinG1 1 2)) (joinG2 generatorG2.x generatorG2.y)
        (joinG1 1 (fqModulus - 2)) (Vector.replicate 0 (Bytes.zero 32))
        generatorKey.verifyingkey.asBorrowed = .ok plain ∧
      (verify (groupRuntime arkDecodeG2 g2Pairing) self).1 =
        (verify (groupRuntime arkDecodeG2 g2Pairing) plain).1 := by
  have hconvertible := circomHolds_generators
  obtain ⟨bytes, hconvert⟩ := exists_convertProof_iff.mpr
    ⟨hconvertible.a, hconvertible.b, hconvertible.c⟩
  have hnew : ∀ (proofA : Bytes 64) (proofB : Bytes 128) (proofC : Bytes 64), ∃ self,
      Groth16Verifier.new proofA proofB proofC (Vector.replicate 0 (Bytes.zero 32))
        generatorKey.verifyingkey.asBorrowed = .ok self :=
    fun _ _ _ => ⟨_, new_eq_ok_iff.mpr ⟨rfl, rfl, rfl⟩⟩
  obtain ⟨self, hself⟩ := hnew bytes.1 bytes.2.1 bytes.2.2
  obtain ⟨plain, hplain⟩ := hnew (negateG1Be (joinG1 1 2)) (joinG2 generatorG2.x generatorG2.y)
    (joinG1 1 (fqModulus - 2))
  exact ⟨bytes, self, plain, hconvert, hself, hplain,
    converted_answers_as_plain arkDecoders_arkSyscalls hconvert hself hplain [] .verify⟩

theorem circom_verifies_iff_generators :
    ∃ source vk,
      parseVkJsonToRustString (samplePackages "verification_key.json" (signalKey.raw (by decide)))
        "verification_key.json" .insecureTest (Bytes.zero 32) = .ok source ∧
      denotedKey source "VERIFYINGKEY" = some vk ∧
      verifyCircom (groupRuntime arkDecodeG2 g2Pairing) 1 vk (generatorProof (fqModulus - 2)) [2] =
        some () := by
  have hlen : signalKey.ic.length < 2 ^ 64 := by decide
  have hparse := parsesDecimals_samplePackages "verification_key.json" (signalKey.raw hlen)
  have hjson := fromStr_samplePackages "verification_key.json" (signalKey.raw hlen)
  have hkey := signalKey.isSnarkjs_raw hlen (by decide)
  have hforge : ¬ RefusedForgeable .insecureTest signalKey.head := fun h => absurd h.1 (by decide)
  have hsource := parse_of_generated (Bytes.zero 32) hjson (hkey.generated hparse hforge)
  obtain ⟨vk, hvk, hverifies⟩ :=
    circom_verifies_iff arkDecoders_arkSyscalls hparse hjson hkey valid_signalKey hsource
  have hbytes : ∀ value ∈ [2], value < 2 ^ 256 := List.forall_mem_singleton.mpr (by decide)
  exact ⟨_, vk, hsource, hvk, (hverifies 1 _ [2] hbytes).mpr circomHolds_generators⟩

end Groth16Solana
