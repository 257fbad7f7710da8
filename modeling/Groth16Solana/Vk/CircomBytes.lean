import Groth16Solana.Vk.Circom

/-! # The bytes of a JSON key

Every coordinate string that the generator reads stands for an integer, and each array is the 32 low
bytes of these integers, one after the other. Where a string or a point is unreadable the generator
stops with `InvalidData`. -/

set_option autoImplicit false

namespace Groth16Solana
open Foundations

/-! ## Results -/

section Delivers
variable {α β : Type}

/-- The result is the value, or `InvalidData` when there is none. -/
def Delivers (result : Except VkParseError α) : Option α → Prop
  | some a => result = .ok a
  | none => ∃ message, result = .error (.invalidData message)

namespace Delivers

variable {result : Except VkParseError α} {value : Option α}

theorem pure (a : α) : Delivers (.ok a) (some a) := rfl

theorem okOr (message : String) (value : Option α) :
    Delivers (okOr (.invalidData message) value) value := by
  cases value with
  | none => exact ⟨message, rfl⟩
  | some a => rfl

theorem bind {f : α → Except VkParseError β} {g : α → Option β} (h : Delivers result value)
    (hf : ∀ a, Delivers (f a) (g a)) : Delivers (result >>= f) (value >>= g) := by
  cases value with
  | none =>
    obtain ⟨message, rfl⟩ := h
    exact ⟨message, rfl⟩
  | some a =>
    obtain rfl := h
    exact hf a

theorem map {f : α → β} (h : Delivers result value) :
    Delivers (result >>= fun a => .ok (f a)) (value.map f) := by
  cases value with
  | none => exact h.bind (g := fun a => some (f a)) fun a => pure (f a)
  | some a => exact h.bind (g := fun a => some (f a)) fun a => pure (f a)

/-- A loop over a list, whose turns deliver `h` of the values of `g`. -/
theorem mapM {γ : Type} {f : α → Except VkParseError γ} {g : α → Option β} {h : β → γ}
    (hf : ∀ a, Delivers (f a) ((g a).map h)) (list : List α) :
    Delivers (list.mapM f) ((list.mapM g).map (List.map h)) := by
  induction list with
  | nil => exact pure []
  | cons a list ih =>
    have hcons := (hf a).bind fun c => ih.bind fun cs => pure (c :: cs)
    have hvalue :
        (((g a).map h) >>= fun c => ((list.mapM g).map (List.map h)) >>= fun cs => some (c :: cs)) =
        ((a :: list).mapM g).map (List.map h) := by
      rw [List.mapM_cons]
      cases g a with
      | none => rfl
      | some b =>
        cases list.mapM g with
        | none => rfl
        | some bs => rfl
    rw [List.mapM_cons, ← hvalue]
    exact hcons

end Delivers

end Delivers

/-! ## Integers -/

variable (json : JsonPackages)

def integerOf (s : String) : Option ℕ := (json.parseBigUint s).toOption

theorem integerOf_eq_some_iff {s : String} {n : ℕ} :
    integerOf json s = some n ↔ json.parseBigUint s = .ok n := by
  rw [integerOf]
  cases json.parseBigUint s <;> simp [Except.toOption]

/-- The integers of a G1 point, without its last component. -/
def g1Integers (point : List String) : Option (List ℕ) :=
  if point = [] then none else point.dropLast.mapM (integerOf json)

def pairIntegers : List String → Option (ℕ × ℕ)
  | [c0, c1] => do
    let n0 ← integerOf json c0
    let n1 ← integerOf json c1
    return (n0, n1)
  | _ => none

/-- The integers of a G2 point, without its last pair. -/
def g2Integers (point : List (List String)) : Option (List (ℕ × ℕ)) :=
  if point = [] then none else point.dropLast.mapM (pairIntegers json)

/-- The emitted bytes of a G1 point. -/
def g1Bytes (values : List ℕ) : List UInt8 := values.flatMap (beList 32)

/-- The emitted bytes of a G2 point, `c1` before `c0`. -/
def g2Bytes (values : List (ℕ × ℕ)) : List UInt8 :=
  values.flatMap fun value => beList 32 value.2 ++ beList 32 value.1

theorem delivers_parse {s : String} (message : String → String) :
    Delivers ((json.parseBigUint s).mapError fun e => .invalidData (message e)) (integerOf json s) := by
  rw [integerOf]
  cases json.parseBigUint s with
  | error e => exact ⟨message e, rfl⟩
  | ok n => rfl

theorem delivers_bigintString (s : String) (size : ℕ) :
    Delivers (bigintStringToBeBytes json s size) ((integerOf json s).map (beList size)) := by
  have hbytes (n : ℕ) : (resize (toBytesLe n) size).reverse = beList size n := by
    rw [resize_toBytesLe, beList]
  unfold bigintStringToBeBytes
  simp only [hbytes]
  exact (delivers_parse json fun e => "Failed to parse bigint '" ++ s ++ "': " ++ e).map

theorem delivers_affineComponents {α : Type} (point : List α) (fieldName : String) :
    Delivers (affineComponents point fieldName) (if point = [] then none else some point.dropLast) := by
  have hsplit : (splitLast point).map Prod.snd = if point = [] then none else some point.dropLast := by
    rcases List.eq_nil_or_concat point with rfl | ⟨front, z, rfl⟩
    · rfl
    · simp [splitLast]
  rw [← hsplit]
  exact Delivers.okOr _ _

theorem delivers_g1PointBytes (point : List String) (fieldName : String) :
    Delivers (g1PointBytes json point fieldName) ((g1Integers json point).map g1Bytes) := by
  have hparts := Delivers.mapM fun s => delivers_bigintString json s 32
  have hpoint := (delivers_affineComponents point fieldName).bind fun components =>
    (hparts components).map (f := List.flatten)
  rw [g1Integers]
  split
  next hempty => rwa [if_pos hempty] at hpoint
  next hne =>
    rw [if_neg hne, Option.bind_eq_bind, Option.bind_some, Option.map_map] at hpoint
    exact hpoint

theorem delivers_processG2Component (components : List String) :
    Delivers (processG2Component json components)
      ((pairIntegers json components).map fun value => (beList 32 value.2, beList 32 value.1)) := by
  have hsplit (n0 n1 : ℕ) :
      (resize (toBytesLe n0) 32 ++ resize (toBytesLe n1) 32).reverse = beList 32 n1 ++ beList 32 n0 := by
    rw [resize_toBytesLe, resize_toBytesLe, List.reverse_append, beList, beList]
  have hpair (c0 c1 : String) : Delivers (processG2Component json [c0, c1])
      (integerOf json c0 >>= fun n0 => integerOf json c1 >>= fun n1 =>
        some (beList 32 n1, beList 32 n0)) := by
    refine (delivers_parse json fun e => "Failed to parse bigint: " ++ e).bind fun n0 => ?_
    refine (delivers_parse json fun e => "Failed to parse bigint: " ++ e).bind fun n1 => ?_
    simp only [hsplit, List.take_left' (beList_length 32 n1), List.drop_left' (beList_length 32 n1)]
    rw [List.take_of_length_le (beList_length 32 n0).le]
    exact Delivers.pure _
  rcases components with _ | ⟨c0, _ | ⟨c1, _ | ⟨c2, components⟩⟩⟩
  · exact ⟨_, rfl⟩
  · exact ⟨_, rfl⟩
  · have h := hpair c0 c1
    simp only [pairIntegers]
    cases hc0 : integerOf json c0 with
    | none => rwa [hc0] at h
    | some n0 =>
      rw [hc0] at h
      cases hc1 : integerOf json c1 with
      | none => rwa [hc1] at h
      | some n1 => rwa [hc1] at h
  · exact ⟨_, rfl⟩

theorem delivers_g2PointBytes (point : List (List String)) (fieldName : String) :
    Delivers (g2PointBytes json point fieldName) ((g2Integers json point).map g2Bytes) := by
  have hparts := Delivers.mapM (delivers_processG2Component json)
  have hpoint := (delivers_affineComponents point fieldName).bind fun pairs =>
    (hparts pairs).map (f := List.flatMap fun part => part.1 ++ part.2)
  rw [g2Integers]
  split
  next hempty => rwa [if_pos hempty] at hpoint
  next hne =>
    rw [if_neg hne, Option.bind_eq_bind, Option.bind_some, Option.map_map] at hpoint
    have hbytes : (List.flatMap fun part : List UInt8 × List UInt8 => part.1 ++ part.2) ∘
        (List.map fun value : ℕ × ℕ => (beList 32 value.2, beList 32 value.1)) = g2Bytes := by
      funext values
      rw [Function.comp_apply, List.flatMap_map, g2Bytes]
    rwa [hbytes] at hpoint

theorem delivers_icPointBytes (pointIndex : ℕ) (points : List (List String)) :
    Delivers (icPointBytes json pointIndex points)
      ((points.mapM (g1Integers json)).map (List.map g1Bytes)) := by
  induction points generalizing pointIndex with
  | nil => exact Delivers.pure []
  | cons point points ih =>
    have hfirst := delivers_g1PointBytes json point ("IC[" ++ toString pointIndex ++ "]")
    have hcons := hfirst.bind fun pointBytes =>
      (ih (pointIndex + 1)).bind fun rest => Delivers.pure (pointBytes :: rest)
    rw [List.mapM_cons]
    cases hpoint : g1Integers json point with
    | none => rwa [hpoint] at hcons
    | some values =>
      rw [hpoint] at hcons
      cases hrest : points.mapM (g1Integers json) with
      | none => rwa [hrest] at hcons
      | some rest => rwa [hrest] at hcons

/-! ## Keys -/

/-- What the generator has read when it compares delta with gamma. -/
structure KeyHead (G1 G2 : Type) where
  alpha : G1
  beta : G2
  gamma : G2
  delta : G2

def headBytes (rawVk : RawVerifyingKey) :
    Except VkParseError (ℕ × KeyHead (List UInt8) (List UInt8)) := do
  let nrPubinputs ← okOr (.invalidData "IC is empty; expected at least the constant K[0] term")
    (checkedSub rawVk.ic.length 1)
  let alpha ← g1PointBytes json rawVk.vkAlpha1 "vk_alpha_1"
  let beta ← g2PointBytes json rawVk.vkBeta2 "vk_beta_2"
  let gamma ← g2PointBytes json rawVk.vkGamma2 "vk_gamma_2"
  let delta ← g2PointBytes json rawVk.vkDelta2 "vk_delta_2"
  return (nrPubinputs, { alpha, beta, gamma, delta })

abbrev HeadIntegers := KeyHead (List ℕ) (List (ℕ × ℕ))

def headIntegers (rawVk : RawVerifyingKey) : Option (ℕ × HeadIntegers) := do
  let nrPubinputs ← checkedSub rawVk.ic.length 1
  let alpha ← g1Integers json rawVk.vkAlpha1
  let beta ← g2Integers json rawVk.vkBeta2
  let gamma ← g2Integers json rawVk.vkGamma2
  let delta ← g2Integers json rawVk.vkDelta2
  return (nrPubinputs, { alpha, beta, gamma, delta })

def icIntegers (rawVk : RawVerifyingKey) : Option (List (List ℕ)) := rawVk.ic.mapM (g1Integers json)

theorem pairIntegers_eq_some_iff {pair : List String} {value : ℕ × ℕ} :
    pairIntegers json pair = some value ↔
      ∃ c0 c1, pair = [c0, c1] ∧ integerOf json c0 = some value.1 ∧ integerOf json c1 = some value.2 := by
  rcases pair with _ | ⟨c0, _ | ⟨c1, _ | ⟨c2, pair⟩⟩⟩
  · simp [pairIntegers]
  · simp [pairIntegers]
  · simp [pairIntegers, Option.bind_eq_some_iff, Prod.ext_iff]
  · simp [pairIntegers]

theorem g1Integers_eq_some_iff {point : List String} {values : List ℕ} :
    g1Integers json point = some values ↔
      point ≠ [] ∧ point.dropLast.mapM (integerOf json) = some values := by
  rw [g1Integers]
  split <;> simp [*]

theorem g2Integers_eq_some_iff {point : List (List String)} {values : List (ℕ × ℕ)} :
    g2Integers json point = some values ↔
      point ≠ [] ∧ point.dropLast.mapM (pairIntegers json) = some values := by
  rw [g2Integers]
  split <;> simp [*]

theorem headIntegers_eq_some_iff {rawVk : RawVerifyingKey} {nrPubinputs : ℕ} {head : HeadIntegers} :
    headIntegers json rawVk = some (nrPubinputs, head) ↔
      (1 ≤ rawVk.ic.length ∧ nrPubinputs = rawVk.ic.length - 1) ∧
        g1Integers json rawVk.vkAlpha1 = some head.alpha ∧
        g2Integers json rawVk.vkBeta2 = some head.beta ∧
        g2Integers json rawVk.vkGamma2 = some head.gamma ∧
        g2Integers json rawVk.vkDelta2 = some head.delta := by
  obtain ⟨alpha, beta, gamma, delta⟩ := head
  simp only [headIntegers, checkedSub, Option.bind_eq_bind, Option.bind_eq_some_iff,
    Option.ite_none_right_eq_some, Option.some.injEq, Option.pure_def, Prod.mk.injEq, KeyHead.mk.injEq]
  constructor
  · rintro ⟨_, ⟨hpos, rfl⟩, _, halpha, _, hbeta, _, hgamma, _, hdelta, rfl, rfl, rfl, rfl, rfl⟩
    exact ⟨⟨hpos, rfl⟩, halpha, hbeta, hgamma, hdelta⟩
  · rintro ⟨⟨hpos, rfl⟩, halpha, hbeta, hgamma, hdelta⟩
    exact ⟨_, ⟨hpos, rfl⟩, _, halpha, _, hbeta, _, hgamma, _, hdelta, rfl, rfl, rfl, rfl, rfl⟩

theorem delivers_headBytes (rawVk : RawVerifyingKey) :
    Delivers (headBytes json rawVk) ((headIntegers json rawVk).map fun head =>
      (head.1, ⟨g1Bytes head.2.alpha, g2Bytes head.2.beta, g2Bytes head.2.gamma,
        g2Bytes head.2.delta⟩)) := by
  have hhead := (Delivers.okOr "IC is empty; expected at least the constant K[0] term"
      (checkedSub rawVk.ic.length 1)).bind fun nrPubinputs =>
    (delivers_g1PointBytes json rawVk.vkAlpha1 "vk_alpha_1").bind fun alpha =>
    (delivers_g2PointBytes json rawVk.vkBeta2 "vk_beta_2").bind fun beta =>
    (delivers_g2PointBytes json rawVk.vkGamma2 "vk_gamma_2").bind fun gamma =>
    (delivers_g2PointBytes json rawVk.vkDelta2 "vk_delta_2").bind fun delta =>
    Delivers.pure (nrPubinputs, (⟨alpha, beta, gamma, delta⟩ : KeyHead (List UInt8) (List UInt8)))
  simp only [Option.bind_eq_bind, Option.bind_map, Function.comp_def] at hhead
  simp only [headIntegers, Option.bind_eq_bind, Option.map_bind, Function.comp_def, Option.pure_def,
    Option.map_some]
  exact hhead

/-- The key that is written for the integers. -/
def circomKey (nrPubinputs : ℕ) (head : HeadIntegers) (ic : List (List ℕ)) : CircomKey :=
  { nrPubinputs
    alphaBytes := g1Bytes head.alpha
    betaBytes := g2Bytes head.beta
    gammaBytes := g2Bytes head.gamma
    deltaBytes := g2Bytes head.delta
    icBytes := ic.map g1Bytes }

def circomFile (key : CircomKey) (setup : SetupKind) (provingKeySha256 : Bytes 32) : String :=
  circomSource key setup ++
    metadataRustSource (circomSource key setup) "VERIFYINGKEY" setup provingKeySha256

section Parse
variable {json} {jsonContent : String} {rawVk : RawVerifyingKey} {setup : SetupKind}
  {provingKeySha256 : Bytes 32}

theorem fromStr_of_parse {src : String}
    (hsrc : parseVkJsonToRustString json jsonContent setup provingKeySha256 = .ok src) :
    ∃ rawVk, json.fromStr jsonContent = .ok rawVk := by
  unfold parseVkJsonToRustString at hsrc
  cases hjson : json.fromStr jsonContent with
  | error e =>
    rw [hjson] at hsrc
    cases hsrc
  | ok rawVk => exact ⟨rawVk, rfl⟩

theorem parse_of_json (hjson : json.fromStr jsonContent = .ok rawVk) :
    parseVkJsonToRustString json jsonContent setup provingKeySha256 = (do
      let (nrPubinputs, head) ← headBytes json rawVk
      if setup = .production ∧ head.gamma = head.delta then .error .forgeableProductionVk
      else do
        let icBytes ← icPointBytes json 0 rawVk.ic
        return circomFile ⟨nrPubinputs, head.alpha, head.beta, head.gamma, head.delta, icBytes⟩ setup
          provingKeySha256) := by
  have hjson' : (json.fromStr jsonContent).mapError VkParseError.jsonError = .ok rawVk := by
    rw [hjson]
    rfl
  unfold parseVkJsonToRustString headBytes
  rw [hjson', ok_bind]
  simp only [bind_assoc, pure_bind, deltaEqualsGamma, decide_eq_true_eq]
  rfl

/-- Gamma and delta have the same bytes, which hold the coordinates modulo `2^256`. -/
def SameLowParts (gamma delta : List (ℕ × ℕ)) : Prop :=
  gamma.map (fun value => (value.1 % 2 ^ 256, value.2 % 2 ^ 256)) =
    delta.map fun value => (value.1 % 2 ^ 256, value.2 % 2 ^ 256)

theorem beList_eq_iff {v w : ℕ} : beList 32 v = beList 32 w ↔ v % 2 ^ 256 = w % 2 ^ 256 := by
  constructor
  · intro h
    have hvalue := congrArg beNat h
    rwa [beNat_beList, beNat_beList] at hvalue
  · intro h
    refine beNat_inj (by simp) ?_
    rw [beNat_beList, beNat_beList]
    exact h

theorem g2Bytes_cons (v : ℕ × ℕ) (values : List (ℕ × ℕ)) :
    g2Bytes (v :: values) = beList 32 v.2 ++ (beList 32 v.1 ++ g2Bytes values) := by
  rw [g2Bytes, List.flatMap_cons, List.append_assoc, g2Bytes]

theorem g2Bytes_cons_ne_nil (v : ℕ × ℕ) (values : List (ℕ × ℕ)) : g2Bytes (v :: values) ≠ [] := by
  intro h
  have hlen := congrArg List.length h
  rw [g2Bytes_cons, List.length_append, beList_length] at hlen
  simp at hlen

theorem g2Bytes_eq_iff (gamma delta : List (ℕ × ℕ)) :
    g2Bytes gamma = g2Bytes delta ↔ SameLowParts gamma delta := by
  rw [SameLowParts]
  induction gamma generalizing delta with
  | nil =>
    cases delta with
    | nil => exact iff_of_true rfl rfl
    | cons d delta => exact iff_of_false (g2Bytes_cons_ne_nil d delta).symm (by simp)
  | cons g gamma ih =>
    cases delta with
    | nil => exact iff_of_false (g2Bytes_cons_ne_nil g gamma) (by simp)
    | cons d delta =>
      have hsplit : g2Bytes (g :: gamma) = g2Bytes (d :: delta) ↔
          beList 32 g.2 = beList 32 d.2 ∧ beList 32 g.1 = beList 32 d.1 ∧
            g2Bytes gamma = g2Bytes delta := by
        rw [g2Bytes_cons, g2Bytes_cons]
        constructor
        · intro h
          obtain ⟨h₂, h⟩ := List.append_inj h (by simp)
          obtain ⟨h₁, h⟩ := List.append_inj h (by simp)
          exact ⟨h₂, h₁, h⟩
        · rintro ⟨h₂, h₁, h⟩
          rw [h₂, h₁, h]
      rw [hsplit, beList_eq_iff, beList_eq_iff, ih, List.map_cons, List.map_cons, List.cons.injEq,
        Prod.mk.injEq]
      tauto

/-- Distinct integers of 32 bytes have distinct bytes. -/
theorem SameLowParts.eq {gamma delta : List (ℕ × ℕ)} (h : SameLowParts gamma delta)
    (hgamma : ∀ value ∈ gamma, value.1 < 2 ^ 256 ∧ value.2 < 2 ^ 256)
    (hdelta : ∀ value ∈ delta, value.1 < 2 ^ 256 ∧ value.2 < 2 ^ 256) : gamma = delta := by
  have hlow {values : List (ℕ × ℕ)} (hvalues : ∀ value ∈ values, value.1 < 2 ^ 256 ∧ value.2 < 2 ^ 256) :
      values.map (fun value => (value.1 % 2 ^ 256, value.2 % 2 ^ 256)) = values := by
    refine (List.map_congr_left fun value hvalue => ?_).trans (List.map_id _)
    obtain ⟨h₁, h₂⟩ := hvalues value hvalue
    rw [Nat.mod_eq_of_lt h₁, Nat.mod_eq_of_lt h₂, id]
  rwa [SameLowParts, hlow hgamma, hlow hdelta] at h

/-- Gamma and delta cannot be told apart in a production key. -/
def RefusedForgeable (setup : SetupKind) (head : HeadIntegers) : Prop :=
  setup = .production ∧ SameLowParts head.gamma head.delta

/-! ## What the generator does with a key -/

variable (setup) in
/-- Some part that the generator comes to is unreadable. -/
def UnreadableKey (json : JsonPackages) (rawVk : RawVerifyingKey) : Prop :=
  headIntegers json rawVk = none ∨
    ∃ head, headIntegers json rawVk = some head ∧ ¬ RefusedForgeable setup head.2 ∧
      icIntegers json rawVk = none

variable (setup) in
def RefusedKey (json : JsonPackages) (rawVk : RawVerifyingKey) : Prop :=
  ∃ head, headIntegers json rawVk = some head ∧ RefusedForgeable setup head.2

/-- Every part of the key is readable, and the key is not refused. -/
structure GeneratedKey (setup : SetupKind) (json : JsonPackages) (rawVk : RawVerifyingKey)
    (nrPubinputs : ℕ) (head : HeadIntegers) (ic : List (List ℕ)) : Prop where
  headIntegers_eq : headIntegers json rawVk = some (nrPubinputs, head)
  not_refused : ¬ RefusedForgeable setup head
  icIntegers_eq : icIntegers json rawVk = some ic

theorem key_cases (json : JsonPackages) (rawVk : RawVerifyingKey) (setup : SetupKind) :
    UnreadableKey setup json rawVk ∨ RefusedKey setup json rawVk ∨
    ∃ nrPubinputs head ic, GeneratedKey setup json rawVk nrPubinputs head ic := by
  rw [UnreadableKey, RefusedKey]
  cases hhead : headIntegers json rawVk with
  | none => exact Or.inl (Or.inl rfl)
  | some found =>
    by_cases hforge : RefusedForgeable setup found.2
    · exact Or.inr (Or.inl ⟨found, rfl, hforge⟩)
    · cases hic : icIntegers json rawVk with
      | none => exact Or.inl (Or.inr ⟨found, rfl, hforge, rfl⟩)
      | some ic => exact Or.inr (Or.inr ⟨found.1, found.2, ic, hhead, hforge, hic⟩)

variable (provingKeySha256 : Bytes 32)

theorem parse_of_head {nrPubinputs : ℕ} {head : HeadIntegers}
    (hjson : json.fromStr jsonContent = .ok rawVk)
    (hhead : headIntegers json rawVk = some (nrPubinputs, head)) :
    parseVkJsonToRustString json jsonContent setup provingKeySha256 =
      if setup = .production ∧ g2Bytes head.gamma = g2Bytes head.delta then .error .forgeableProductionVk
      else do
        let icBytes ← icPointBytes json 0 rawVk.ic
        return circomFile ⟨nrPubinputs, g1Bytes head.alpha, g2Bytes head.beta, g2Bytes head.gamma,
          g2Bytes head.delta, icBytes⟩ setup provingKeySha256 := by
  have h := delivers_headBytes json rawVk
  rw [hhead] at h
  have hbytes : headBytes json rawVk = .ok (nrPubinputs,
    ⟨g1Bytes head.alpha, g2Bytes head.beta, g2Bytes head.gamma, g2Bytes head.delta⟩) := h
  rw [parse_of_json hjson, hbytes, ok_bind]

theorem parse_of_unreadable (hjson : json.fromStr jsonContent = .ok rawVk)
    (h : UnreadableKey setup json rawVk) :
    ∃ message, parseVkJsonToRustString json jsonContent setup provingKeySha256 =
      .error (.invalidData message) := by
  rcases h with hhead | ⟨⟨nrPubinputs, head⟩, hhead, hforge, hic⟩
  · have hbytes := delivers_headBytes json rawVk
    rw [hhead] at hbytes
    obtain ⟨message, hmessage⟩ := hbytes
    refine ⟨message, ?_⟩
    rw [parse_of_json hjson, hmessage]
    rfl
  · have hbytes := delivers_icPointBytes json 0 rawVk.ic
    rw [icIntegers] at hic
    rw [hic] at hbytes
    rw [RefusedForgeable, ← g2Bytes_eq_iff] at hforge
    obtain ⟨message, hmessage⟩ := hbytes
    refine ⟨message, ?_⟩
    rw [parse_of_head provingKeySha256 hjson hhead, if_neg hforge, hmessage]
    rfl

theorem parse_of_refused (hjson : json.fromStr jsonContent = .ok rawVk)
    (h : RefusedKey setup json rawVk) :
    parseVkJsonToRustString json jsonContent setup provingKeySha256 = .error .forgeableProductionVk := by
  obtain ⟨⟨nrPubinputs, head⟩, hhead, hforge⟩ := h
  rw [RefusedForgeable, ← g2Bytes_eq_iff] at hforge
  rw [parse_of_head provingKeySha256 hjson hhead, if_pos hforge]

variable {nrPubinputs : ℕ} {head : HeadIntegers} {ic : List (List ℕ)}

theorem parse_of_generated (hjson : json.fromStr jsonContent = .ok rawVk)
    (h : GeneratedKey setup json rawVk nrPubinputs head ic) :
    parseVkJsonToRustString json jsonContent setup provingKeySha256 =
      .ok (circomFile (circomKey nrPubinputs head ic) setup provingKeySha256) := by
  have hbytes := delivers_icPointBytes json 0 rawVk.ic
  have hic := h.icIntegers_eq
  have hforge := h.not_refused
  rw [icIntegers] at hic
  rw [hic] at hbytes
  have hrows : icPointBytes json 0 rawVk.ic = .ok (ic.map g1Bytes) := hbytes
  rw [RefusedForgeable, ← g2Bytes_eq_iff] at hforge
  rw [parse_of_head provingKeySha256 hjson h.headIntegers_eq, if_neg hforge, hrows]
  rfl

theorem generated_of_parse {src : String} (hjson : json.fromStr jsonContent = .ok rawVk)
    (hsrc : parseVkJsonToRustString json jsonContent setup provingKeySha256 = .ok src) :
    ∃ nrPubinputs head ic, GeneratedKey setup json rawVk nrPubinputs head ic ∧
      src = circomFile (circomKey nrPubinputs head ic) setup provingKeySha256 := by
  rcases key_cases json rawVk setup with hunreadable | hrefused | ⟨nrPubinputs, head, ic, hkey⟩
  · obtain ⟨message, hmessage⟩ := parse_of_unreadable provingKeySha256 hjson hunreadable
    rw [hmessage] at hsrc
    cases hsrc
  · rw [parse_of_refused provingKeySha256 hjson hrefused] at hsrc
    cases hsrc
  · rw [parse_of_generated provingKeySha256 hjson hkey] at hsrc
    exact ⟨nrPubinputs, head, ic, hkey, (Except.ok.inj hsrc).symm⟩

end Parse

end Groth16Solana
