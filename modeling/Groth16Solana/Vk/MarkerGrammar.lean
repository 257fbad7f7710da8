import Groth16Solana.Vk.Binary

/-! # The grammar of a marker's body

What stands between the two delimiters of a marker is three fields, the last of them a digest of 64
hexadecimal digits. The reader takes all of that, and one kind of digest more: a pair of digits may also
be a plus sign and one digit. -/

set_option autoImplicit false

namespace Groth16Solana
open Foundations

/-- A body between the two delimiters. -/
def delimited (body : List UInt8) : List UInt8 :=
  asBytes setupTxtBegin ++ body ++ asBytes setupTxtEnd

/-- Every key and value with its NUL. -/
def fieldBytes (name : String) (insecureTestSetup : Bool) (digits : List UInt8) : List UInt8 :=
  terminated 0 [asBytes fieldName, asBytes name, asBytes fieldInsecureTestSetup,
    asBytes (boolText insecureTestSetup), asBytes fieldProvingKeySha256, digits]

/-- The body is in the grammar, and stands for the entry. The name being a string, the body is UTF-8. -/
structure MarkerBody (body : List UInt8) (txt : SetupTxt) : Prop where
  name_free : 0 ∉ asBytes txt.name
  exists_digits : ∃ digits, HexBytes digits txt.provingKeySha256.toList ∧
    body = fieldBytes txt.name txt.insecureTestSetup digits

/-- The reader gives the entry the body stands for, and refuses a body that stands for none. -/
def ReadsItsGrammar (body : List UInt8) : Prop :=
  (∀ txt, findSetupTxts (delimited body) = .ok [txt] ↔ MarkerBody body txt) ∧
    ((∀ txt, ¬ MarkerBody body txt) →
      ∃ reason, findSetupTxts (delimited body) = .error (.malformed 0 reason))

/-- The digest is 32 pairs, each two digits or a plus sign and one digit, and one of them has the sign. -/
structure HasSignedPair (digits : List UInt8) : Prop where
  length_eq : digits.length = 64
  pairs : ∀ pair ∈ pairsOf digits, ∃ b, DigitPair pair b ∨ SignedPair pair b
  signed : ∃ pair ∈ pairsOf digits, ∃ b, SignedPair pair b

def SignedBody (body : List UInt8) : Prop :=
  ∃ name insecureTestSetup digits, 0 ∉ asBytes name ∧ HasSignedPair digits ∧
    body = fieldBytes name insecureTestSetup digits

/-! ## What the reader accepts -/

variable {body digits : List UInt8} {txt : SetupTxt} {offset : ℕ}

/-- A body that parses is one of the grammar, if its digest may have signed pairs. -/
theorem parseBody_eq_ok_iff_fieldBytes :
    parseBody body offset = .ok txt ↔
      ∃ digits, 0 ∉ asBytes txt.name ∧ digits.length = 64 ∧
        List.Forall₂ (fun pair b => DigitPair pair b ∨ SignedPair pair b) (pairsOf digits)
          txt.provingKeySha256.toList ∧
        body = fieldBytes txt.name txt.insecureTestSetup digits := by
  rw [parseBody_eq_ok_iff]
  simp only [fromHex_eq_some_iff, asBytes_nulTerminated, ← zero_mem_asBytes]
  constructor
  · rintro ⟨digits, rfl, hname, -, hlen, hpairs⟩
    exact ⟨asBytes digits, hname, hlen, hpairs, rfl⟩
  · rintro ⟨digits, hname, hlen, hpairs, rfl⟩
    have hread := exists_of_forall₂ hpairs
    obtain ⟨s, rfl⟩ := exists_asBytes_of_ascii fun d hd => (ascii_of_pairs (n := 32) hlen hread hd).2
    exact ⟨s, rfl, hname, fun hzero => (ascii_of_pairs (n := 32) hlen hread hzero).1 rfl, hlen, hpairs⟩

/-! ## What it refuses -/

section Errors
variable {err : SetupTxtError}

theorem malformed_of_takeField {key : String} {parts : List String}
    (h : takeField offset key parts = .error err) : ∃ reason, err = .malformed offset reason := by
  unfold takeField at h
  split at h
  · split at h
    · cases h
    · cases h
      exact ⟨_, rfl⟩
  · cases h
    exact ⟨_, rfl⟩

theorem malformed_of_parseFlag {flag : String} (h : parseFlag offset flag = .error err) :
    ∃ reason, err = .malformed offset reason := by
  unfold parseFlag at h
  split at h
  · cases h
  · cases h
  · cases h
    exact ⟨_, rfl⟩

/-- Every error of the body parser is at the marker's offset. -/
theorem malformed_of_parseBody (h : parseBody body offset = .error err) :
    ∃ reason, err = .malformed offset reason := by
  simp only [parseBody, bind_eq_error, okOr_eq_error, Prod.exists] at h
  rcases h with ⟨-, rfl⟩ | ⟨text, -, h⟩
  · exact ⟨_, rfl⟩
  rcases h with h | ⟨name, parts, -, h⟩
  · exact malformed_of_takeField h
  rcases h with h | ⟨flag, parts, -, h⟩
  · exact malformed_of_takeField h
  rcases h with h | ⟨insecureTestSetup, -, h⟩
  · exact malformed_of_parseFlag h
  rcases h with h | ⟨digits, parts, -, h⟩
  · exact malformed_of_takeField h
  rcases h with ⟨-, rfl⟩ | ⟨digest, -, h⟩
  · exact ⟨_, rfl⟩
  split at h
  · cases h
    exact ⟨_, rfl⟩
  · cases h

end Errors

/-! ## The scan over one marker -/

/-- The only turn reads the body up to its closing delimiter. -/
theorem scanNext_delimited (hend : ¬ asBytes setupTxtEnd <:+: body) :
    scanNext (delimited body) 0 =
      (parseBody body 0).map fun txt => some (txt, (delimited body).length) := by
  have hbegin : findBytes (delimited body) (asBytes setupTxtBegin) = some 0 := by
    rw [findBytes_eq_some_iff (by decide), List.drop_zero, delimited, List.append_assoc]
    exact ⟨List.prefix_append _ _, fun j hj => absurd hj (Nat.not_lt_zero j)⟩
  have hbody : (delimited body).drop (asBytes setupTxtBegin).length = body ++ asBytes setupTxtEnd := by
    rw [delimited, List.append_assoc, List.drop_left]
  have hlen : findBytes (body ++ asBytes setupTxtEnd) (asBytes setupTxtEnd) = some body.length := by
    rw [asBytes_setupTxtEnd] at hend ⊢
    have hfind := @findBytes_append _ _ _ _ _ [] zero_notMem_endText hend
    rwa [List.append_nil] at hfind
  have htake : getTo (body ++ asBytes setupTxtEnd) body.length = some body := by
    rw [getTo_eq (by simp), List.take_left]
  have hpos : (asBytes setupTxtBegin).length + body.length + (asBytes setupTxtEnd).length =
      (delimited body).length := by
    rw [delimited, List.length_append, List.length_append]
  unfold scanNext
  simp only [getFrom_getD, List.drop_zero, hbegin, Nat.zero_add, hbody, hlen, okOr_some, ok_bind, htake,
    hpos]
  cases parseBody body 0 with
  | ok txt => rfl
  | error err => rfl

theorem findSetupTxts_delimited (hend : ¬ asBytes setupTxtEnd <:+: body) :
    findSetupTxts (delimited body) = (parseBody body 0).map fun txt => [txt] := by
  have hturn := scanNext_delimited hend
  cases hparse : parseBody body 0 with
  | ok txt =>
    rw [hparse] at hturn
    rw [findSetupTxts, Except.map, scanFrom_eq_ok_iff]
    refine Or.inr ⟨_, _, hturn, ?_⟩
    rw [scanFrom_eq_ok_iff, scanNext_eq_ok_none_iff, List.drop_length]
    exact Or.inl ⟨by decide, rfl⟩
  | error err =>
    rw [hparse] at hturn
    exact scanFrom_of_error hturn

theorem findSetupTxts_eq_ok_iff (hend : ¬ asBytes setupTxtEnd <:+: body) :
    findSetupTxts (delimited body) = .ok [txt] ↔ parseBody body 0 = .ok txt := by
  rw [findSetupTxts_delimited hend]
  cases parseBody body 0 <;> simp [Except.map]

/-! ## The grammar and what is accepted beyond it -/

theorem parseBody_of_markerBody (h : MarkerBody body txt) : parseBody body offset = .ok txt := by
  obtain ⟨hname, digits, hdigits, hbody⟩ := h
  obtain ⟨hlen, hpairs⟩ := hexBytes_iff.mp hdigits
  rw [Vector.length_toList] at hlen
  rw [parseBody_eq_ok_iff_fieldBytes]
  exact ⟨digits, hname, hlen, hpairs.imp fun _ _ => Or.inl, hbody⟩

/-- A body that parses is in the grammar, or its digest has a signed pair. -/
theorem markerBody_or_signedBody (h : parseBody body offset = .ok txt) :
    MarkerBody body txt ∨ SignedBody body := by
  obtain ⟨digits, hname, hlen, hpairs, hbody⟩ := parseBody_eq_ok_iff_fieldBytes.mp h
  by_cases hsigned : ∃ pair ∈ pairsOf digits, ∃ b, SignedPair pair b
  · right
    refine ⟨txt.name, txt.insecureTestSetup, digits, hname, ⟨hlen, ?_, hsigned⟩, hbody⟩
    exact exists_of_forall₂ hpairs
  · left
    refine ⟨hname, digits, hexBytes_iff.mpr ⟨by rw [hlen, Vector.length_toList], ?_⟩, hbody⟩
    rw [List.forall₂_iff_zip] at hpairs ⊢
    refine ⟨hpairs.1, fun {pair b} hzip => ?_⟩
    rcases hpairs.2 hzip with hdigits | hsign
    · exact hdigits
    · exact absurd ⟨pair, (List.of_mem_zip hzip).1, b, hsign⟩ hsigned

/-- What is written is in the grammar. -/
theorem markerBody_bodyBytes (hname : txt.WellNamed) :
    MarkerBody (terminated 0 txt.bodyBytes) txt := by
  refine ⟨?_, asBytes (toHex txt.provingKeySha256.toList), hexBytes_toHex _, rfl⟩
  rw [zero_mem_asBytes]
  exact hname.1

theorem not_markerBody_of_signed {name : String} {insecureTestSetup : Bool} {digest : Bytes 32}
    (hsigned : HasSignedPair digits) :
    ¬ MarkerBody (fieldBytes name insecureTestSetup digits) ⟨name, insecureTestSetup, digest⟩ := by
  rintro ⟨-, digits', hdigits, hbody⟩
  obtain rfl : digits = digits' := by simpa [fieldBytes] using hbody
  obtain ⟨pair, hmem, b, hsign⟩ := hsigned.signed
  obtain ⟨b', hpair⟩ := exists_of_forall₂ (hexBytes_iff.mp hdigits).2 pair hmem
  exact not_digitPair_of_signedPair hsign hpair

/-- A body whose digest has a signed pair parses, to an entry it does not stand for. -/
theorem exists_parse_of_signedBody (offset : ℕ) (h : SignedBody body) :
    ∃ txt, parseBody body offset = .ok txt ∧ ¬ MarkerBody body txt := by
  obtain ⟨name, insecureTestSetup, digits, hname, hsigned, rfl⟩ := h
  obtain ⟨bytes, hpairs⟩ := exists_forall₂ hsigned.pairs
  have hlen : bytes.length = 32 := by
    rw [← hpairs.length_eq, (flatten_pairsOf (n := 32) hsigned.length_eq).2]
  obtain ⟨digest, rfl⟩ : ∃ digest : Bytes 32, digest.toList = bytes := ⟨Bytes.ofList bytes hlen, rfl⟩
  refine ⟨⟨name, insecureTestSetup, digest⟩, ?_, not_markerBody_of_signed hsigned⟩
  rw [parseBody_eq_ok_iff_fieldBytes]
  exact ⟨digits, hname, hsigned.length_eq, hpairs, rfl⟩

theorem not_signedBody_bodyBytes (hname : txt.WellNamed) :
    ¬ SignedBody (terminated 0 txt.bodyBytes) := by
  intro hsigned
  obtain ⟨txt', hparse, hnot⟩ := exists_parse_of_signedBody 0 hsigned
  rw [parseBody_bodyBytes hname] at hparse
  cases hparse
  exact hnot (markerBody_bodyBytes hname)

theorem readsItsGrammar_iff (body : List UInt8) (hend : ¬ asBytes setupTxtEnd <:+: body) :
    ReadsItsGrammar body ↔ ¬ SignedBody body := by
  constructor
  · intro hreads hsigned
    obtain ⟨txt, hparse, hnot⟩ := exists_parse_of_signedBody 0 hsigned
    exact hnot ((hreads.1 txt).mp ((findSetupTxts_eq_ok_iff hend).mpr hparse))
  · intro hsigned
    have hparses (txt : SetupTxt) : parseBody body 0 = .ok txt ↔ MarkerBody body txt :=
      ⟨fun h => (markerBody_or_signedBody h).resolve_right hsigned, parseBody_of_markerBody⟩
    refine ⟨fun txt => (findSetupTxts_eq_ok_iff hend).trans (hparses txt), ?_⟩
    intro hnone
    rw [findSetupTxts_delimited hend]
    cases hparse : parseBody body 0 with
    | ok txt => exact absurd ((hparses txt).mp hparse) (hnone txt)
    | error err =>
      obtain ⟨reason, rfl⟩ := malformed_of_parseBody hparse
      exact ⟨reason, rfl⟩

theorem readsItsGrammar_iff_small : ReadsItsGrammar (terminated 0 smallTxt.bodyBytes) := by
  have hname : smallTxt.WellNamed := ⟨by decide, by decide +kernel⟩
  have hend : ¬ asBytes setupTxtEnd <:+: terminated 0 smallTxt.bodyBytes := by decide +kernel
  exact (readsItsGrammar_iff _ hend).mpr (not_signedBody_bodyBytes hname)

/-- A digest of 32 plus signs, each with a digit behind it. -/
def signedDigits : List UInt8 := (List.replicate 32 [0x2b, 0x31]).flatten

def signedTxt : SetupTxt :=
  { name := "VK", insecureTestSetup := true, provingKeySha256 := Vector.replicate 32 1 }

def signedBody : List UInt8 :=
  fieldBytes signedTxt.name signedTxt.insecureTestSetup signedDigits

theorem pairsOf_signedDigits : pairsOf signedDigits = List.replicate 32 [0x2b, 0x31] := by decide

theorem signedPair_one : SignedPair [0x2b, 0x31] 1 := ⟨0x31, 1, rfl, by decide, by decide⟩

theorem hasSignedPair_signedDigits : HasSignedPair signedDigits := by
  refine ⟨by decide, ?_, ?_⟩
  · intro pair hmem
    rw [pairsOf_signedDigits] at hmem
    rw [List.eq_of_mem_replicate hmem]
    exact ⟨1, Or.inr signedPair_one⟩
  · rw [pairsOf_signedDigits]
    exact ⟨_, List.mem_replicate.mpr ⟨by decide, rfl⟩, 1, signedPair_one⟩

/-- A digest that is no 64 hexadecimal digits is read all the same. -/
theorem signedBody_accepted :
    ¬ asBytes setupTxtEnd <:+: signedBody ∧ findSetupTxts (delimited signedBody) = .ok [signedTxt] ∧
      ¬ MarkerBody signedBody signedTxt ∧ ¬ ReadsItsGrammar signedBody := by
  have hend : ¬ asBytes setupTxtEnd <:+: signedBody := by decide +kernel
  have hpairs : List.Forall₂ (fun pair b => DigitPair pair b ∨ SignedPair pair b) (pairsOf signedDigits)
      signedTxt.provingKeySha256.toList := by
    rw [pairsOf_signedDigits, List.forall₂_iff_zip]
    refine ⟨by decide, fun {pair b} hzip => ?_⟩
    have hdigest : signedTxt.provingKeySha256.toList = List.replicate 32 1 := by decide
    rw [hdigest, List.zip_replicate'] at hzip
    cases List.eq_of_mem_replicate hzip
    exact Or.inr signedPair_one
  have hread : findSetupTxts (delimited signedBody) = .ok [signedTxt] := by
    rw [findSetupTxts_eq_ok_iff hend, parseBody_eq_ok_iff_fieldBytes]
    exact ⟨signedDigits, by decide, by decide, hpairs, rfl⟩
  have hnot : ¬ MarkerBody signedBody signedTxt := not_markerBody_of_signed hasSignedPair_signedDigits
  exact ⟨hend, hread, hnot, fun hreads => hnot ((hreads.1 signedTxt).mp hread)⟩

end Groth16Solana
