import Groth16Solana.Vk.Markers

/-! # The scan skips no marker

A marker whose name could not be mistaken for its end is `WellNamed`. From a position not behind an
occurrence of such a marker, the scan either stops with an error or reaches the occurrence and reads it:
a stray opening delimiter in front of it would swallow one field too many. -/

set_option autoImplicit false

namespace Groth16Solana
open Foundations

/-- The name holds no NUL and does not end in the text of the closing delimiter. -/
def SetupTxt.WellNamed (txt : SetupTxt) : Prop :=
  '\x00' ∉ txt.name.toList ∧ ¬ endText <:+ asBytes txt.name

/-- The marker's bytes are at `offset`. -/
def SetupTxt.OccursAt (txt : SetupTxt) (binary : List UInt8) (offset : ℕ) : Prop :=
  asBytes txt.toMarker <+: binary.drop offset

variable {binary : List UInt8} {txt txt' : SetupTxt} {offset offset' pos : ℕ}

/-! ## The fields of a marker -/

theorem zero_notMem_bodyBytes (hname : txt.WellNamed) {field : List UInt8}
    (h : field ∈ txt.bodyBytes) :
    0 ∉ field := by
  have hflag : 0 ∉ asBytes (boolText txt.insecureTestSetup) := by
    cases txt.insecureTestSetup <;> decide
  have hdigits := zero_notMem_toHex txt.provingKeySha256.toList
  have hfree := hname.1
  rw [← zero_mem_asBytes] at hfree
  simp only [SetupTxt.bodyBytes, bodyFields, List.map_cons, List.map_nil, List.mem_cons,
    List.not_mem_nil, or_false] at h
  rcases h with rfl | rfl | rfl | rfl | rfl | rfl
  · decide
  · exact hfree
  · decide
  · exact hflag
  · decide
  · exact hdigits

theorem zero_notMem_markerField (hname : txt.WellNamed) {field : List UInt8}
    (h : field ∈ beginText :: txt.bodyBytes ++ [endText]) : 0 ∉ field := by
  rcases List.mem_append.mp h with h | h
  · rcases List.mem_cons.mp h with rfl | h
    · exact zero_notMem_beginText
    · exact zero_notMem_bodyBytes hname h
  · rw [List.mem_singleton.mp h]
    exact zero_notMem_endText

/-- An equals sign is no hexadecimal digit, and both delimiters end in one. -/
theorem not_suffix_toHex {needle bytes : List UInt8} (h : 0x3d ∈ needle) :
    ¬ needle <:+ asBytes (toHex bytes) := fun hsuffix =>
  absurd ((hexBytes_toHex bytes).isSome_hexDigit (hsuffix.subset h)) (by decide)

/-- No field before the last can be mistaken for the closing delimiter. -/
theorem endText_not_suffix (hname : txt.WellNamed) {field : List UInt8}
    (h : field ∈ beginText :: txt.bodyBytes) : ¬ endText <:+ field := by
  have hflag : ¬ endText <:+ asBytes (boolText txt.insecureTestSetup) := by
    cases txt.insecureTestSetup <;> decide
  simp only [SetupTxt.bodyBytes, bodyFields, List.map_cons, List.map_nil, List.mem_cons,
    List.not_mem_nil, or_false] at h
  rcases h with rfl | rfl | rfl | rfl | rfl | rfl | rfl
  · decide
  · decide
  · exact hname.2
  · decide
  · exact hflag
  · decide
  · exact not_suffix_toHex (by decide)

/-- Only the first field and the name can end in the text of the opening delimiter. -/
theorem beginText_not_suffix {field : List UInt8}
    (h : field ∈ (txt.bodyBytes ++ [endText]).drop 2) : ¬ beginText <:+ field := by
  have hflag : ¬ beginText <:+ asBytes (boolText txt.insecureTestSetup) := by
    cases txt.insecureTestSetup <;> decide
  simp only [SetupTxt.bodyBytes, bodyFields, List.map_cons, List.map_nil, List.cons_append,
    List.nil_append, List.drop_succ_cons, List.drop_zero, List.mem_cons, List.not_mem_nil,
    or_false] at h
  rcases h with rfl | rfl | rfl | rfl | rfl
  · decide
  · exact hflag
  · decide
  · exact not_suffix_toHex (by decide)
  · decide

def SetupTxt.endOffset (txt : SetupTxt) : ℕ := (terminated 0 (beginText :: txt.bodyBytes)).length

theorem toMarker_length (txt : SetupTxt) :
    (asBytes txt.toMarker).length = txt.endOffset + (asBytes setupTxtEnd).length := by
  rw [asBytes_toMarker, terminated_append, List.length_append, asBytes_setupTxtEnd]
  simp [SetupTxt.endOffset]

theorem endOffset_eq (txt : SetupTxt) :
    txt.endOffset = beginText.length + 1 + (terminated 0 txt.bodyBytes).length := by
  rw [SetupTxt.endOffset, terminated_cons, List.length_append, List.length_cons]
  omega

/-! ## Where the delimiters occur -/

/-- What follows an occurrence's opening delimiter. -/
theorem SetupTxt.OccursAt.exists_rest (h : txt.OccursAt binary offset) :
    ∃ rest, binary.drop offset = terminated 0 (beginText :: txt.bodyBytes ++ [endText]) ++ rest := by
  obtain ⟨rest, hrest⟩ := h
  exact ⟨rest, by rw [← hrest, asBytes_toMarker]⟩

/-- The bytes of an occurrence up to its closing delimiter. -/
theorem SetupTxt.OccursAt.take_endOffset (h : txt.OccursAt binary offset) :
    (binary.drop offset).take txt.endOffset = terminated 0 (beginText :: txt.bodyBytes) := by
  obtain ⟨rest, hrest⟩ := h.exists_rest
  rw [hrest, terminated_append, List.append_assoc, SetupTxt.endOffset, List.take_left]

theorem SetupTxt.OccursAt.begin (h : txt.OccursAt binary offset) :
    beginText ++ [0] <+: binary.drop offset := by
  obtain ⟨rest, hrest⟩ := h.exists_rest
  rw [hrest]
  simp

theorem SetupTxt.OccursAt.end_ (h : txt.OccursAt binary offset) :
    endText ++ [0] <+: binary.drop (offset + txt.endOffset) := by
  obtain ⟨rest, hrest⟩ := h.exists_rest
  rw [← List.drop_drop, hrest, terminated_append, List.append_assoc, SetupTxt.endOffset, List.drop_left]
  simp

/-- An opening delimiter ends before the next one starts. -/
theorem begin_disjoint (hlt : offset < offset') (h : beginText ++ [0] <+: binary.drop offset)
    (h' : beginText ++ [0] <+: binary.drop offset') : offset + beginText.length + 1 ≤ offset' :=
  add_length_le_of_occurs_self zero_notMem_beginText hlt h h'

/-- The first closing delimiter inside a marker is the marker's own. -/
theorem SetupTxt.OccursAt.endOffset_le (hname : txt.WellNamed) (h : txt.OccursAt binary offset)
    {i : ℕ} (hi : endText ++ [0] <+: binary.drop (offset + i)) : txt.endOffset ≤ i := by
  by_contra hlt
  obtain ⟨rest, hrest⟩ := h.exists_rest
  rw [← List.drop_drop, hrest] at hi
  have hlen : i < (terminated 0 (beginText :: txt.bodyBytes ++ [endText])).length := by
    rw [terminated_append, List.length_append, ← SetupTxt.endOffset]
    omega
  have hend := occurs_at_last zero_notMem_endText (fun _ => zero_notMem_markerField hname)
    (fun _ => endText_not_suffix hname) hi hlen
  rw [terminated_append, List.length_append, ← SetupTxt.endOffset] at hend
  simp at hend
  omega

/-- Two markers do not overlap: the text of an opening delimiter inside a marker is the end of the
name, and what follows the name is not what follows an opening delimiter. -/
theorem SetupTxt.OccursAt.disjoint (hname : txt.WellNamed) (h : txt.OccursAt binary offset)
    (h' : txt'.OccursAt binary offset') (hlt : offset < offset') :
    offset + (asBytes txt.toMarker).length ≤ offset' := by
  by_contra hover
  obtain ⟨i, rfl⟩ := Nat.exists_eq_add_of_le hlt.le
  obtain ⟨rest, hrest⟩ := h.exists_rest
  obtain ⟨rest', hrest'⟩ := h'.exists_rest
  have hbegin := h'.begin
  rw [← List.drop_drop, hrest] at hbegin hrest'
  rw [asBytes_toMarker] at hover
  obtain ⟨before, field, after, hfields, hsuffix, hend⟩ := occurs_in_terminated zero_notMem_beginText
    (fun _ => zero_notMem_markerField hname) hbegin (by omega)
  have hafter : terminated 0 after ++ rest = terminated 0 (txt'.bodyBytes ++ [endText]) ++ rest' := by
    have hdrop := congrArg (List.drop (beginText.length + 1)) hrest'
    rw [hfields, List.append_cons, terminated_append, List.append_assoc, List.drop_drop, ← Nat.add_assoc,
      hend, List.drop_left, List.cons_append, terminated_cons, List.append_assoc] at hdrop
    simpa [← List.drop_drop] using hdrop
  have heq := hfields
  rcases before with _ | ⟨b₀, _ | ⟨b₁, _ | ⟨b₂, before⟩⟩⟩
  · obtain ⟨rfl, -⟩ := List.cons.inj heq
    simp at hend
    omega
  · obtain ⟨-, heq⟩ := List.cons.inj heq
    obtain ⟨rfl, -⟩ := List.cons.inj heq
    exact absurd hsuffix (by decide)
  · obtain ⟨-, heq⟩ := List.cons.inj heq
    obtain ⟨-, heq⟩ := List.cons.inj heq
    obtain ⟨-, rfl⟩ := List.cons.inj heq
    have hnext : asBytes fieldInsecureTestSetup = asBytes fieldName :=
      (append_separator_inj (by decide) (by decide) hafter).1
    exact absurd hnext (by decide)
  · obtain ⟨-, heq⟩ := List.cons.inj heq
    have hmem : field ∈ (txt.bodyBytes ++ [endText]).drop 2 := by
      rw [show txt.bodyBytes ++ [endText] = b₁ :: b₂ :: (before ++ field :: after) from heq]
      simp
    exact beginText_not_suffix hmem hsuffix

/-! ## Bodies -/

theorem parseBody_bodyBytes (hname : txt.WellNamed) :
    parseBody (terminated 0 txt.bodyBytes) offset = .ok txt := by
  have hdigits := zero_notMem_toHex txt.provingKeySha256.toList
  rw [zero_mem_asBytes] at hdigits
  rw [parseBody_eq_ok_iff]
  exact ⟨toHex txt.provingKeySha256.toList, (asBytes_nulTerminated _).symm, hname.1, hdigits,
    fromHex_toHex _⟩

/-- A body that parses has six fields. -/
theorem count_zero_of_parseBody {body : List UInt8} (h : parseBody body offset = .ok txt) :
    body.count 0 = 6 := by
  obtain ⟨digits, rfl, hname, hdigits, -⟩ := parseBody_eq_ok_iff.mp h
  have hflag : 0 ∉ asBytes (boolText txt.insecureTestSetup) := by
    cases txt.insecureTestSetup <;> decide
  rw [← zero_mem_asBytes] at hname hdigits
  rw [asBytes_nulTerminated, count_terminated]
  · rfl
  · intro field hmem
    simp only [bodyFields, List.map_cons, List.map_nil, List.mem_cons, List.not_mem_nil, or_false] at hmem
    rcases hmem with rfl | rfl | rfl | rfl | rfl | rfl
    · decide
    · exact hname
    · decide
    · exact hflag
    · decide
    · exact hdigits

/-! ## The scan -/

variable {found list : List SetupTxt}

theorem scanFrom_eq_ok_iff :
    scanFrom binary pos found = .ok list ↔
      scanNext binary pos = .ok none ∧ found = list ∨
      ∃ txt pos', scanNext binary pos = .ok (some (txt, pos')) ∧
        scanFrom binary pos' (found ++ [txt]) = .ok list := by
  rw [scanFrom.eq_def]
  split
  next err herr => simp [herr]
  next hnone => simp [hnone]
  next txt pos' hsome => simp [hsome]

theorem scanFrom_of_error {err : SetupTxtError} (h : scanNext binary pos = .error err) :
    scanFrom binary pos found = .error err := by
  rw [scanFrom.eq_def]
  split
  next err' herr =>
    rw [herr] at h
    cases h
    rfl
  next hnone => simp [hnone] at h
  next hsome => simp [hsome] at h

theorem scanFrom_extends (hscan : scanFrom binary pos found = .ok list) : found <+: list := by
  induction pos, found using scanFrom.induct binary with
  | case1 pos found err herr =>
    rcases scanFrom_eq_ok_iff.mp hscan with ⟨hnone, -⟩ | ⟨txt, pos', hsome, -⟩
    · exact absurd (herr.symm.trans hnone) (by simp)
    · exact absurd (herr.symm.trans hsome) (by simp)
  | case2 pos found hnone =>
    rcases scanFrom_eq_ok_iff.mp hscan with ⟨-, rfl⟩ | ⟨txt, pos', hsome, -⟩
    · exact List.prefix_rfl
    · exact absurd (hnone.symm.trans hsome) (by simp)
  | case3 pos found txt pos' hsome ih =>
    rcases scanFrom_eq_ok_iff.mp hscan with ⟨hnone, -⟩ | ⟨txt', pos'', hsome', hrest⟩
    · exact absurd (hsome.symm.trans hnone) (by simp)
    · obtain ⟨rfl, rfl⟩ : txt = txt' ∧ pos' = pos'' := by simpa using hsome.symm.trans hsome'
      exact (List.prefix_append found [txt]).trans (ih hrest)

/-- What the scan swallows when a marker's closing delimiter ends the body of an earlier opening one:
a field too many. -/
theorem parseBody_swallowed (hname : txt.WellNamed) (front : List UInt8) :
    parseBody (front ++ terminated 0 (beginText :: txt.bodyBytes)) pos ≠ .ok txt' := by
  intro hparse
  have hcount := count_zero_of_parseBody hparse
  rw [List.count_append, count_terminated (z := 0)] at hcount
  · simp [SetupTxt.bodyBytes, bodyFields] at hcount
  · intro field hmem
    exact zero_notMem_markerField hname (List.mem_append_left _ hmem)

/-- What stands between a marker's delimiters parses to the marker. -/
theorem SetupTxt.OccursAt.parseBody_eq (hname : txt.WellNamed) (h : txt.OccursAt binary offset) :
    parseBody ((binary.drop (offset + (beginText.length + 1))).take
      (terminated 0 txt.bodyBytes).length) offset = .ok txt := by
  have htake := congrArg (List.drop (beginText.length + 1)) h.take_endOffset
  rw [List.drop_take, List.drop_drop, endOffset_eq, Nat.add_sub_cancel_left, terminated_cons,
    List.append_cons, List.drop_left' (by simp)] at htake
  rw [htake]
  exact parseBody_bodyBytes hname

/-- A turn that starts before a marker, and whose body parses, ends before it. -/
theorem end_before_marker (hname : txt.WellNamed) (h : txt.OccursAt binary offset) {first bodyLen : ℕ}
    (hlt : first < offset) (hbegin : beginText ++ [0] <+: binary.drop first)
    (hend : endText ++ [0] <+: binary.drop (first + (beginText.length + 1) + bodyLen))
    (hle : first + (beginText.length + 1) + bodyLen ≤ offset + txt.endOffset)
    (hparse : parseBody ((binary.drop (first + (beginText.length + 1))).take bodyLen) first = .ok txt') :
    first + (beginText.length + 1) + bodyLen + endText.length + 1 ≤ offset := by
  have hdisjoint := begin_disjoint hlt hbegin h.begin
  have hlt' : first + (beginText.length + 1) + bodyLen < offset := by
    by_contra hge
    obtain ⟨i, hi⟩ := Nat.exists_eq_add_of_le (Nat.not_lt.mp hge)
    rw [hi] at hend
    have hge' := h.endOffset_le hname hend
    have hlen' : bodyLen = offset - (first + (beginText.length + 1)) + txt.endOffset := by omega
    rw [hlen', List.take_add, List.drop_drop, Nat.add_sub_cancel' (by omega),
      h.take_endOffset] at hparse
    exact parseBody_swallowed hname _ hparse
  refine add_length_le_of_occurs zero_notMem_endText zero_notMem_beginText hlt'.le ?_ hend h.begin
  intro heq
  have hshort := congrArg List.length heq
  rw [List.length_drop, beginText_length, endText_length] at hshort
  omega

/-- A turn of the scan before a marker either stays before it or reads it. -/
theorem scanNext_marker (hname : txt.WellNamed) (h : txt.OccursAt binary offset)
    (hpos : pos ≤ offset) {pos' : ℕ} (hturn : scanNext binary pos = .ok (some (txt', pos'))) :
    pos' ≤ offset ∨ txt' = txt ∧ pos' = offset + (asBytes txt.toMarker).length := by
  obtain ⟨start, bodyLen, hstart, hlen, hparse, rfl⟩ := scanNext_eq_ok_some_iff.mp hturn
  rw [toMarker_length]
  rw [asBytes_setupTxtBegin, List.length_append, List.length_singleton] at *
  rw [asBytes_setupTxtEnd] at hlen
  obtain ⟨hbegin, hbefore⟩ := (findBytes_eq_some_iff (by simp)).mp hstart
  obtain ⟨hend, hbeforeEnd⟩ := (findBytes_eq_some_iff (by simp)).mp hlen
  rw [List.drop_drop] at hbegin hend
  obtain ⟨first, hfirst⟩ : ∃ first, pos + start = first := ⟨_, rfl⟩
  rw [hfirst] at hparse hbegin hend hbeforeEnd ⊢
  have hle : first ≤ offset := by
    by_contra hlt
    refine hbefore (offset - pos) (by omega) ?_
    rw [List.drop_drop, Nat.add_sub_cancel' hpos]
    exact h.begin
  have hleEnd : first + (beginText.length + 1) + bodyLen ≤ offset + txt.endOffset := by
    have hlong := endOffset_eq txt
    by_contra hlt
    refine hbeforeEnd (offset + txt.endOffset - (first + (beginText.length + 1))) (by omega) ?_
    rw [List.drop_drop, Nat.add_sub_cancel' (by omega)]
    exact h.end_
  rcases hle.eq_or_lt with rfl | hlt
  · -- the turn starts at this marker
    rw [Nat.add_assoc] at hend hleEnd
    have hge := h.endOffset_le hname hend
    have hoffset := endOffset_eq txt
    obtain rfl : bodyLen = (terminated 0 txt.bodyBytes).length := by omega
    rw [h.parseBody_eq hname] at hparse
    cases hparse
    exact Or.inr ⟨rfl, by omega⟩
  · -- it starts before this marker, and ends before it
    exact Or.inl (end_before_marker hname h hlt hbegin hend hleEnd hparse)

/-- A run of the scan that ends well has read every marker not behind its start. -/
theorem scanFrom_reaches (hname : txt.WellNamed) (h : txt.OccursAt binary offset)
    (hpos : pos ≤ offset) (hscan : scanFrom binary pos found = .ok list) :
    ∃ mid, scanFrom binary (offset + (asBytes txt.toMarker).length) (found ++ mid ++ [txt]) =
      .ok list := by
  induction pos, found using scanFrom.induct binary with
  | case1 pos found err herr =>
    rcases scanFrom_eq_ok_iff.mp hscan with ⟨hnone, -⟩ | ⟨txt', pos', hsome, -⟩
    · exact absurd (herr.symm.trans hnone) (by simp)
    · exact absurd (herr.symm.trans hsome) (by simp)
  | case2 pos found hnone =>
    -- the loop cannot end before a marker
    rw [scanNext_eq_ok_none_iff, asBytes_setupTxtBegin, findBytes_eq_none_iff (by simp)] at hnone
    refine absurd h.begin ?_
    have hnot := hnone (offset - pos)
    rwa [List.drop_drop, Nat.add_sub_cancel' hpos] at hnot
  | case3 pos found txt' pos' hsome ih =>
    rcases scanFrom_eq_ok_iff.mp hscan with ⟨hnone, -⟩ | ⟨txt'', pos'', hsome', hrest⟩
    · exact absurd (hsome.symm.trans hnone) (by simp)
    · obtain ⟨rfl, rfl⟩ : txt' = txt'' ∧ pos' = pos'' := by simpa using hsome.symm.trans hsome'
      rcases scanNext_marker hname h hpos hsome with hle | ⟨rfl, rfl⟩
      · obtain ⟨mid, hmid⟩ := ih hle hrest
        refine ⟨txt' :: mid, ?_⟩
        rwa [List.append_cons found txt' mid]
      · exact ⟨[], by rwa [List.append_nil]⟩

/-- The markers at increasing offsets are read in their order. -/
theorem scanFrom_sublist {occurrences : List (ℕ × SetupTxt)}
    (horder : occurrences.Pairwise (·.1 < ·.1))
    (hoccur : ∀ o ∈ occurrences, o.2.WellNamed ∧ o.2.OccursAt binary o.1)
    (hpos : ∀ o ∈ occurrences, pos ≤ o.1) (hscan : scanFrom binary pos found = .ok list) :
    ∃ tail, list = found ++ tail ∧ (occurrences.map Prod.snd).Sublist tail := by
  induction occurrences generalizing pos found with
  | nil =>
    obtain ⟨tail, htail⟩ := scanFrom_extends hscan
    exact ⟨tail, htail.symm, List.nil_sublist tail⟩
  | cons o occurrences ih =>
    rw [List.pairwise_cons] at horder
    rw [List.forall_mem_cons] at hoccur hpos
    obtain ⟨mid, hmid⟩ := scanFrom_reaches hoccur.1.1 hoccur.1.2 hpos.1 hscan
    have hafter (o') (ho' : o' ∈ occurrences) : o.1 + (asBytes o.2.toMarker).length ≤ o'.1 :=
      hoccur.1.2.disjoint hoccur.1.1 (hoccur.2 o' ho').2 (horder.1 o' ho')
    obtain ⟨tail, rfl, hsub⟩ := ih horder.2 hoccur.2 hafter hmid
    refine ⟨mid ++ o.2 :: tail, by simp, ?_⟩
    exact (hsub.cons_cons o.2).trans (List.sublist_append_right mid _)

/-- A scan that ends well lists every well-named marker of the binary, in file order. -/
theorem findSetupTxts_lists_markers (binary : List UInt8) (list : List SetupTxt)
    (hscan : findSetupTxts binary = .ok list) :
    (∀ txt offset, txt.WellNamed → txt.OccursAt binary offset → txt ∈ list) ∧
      ∀ occurrences : List (ℕ × SetupTxt), occurrences.Pairwise (·.1 < ·.1) →
        (∀ o ∈ occurrences, o.2.WellNamed ∧ o.2.OccursAt binary o.1) →
        (occurrences.map Prod.snd).Sublist list := by
  have hsublist (occurrences : List (ℕ × SetupTxt)) (horder : occurrences.Pairwise (·.1 < ·.1))
      (hoccur : ∀ o ∈ occurrences, o.2.WellNamed ∧ o.2.OccursAt binary o.1) :
      (occurrences.map Prod.snd).Sublist list := by
    obtain ⟨tail, rfl, hsub⟩ := scanFrom_sublist horder hoccur (fun _ _ => Nat.zero_le _) hscan
    exact hsub
  refine ⟨?_, hsublist⟩
  intro txt offset hname hoccur
  have hone := hsublist [(offset, txt)] (List.pairwise_singleton _ _) (by simp [hname, hoccur])
  exact hone.subset (by simp)

def smallTxt : SetupTxt :=
  { name := "VK", insecureTestSetup := true, provingKeySha256 := Vector.replicate 32 0xab }

/-- A stray closing delimiter, a marker and a byte behind it. -/
def smallBinary : List UInt8 := asBytes setupTxtEnd ++ asBytes smallTxt.toMarker ++ [0x7f]

theorem smallTxt_occursAt : smallTxt.OccursAt smallBinary 38 :=
  ⟨[0x7f], by decide +kernel⟩

theorem findSetupTxts_smallBinary : findSetupTxts smallBinary = .ok [smallTxt] := by
  have hname : smallTxt.WellNamed := ⟨by decide, by decide +kernel⟩
  have hbody : (smallBinary.drop 78).take 117 = terminated 0 smallTxt.bodyBytes := by decide +kernel
  have hturn : scanNext smallBinary 0 = .ok (some (smallTxt, 233)) :=
    scanNext_eq_ok_some_iff.mpr ⟨38, 117, by decide +kernel, by decide +kernel,
      (congrArg (parseBody · 38) hbody).trans (parseBody_bodyBytes hname), by decide +kernel⟩
  have hlast : scanNext smallBinary 233 = .ok none := scanNext_eq_ok_none_iff.mpr (by decide +kernel)
  exact scanFrom_eq_ok_iff.mpr (Or.inr ⟨_, _, hturn, scanFrom_eq_ok_iff.mpr (Or.inl ⟨hlast, rfl⟩)⟩)

theorem findSetupTxts_lists_markers_small :
    findSetupTxts smallBinary = .ok [smallTxt] ∧ smallTxt ∈ [smallTxt] ∧
      [smallTxt].Sublist [smallTxt] := by
  have hname : smallTxt.WellNamed := ⟨by decide, by decide +kernel⟩
  have hlists := findSetupTxts_lists_markers smallBinary [smallTxt] findSetupTxts_smallBinary
  exact ⟨findSetupTxts_smallBinary, hlists.1 smallTxt 38 hname smallTxt_occursAt,
    hlists.2 [(38, smallTxt)] (List.pairwise_singleton _ _) (by simp [hname, smallTxt_occursAt])⟩

end Groth16Solana
