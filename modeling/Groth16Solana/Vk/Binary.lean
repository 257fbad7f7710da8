import Groth16Solana.Vk.Scan

/-! # Markers between other bytes

A program's binary is a list of markers with other bytes around them. The scan reads the markers back,
whatever the other bytes are, as long as they hold no opening delimiter of their own. -/

set_option autoImplicit false

namespace Groth16Solana
open Foundations

def NoBegin (junk : List UInt8) : Prop := ¬ asBytes setupTxtBegin <:+: junk

/-- A binary: some bytes, then every marker with the bytes behind it. -/
def interleave (junk : List UInt8) (rest : List (SetupTxt × List UInt8)) : List UInt8 :=
  junk ++ rest.flatMap fun part => asBytes part.1.toMarker ++ part.2

variable {binary junk behind : List UInt8} {txt : SetupTxt} {pos start : ℕ}

/-- A turn whose search ends at a marker reads that marker. -/
theorem scanNext_of_occursAt (hname : txt.WellNamed) (h : txt.OccursAt binary (pos + start))
    (hstart : findBytes (binary.drop pos) (asBytes setupTxtBegin) = some start) :
    scanNext binary pos = .ok (some (txt, pos + start + (asBytes txt.toMarker).length)) := by
  have hbegin : (asBytes setupTxtBegin).length = beginText.length + 1 := by
    rw [asBytes_setupTxtBegin, List.length_append, List.length_singleton]
  have hoffset := endOffset_eq txt
  rw [scanNext_eq_ok_some_iff]
  refine ⟨start, (terminated 0 txt.bodyBytes).length, hstart, ?_, ?_, ?_⟩
  · rw [hbegin, asBytes_setupTxtEnd, findBytes_eq_some_iff (by simp), List.drop_drop, Nat.add_assoc,
      ← hoffset]
    refine ⟨h.end_, ?_⟩
    intro j hj hend
    rw [List.drop_drop, Nat.add_assoc] at hend
    have hle := h.endOffset_le hname hend
    omega
  · rw [hbegin]
    exact h.parseBody_eq hname
  · rw [toMarker_length, hbegin, hoffset]
    omega

theorem findBytes_before_marker (hjunk : NoBegin junk) :
    findBytes (junk ++ (asBytes txt.toMarker ++ behind)) (asBytes setupTxtBegin) = some junk.length := by
  rw [NoBegin, asBytes_setupTxtBegin] at hjunk
  rw [asBytes_setupTxtBegin, asBytes_toMarker, List.cons_append, terminated_cons, List.append_cons,
    List.append_assoc (beginText ++ [0])]
  exact findBytes_append zero_notMem_beginText hjunk

theorem findBytes_eq_none_of_noBegin (hjunk : NoBegin junk) :
    findBytes junk (asBytes setupTxtBegin) = none := by
  rw [findBytes_eq_none_iff (by decide)]
  intro j hocc
  exact hjunk (hocc.isInfix.trans (List.drop_suffix j junk).isInfix)

/-- The loop from the bytes behind one marker on: it reads every marker that follows, in order. -/
theorem scanFrom_interleave (before : List UInt8) (rest : List (SetupTxt × List UInt8))
    (found : List SetupTxt) (hjunk : NoBegin junk)
    (hrest : ∀ part ∈ rest, part.1.WellNamed ∧ NoBegin part.2) :
    scanFrom (before ++ interleave junk rest) before.length found = .ok (found ++ rest.map Prod.fst) := by
  induction rest generalizing before junk found with
  | nil =>
    have hnone : scanNext (before ++ interleave junk []) before.length = .ok none := by
      rw [scanNext_eq_ok_none_iff, List.drop_left, interleave, List.flatMap_nil, List.append_nil]
      exact findBytes_eq_none_of_noBegin hjunk
    rw [scanFrom_eq_ok_iff]
    exact Or.inl ⟨hnone, by simp⟩
  | cons part rest ih =>
    rw [List.forall_mem_cons] at hrest
    have hsplit : interleave junk (part :: rest) =
        junk ++ (asBytes part.1.toMarker ++ interleave part.2 rest) := by
      simp only [interleave, List.flatMap_cons, List.append_assoc]
    have hoccurs : part.1.OccursAt (before ++ interleave junk (part :: rest))
        (before.length + junk.length) := by
      rw [SetupTxt.OccursAt, hsplit, ← List.append_assoc, ← List.length_append, List.drop_left]
      exact List.prefix_append _ _
    have hturn := scanNext_of_occursAt hrest.1.1 hoccurs (by
      rw [List.drop_left, hsplit]
      exact findBytes_before_marker hjunk)
    have hnext := ih (before ++ junk ++ asBytes part.1.toMarker) (found ++ [part.1]) hrest.1.2 hrest.2
    rw [List.length_append, List.length_append, List.append_assoc, List.append_assoc, ← hsplit] at hnext
    rw [scanFrom_eq_ok_iff]
    refine Or.inr ⟨_, _, hturn, ?_⟩
    rw [hnext, List.map_cons, List.append_assoc, List.singleton_append]

/-- Reading undoes writing over whole binaries: no marker is lost, read twice or made up. -/
theorem findSetupTxts_interleave (junk : List UInt8) (rest : List (SetupTxt × List UInt8))
    (hjunk : NoBegin junk) (hrest : ∀ part ∈ rest, part.1.WellNamed ∧ NoBegin part.2) :
    findSetupTxts (interleave junk rest) = .ok (rest.map Prod.fst) :=
  scanFrom_interleave [] rest [] hjunk hrest

def otherTxt : SetupTxt :=
  { name := "VK_B", insecureTestSetup := false, provingKeySha256 := Vector.replicate 32 0x01 }

/-- The bytes in front end like an opening delimiter starts, those in the middle are a closing delimiter,
and those behind are not UTF-8. -/
theorem findSetupTxts_interleave_two :
    findSetupTxts (interleave (asBytes "=======BEG")
      [(smallTxt, asBytes setupTxtEnd), (otherTxt, [0xff])]) = .ok [smallTxt, otherTxt] := by
  have hsmall : smallTxt.WellNamed := ⟨by decide, by decide +kernel⟩
  have hother : otherTxt.WellNamed := ⟨by decide, by decide +kernel⟩
  have hfront : NoBegin (asBytes "=======BEG") := by
    unfold NoBegin
    decide +kernel
  have hmiddle : NoBegin (asBytes setupTxtEnd) := by
    unfold NoBegin
    decide +kernel
  have hbehind : NoBegin [0xff] := by
    unfold NoBegin
    decide +kernel
  exact findSetupTxts_interleave _ _ hfront
    (List.forall_mem_cons.mpr ⟨⟨hsmall, hmiddle⟩, List.forall_mem_singleton.mpr ⟨hother, hbehind⟩⟩)

end Groth16Solana
