import Mathlib.Data.List.Infix
import Mathlib.Data.Nat.Notation

/-! # Searching lists and lists of terminated fields

`findBytes` is the search by windows. A list of terminated fields is one in which every field is
followed by the separator `z` that no field contains; a needle that itself ends in `z` occurs in it
only at the ends of fields. -/

set_option autoImplicit false

namespace Foundations

variable {α : Type}

/-- `xs.get(lo..)`. -/
def getFrom (xs : List α) (lo : ℕ) : Option (List α) :=
  if lo ≤ xs.length then some (xs.drop lo) else none

/-- `xs.get(..hi)`. -/
def getTo (xs : List α) (hi : ℕ) : Option (List α) :=
  if hi ≤ xs.length then some (xs.take hi) else none

theorem getFrom_getD (xs : List α) (lo : ℕ) : (getFrom xs lo).getD [] = xs.drop lo := by
  rw [getFrom]
  split
  · rfl
  · rw [List.drop_eq_nil_of_le (by omega)]
    rfl

theorem getTo_eq {xs : List α} {hi : ℕ} (h : hi ≤ xs.length) : getTo xs hi = some (xs.take hi) :=
  if_pos h

/-- `xs.windows(n)`. -/
def windows (n : ℕ) (xs : List α) : List (List α) :=
  (List.range (xs.length + 1 - n)).map fun i => (xs.drop i).take n

section Find

variable [DecidableEq α] {haystack needle : List α} {i : ℕ}

/-- `haystack.windows(needle.len()).position(|w| w == needle)`. -/
def findBytes (haystack needle : List α) : Option ℕ :=
  (windows needle.length haystack).findIdx? (· == needle)

omit [DecidableEq α] in
theorem take_drop_eq_iff_occurs :
    (haystack.drop i).take needle.length = needle ↔ needle <+: haystack.drop i := by
  rw [List.prefix_iff_eq_take, eq_comm]

theorem findBytes_eq_some_iff (hneedle : needle ≠ []) :
    findBytes haystack needle = some i ↔
      needle <+: haystack.drop i ∧ ∀ j < i, ¬ needle <+: haystack.drop j := by
  have hpos := List.length_pos_iff.mpr hneedle
  simp only [findBytes, List.findIdx?_eq_some_iff_getElem, windows, List.getElem_map,
    List.getElem_range, List.length_map, List.length_range, beq_iff_eq, take_drop_eq_iff_occurs,
    exists_prop, and_iff_right_iff_imp]
  rintro ⟨hocc, -⟩
  have hlen := hocc.length_le
  rw [List.length_drop] at hlen
  omega

theorem findBytes_eq_none_iff (hneedle : needle ≠ []) :
    findBytes haystack needle = none ↔ ∀ j, ¬ needle <+: haystack.drop j := by
  have hpos := List.length_pos_iff.mpr hneedle
  simp only [findBytes, List.findIdx?_eq_none_iff, windows, List.mem_map, List.mem_range,
    forall_exists_index, and_imp, forall_apply_eq_imp_iff₂, beq_eq_false_iff_ne, ne_eq,
    take_drop_eq_iff_occurs]
  constructor
  · intro h j hocc
    have hlen := hocc.length_le
    rw [List.length_drop] at hlen
    exact h j (by omega) hocc
  · intro h j _
    exact h j

theorem add_length_le_of_findBytes (hneedle : needle ≠ [])
    (h : findBytes haystack needle = some i) : i + needle.length ≤ haystack.length := by
  have hpos := List.length_pos_iff.mpr hneedle
  have hlen := ((findBytes_eq_some_iff hneedle).mp h).1.length_le
  rw [List.length_drop] at hlen
  omega

end Find

/-! ## Texts in which no needle starts -/

/-- No occurrence of the needle starts in the text, whatever stands behind it. -/
def Avoids (needle text : List α) : Prop := ∀ behind, needle <:+: text ++ behind → needle <:+: behind

namespace Avoids

variable {needle text text' : List α}

theorem nil : Avoids needle [] := fun _ h => h

theorem append (h : Avoids needle text) (h' : Avoids needle text') : Avoids needle (text ++ text') := by
  intro behind hocc
  rw [List.append_assoc] at hocc
  exact h' behind (h _ hocc)

theorem cons {a : α} (hstart : ∀ behind, ¬ needle <+: a :: text ++ behind) (h : Avoids needle text) :
    Avoids needle (a :: text) := by
  intro behind hocc
  rcases List.infix_cons_iff.mp hocc with hfront | hocc
  · exact absurd hfront (hstart behind)
  · exact h behind hocc

theorem of_notMem {a : α} {rest : List α} (h : a ∉ text) : Avoids (a :: rest) text := by
  induction text with
  | nil => exact nil
  | cons b text ih =>
    rw [List.mem_cons, not_or] at h
    refine cons (fun behind hfront => ?_) (ih h.2)
    exact h.1 (List.cons_prefix_cons.mp hfront).1

theorem not_infix (h : Avoids needle text) (hne : needle ≠ []) : ¬ needle <:+: text := by
  intro hocc
  have hnil := h [] (by rwa [List.append_nil])
  exact hne (List.eq_nil_of_infix_nil hnil)

/-- No suffix of the text starts with the needle or starts it. -/
def check [DecidableEq α] (needle : List α) : List α → Bool
  | [] => true
  | a :: text => !(needle.isPrefixOf (a :: text) || (a :: text).isPrefixOf needle) && check needle text

theorem of_check [DecidableEq α] (h : check needle text) : Avoids needle text := by
  induction text with
  | nil => exact nil
  | cons a text ih =>
    rw [check, Bool.and_eq_true, Bool.not_eq_true', Bool.or_eq_false_iff] at h
    refine cons (fun behind hfront => ?_) (ih h.2)
    rcases List.prefix_or_prefix_of_prefix hfront (List.prefix_append (a :: text) behind) with hle | hle
    · exact absurd (List.isPrefixOf_iff_prefix.mpr hle) (by simp [h.1.1])
    · exact absurd (List.isPrefixOf_iff_prefix.mpr hle) (by simp [h.1.2])

end Avoids

/-! ## Terminated fields -/

/-- Every field followed by its terminator. -/
def terminated (z : α) (fields : List (List α)) : List α := fields.flatMap (· ++ [z])

variable {z : α}

@[simp] theorem terminated_nil : terminated z [] = [] := rfl

@[simp] theorem terminated_cons (field : List α) (fields : List (List α)) :
    terminated z (field :: fields) = field ++ z :: terminated z fields := by
  simp [terminated]

@[simp] theorem terminated_append (fields fields' : List (List α)) :
    terminated z (fields ++ fields') = terminated z fields ++ terminated z fields' :=
  List.flatMap_append

theorem append_separator_inj {a b x y : List α} (ha : z ∉ a) (hb : z ∉ b)
    (h : a ++ z :: x = b ++ z :: y) : a = b ∧ x = y := by
  induction a generalizing b with
  | nil =>
    cases b with
    | nil => exact ⟨rfl, List.tail_eq_of_cons_eq h⟩
    | cons c b => exact absurd (by rw [List.head_eq_of_cons_eq h]; exact List.mem_cons_self) hb
  | cons c a ih =>
    cases b with
    | nil => exact absurd (by rw [← List.head_eq_of_cons_eq h]; exact List.mem_cons_self) ha
    | cons d b =>
      obtain ⟨hcd, htail⟩ := List.cons.inj h
      obtain ⟨rfl, rfl⟩ := ih (fun hz => ha (List.mem_cons_of_mem _ hz))
        (fun hz => hb (List.mem_cons_of_mem _ hz)) htail
      exact ⟨by rw [hcd], rfl⟩

/-- Where an occurrence of `needle` and the separator starts inside a list, up to the list's first
separator, the list's rest up to that separator is `needle`. -/
theorem eq_drop_of_occurs {needle field x : List α} {i : ℕ} (hneedle : z ∉ needle) (hfield : z ∉ field)
    (hi : i ≤ field.length) (h : needle ++ [z] <+: (field ++ z :: x).drop i) :
    needle = field.drop i := by
  obtain ⟨y, hy⟩ := h
  rw [List.drop_append_of_le_length hi, List.append_assoc, List.singleton_append] at hy
  exact (append_separator_inj hneedle (fun hz => hfield (List.mem_of_mem_drop hz)) hy).1

/-- An occurrence inside terminated fields ends with the terminator of a field, whose suffix it
is. -/
theorem occurs_in_terminated {needle rest : List α} {fields : List (List α)} {i : ℕ}
    (hneedle : z ∉ needle) (hfields : ∀ field ∈ fields, z ∉ field)
    (h : needle ++ [z] <+: (terminated z fields ++ rest).drop i)
    (hi : i < (terminated z fields).length) :
    ∃ before field after, fields = before ++ field :: after ∧ needle <:+ field ∧
      i + needle.length + 1 = (terminated z (before ++ [field])).length := by
  induction fields generalizing i with
  | nil => simp at hi
  | cons field fields ih =>
    rw [terminated_cons, List.append_assoc, List.cons_append] at h
    by_cases hlt : i ≤ field.length
    · have hdrop := eq_drop_of_occurs hneedle (hfields field List.mem_cons_self) hlt h
      refine ⟨[], field, fields, rfl, hdrop ▸ List.drop_suffix i field, ?_⟩
      rw [hdrop]
      simp
      omega
    · obtain ⟨k, rfl⟩ : ∃ k, i = field.length + (k + 1) := ⟨i - field.length - 1, by omega⟩
      rw [List.drop_length_add_append, List.drop_succ_cons] at h
      rw [terminated_cons, List.length_append, List.length_cons] at hi
      obtain ⟨before, field', after, rfl, hsuffix, hend⟩ :=
        ih (fun f hf => hfields f (List.mem_cons_of_mem _ hf)) h (by omega)
      refine ⟨field :: before, field', after, rfl, hsuffix, ?_⟩
      rw [List.cons_append, terminated_cons, List.length_append, List.length_cons]
      omega

/-- An occurrence in fields of which only the last can end in `needle` is at the end. -/
theorem occurs_at_last {needle rest last : List α} {fields : List (List α)} {i : ℕ}
    (hneedle : z ∉ needle) (hfields : ∀ field ∈ fields ++ [last], z ∉ field)
    (hlast : ∀ field ∈ fields, ¬ needle <:+ field)
    (h : needle ++ [z] <+: (terminated z (fields ++ [last]) ++ rest).drop i)
    (hi : i < (terminated z (fields ++ [last])).length) :
    i + needle.length + 1 = (terminated z (fields ++ [last])).length := by
  obtain ⟨before, field, after, heq, hsuffix, hend⟩ := occurs_in_terminated hneedle hfields h hi
  rcases List.eq_nil_or_concat after with rfl | ⟨after, last', rfl⟩
  · rw [hend, heq]
  · rw [List.concat_eq_append, ← List.cons_append, ← List.append_assoc] at heq
    obtain ⟨rfl, -⟩ := List.append_inj' heq rfl
    exact absurd hsuffix (hlast field (by simp))

/-- Of two occurrences the earlier ends before the later starts, unless the later needle is the
rest of the earlier. -/
theorem add_length_le_of_occurs {needle needle' haystack : List α} {i j : ℕ} (hneedle : z ∉ needle)
    (hneedle' : z ∉ needle') (hij : i ≤ j) (hdrop : needle' ≠ needle.drop (j - i))
    (hi : needle ++ [z] <+: haystack.drop i) (hj : needle' ++ [z] <+: haystack.drop j) :
    i + needle.length + 1 ≤ j := by
  by_contra hlt
  obtain ⟨x, hx⟩ := hi
  obtain ⟨k, rfl⟩ := Nat.exists_eq_add_of_le hij
  rw [← List.drop_drop, ← hx, List.append_assoc, List.singleton_append] at hj
  rw [Nat.add_sub_cancel_left] at hdrop
  exact hdrop (eq_drop_of_occurs hneedle' hneedle (by omega) hj)

/-- Occurrences of one needle do not overlap. -/
theorem add_length_le_of_occurs_self {needle haystack : List α} {i j : ℕ} (hneedle : z ∉ needle)
    (hlt : i < j) (hi : needle ++ [z] <+: haystack.drop i) (hj : needle ++ [z] <+: haystack.drop j) :
    i + needle.length + 1 ≤ j := by
  by_cases hnil : needle = []
  · rw [hnil, List.length_nil]
    omega
  · refine add_length_le_of_occurs hneedle hneedle hlt.le ?_ hi hj
    intro heq
    have hlen := congrArg List.length heq
    have hpos := List.length_pos_iff.mpr hnil
    rw [List.length_drop] at hlen
    omega

/-- The search behind bytes that hold no needle ends at the needle: none straddles its start. -/
theorem findBytes_append [DecidableEq α] {needle front behind : List α} (hneedle : z ∉ needle)
    (hfront : ¬ needle ++ [z] <:+: front) :
    findBytes (front ++ (needle ++ [z] ++ behind)) (needle ++ [z]) = some front.length := by
  have hat : needle ++ [z] <+: (front ++ (needle ++ [z] ++ behind)).drop front.length := by
    rw [List.drop_left]
    exact List.prefix_append _ _
  rw [findBytes_eq_some_iff (by simp)]
  refine ⟨hat, ?_⟩
  intro j hj hocc
  have hdisjoint := add_length_le_of_occurs_self hneedle hj hocc hat
  apply hfront
  rw [List.drop_append_of_le_length hj.le] at hocc
  have hlen : (needle ++ [z]).length ≤ (front.drop j).length := by
    rw [List.length_drop, List.length_append, List.length_singleton]
    omega
  exact (List.prefix_of_prefix_length_le hocc (List.prefix_append _ _) hlen).isInfix.trans
    (List.drop_suffix j front).isInfix

/-! ## Splitting at the separator -/

section Split

variable [DecidableEq α]

theorem count_terminated {fields : List (List α)} (h : ∀ field ∈ fields, z ∉ field) :
    (terminated z fields).count z = fields.length := by
  induction fields with
  | nil => rfl
  | cons field fields ih =>
    rw [terminated_cons, List.count_append, List.count_cons_self, List.length_cons,
      List.count_eq_zero.mpr (h field List.mem_cons_self),
      ih fun f hf => h f (List.mem_cons_of_mem _ hf), Nat.zero_add]

theorem not_mem_of_mem_splitOn {xs field : List α} (h : field ∈ xs.splitOn z) : z ∉ field := by
  induction xs generalizing field with
  | nil =>
    rw [List.splitOn_nil, List.mem_singleton] at h
    simp [h]
  | cons x xs ih =>
    rw [List.splitOn_cons_eq_if_modifyHead] at h
    obtain ⟨head, fields, hsplit⟩ := List.exists_cons_of_ne_nil (List.splitOn_ne_nil z xs)
    rw [hsplit] at h ih
    split at h
    next =>
      rcases List.mem_cons.mp h with rfl | hmem
      · exact List.not_mem_nil
      · exact ih hmem
    next hne =>
      rcases List.mem_cons.mp h with rfl | hmem
      · rw [List.mem_cons, not_or]
        exact ⟨fun hz => hne (by simp [hz]), ih List.mem_cons_self⟩
      · exact ih (List.mem_cons_of_mem _ hmem)

theorem splitOn_terminated {fields : List (List α)} (h : ∀ field ∈ fields, z ∉ field) :
    (terminated z fields).splitOn z = fields ++ [[]] := by
  induction fields with
  | nil => simp
  | cons field fields ih =>
    rw [terminated_cons, List.splitOn_append_cons_self_of_not_mem (h field List.mem_cons_self),
      ih fun f hf => h f (List.mem_cons_of_mem _ hf), List.cons_append]

/-- Splitting at the separator gives an empty last piece just for terminated fields. -/
theorem splitOn_eq_concat_nil_iff {xs : List α} {fields : List (List α)} :
    xs.splitOn z = fields ++ [[]] ↔ xs = terminated z fields ∧ ∀ field ∈ fields, z ∉ field := by
  constructor
  · intro h
    have hfree (field) (hf : field ∈ fields) : z ∉ field :=
      not_mem_of_mem_splitOn (h ▸ List.mem_append_left _ hf)
    refine ⟨?_, hfree⟩
    have hxs : [z].intercalate (xs.splitOn z) = xs := List.intercalate_splitOn z
    rw [h, ← splitOn_terminated hfree, List.intercalate_splitOn] at hxs
    exact hxs.symm
  · rintro ⟨rfl, hfree⟩
    exact splitOn_terminated hfree

end Split

end Foundations
