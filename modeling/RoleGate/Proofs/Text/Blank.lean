import Mathlib.Data.List.DropRight
import RoleGate.Text.Blank

/-!
# Blanks around a text

A text may be padded with blanks. Taking the blanks away from its ends leaves the same text however
it is padded, and every text is such a padding of what is left of it.

## Main definitions

* `Text.Padded` — a text with blanks around it.

## Main statements

* `Text.Padded.trim_eq` — the padding does not matter once it is taken away.
* `Text.padded_trim` — every text is a padding of what is left of it.
-/

namespace RoleGate.Text

variable {gap s t u : Text} {c : Char}

/-! ## Blank texts -/

theorem isBlankText_append : isBlankText (s ++ t) = (isBlankText s && isBlankText t) :=
  List.all_append

theorem isBlankText_eq_false_iff : isBlankText t = false ↔ ∃ c ∈ t, isBlank c = false := by
  simp [isBlankText]

/-- A character that is no blank does not stand in a blank text. -/
theorem notMem_of_isBlankText (hc : isBlank c = false) (h : isBlankText t = true) : c ∉ t := by
  intro hmem
  rw [isBlankText_iff.1 h c hmem] at hc
  cases hc

/-! ## Taking blanks away -/

theorem trim_eq_rdropWhile (t : Text) : trim t = (t.dropWhile isBlank).rdropWhile isBlank := rfl

theorem dropWhile_of_isBlankText (h : isBlankText t = true) : t.dropWhile isBlank = [] :=
  List.dropWhile_eq_nil_iff.2 (isBlankText_iff.1 h)

theorem trim_append_left (hgap : isBlankText gap = true) (t : Text) : trim (gap ++ t) = trim t := by
  rw [trim_eq_rdropWhile, trim_eq_rdropWhile, List.dropWhile_append,
    dropWhile_of_isBlankText hgap]
  rfl

theorem rdropWhile_append_of_isBlankText (hgap : isBlankText gap = true) (t : Text) :
    (t ++ gap).rdropWhile isBlank = t.rdropWhile isBlank := by
  have hreverse : ∀ c ∈ gap.reverse, isBlank c = true := fun c hc =>
    isBlankText_iff.1 hgap c (List.mem_reverse.1 hc)
  rw [List.rdropWhile, List.rdropWhile, List.reverse_append, List.dropWhile_append_of_pos hreverse]

theorem trim_append_right (hgap : isBlankText gap = true) (t : Text) :
    trim (t ++ gap) = trim t := by
  rw [trim_eq_rdropWhile, trim_eq_rdropWhile, List.dropWhile_append]
  split
  · next hblank =>
    rw [dropWhile_of_isBlankText hgap, List.isEmpty_iff.1 hblank]
  · exact rdropWhile_append_of_isBlankText hgap _

/-- The text with blanks around it, perhaps. -/
def Padded (t u : Text) : Prop :=
  ∃ front back, isBlankText front = true ∧ isBlankText back = true ∧ u = front ++ t ++ back

theorem Padded.refl (t : Text) : Padded t t :=
  ⟨[], [], rfl, rfl, by simp⟩

/-- The padding does not matter once it is taken away. -/
theorem Padded.trim_eq (h : Padded t u) : trim u = trim t := by
  obtain ⟨front, back, hfront, hback, rfl⟩ := h
  rw [trim_append_right hback, trim_append_left hfront]

/-- Every text is a padding of what is left of it. -/
theorem padded_trim (t : Text) : Padded (trim t) t := by
  refine ⟨t.takeWhile isBlank, (t.dropWhile isBlank).rtakeWhile isBlank, ?_, ?_, ?_⟩
  · exact isBlankText_iff.2 fun c hc => List.mem_takeWhile_imp hc
  · exact isBlankText_iff.2 fun c hc => List.mem_rtakeWhile_imp hc
  · rw [trim_eq_rdropWhile, List.append_assoc, List.rdropWhile_append_rtakeWhile,
      List.takeWhile_append_dropWhile]

/-- Nothing is left at the ends for another removal to take away. -/
theorem trim_trim (t : Text) : trim (trim t) = trim t :=
  (padded_trim t).trim_eq.symm

/-- There is nothing to take away from a text with no blanks at its ends. -/
theorem trim_of_ends (hfirst : ∀ c ∈ t.head?, isBlank c = false)
    (hlast : ∀ c ∈ t.getLast?, isBlank c = false) : trim t = t := by
  have hstart : t.dropWhile isBlank = t := by
    cases t with
    | nil => rfl
    | cons c t => exact List.dropWhile_cons_of_neg (by simpa using hfirst c rfl)
  rw [trim_eq_rdropWhile, hstart, List.rdropWhile_eq_self_iff]
  intro hne
  simpa using hlast _ (List.getLast?_eq_some_getLast hne)

theorem trim_eq_self (h : ∀ c ∈ t, isBlank c = false) : trim t = t :=
  trim_of_ends (fun c hc => h c (List.mem_of_mem_head? hc))
    fun c hc => h c (List.mem_of_mem_getLast? hc)

theorem isBlank_of_mem_head?_trim (hc : c ∈ (trim t).head?) : isBlank c = false := by
  obtain ⟨rest, hrest⟩ : trim t <+: t.dropWhile isBlank := List.rdropWhile_prefix isBlank _
  obtain ⟨others, hothers⟩ := List.head?_eq_some_iff.1 hc
  have hnot := List.head?_dropWhile_not isBlank t
  rw [← hrest, hothers] at hnot
  exact hnot

theorem Padded.mem (h : Padded t u) (hc : c ∈ t) : c ∈ u := by
  obtain ⟨front, back, -, -, rfl⟩ := h
  simp [hc]

/-- A character that is no blank comes from the text and not from the blanks around it. -/
theorem Padded.notMem (h : Padded t u) (hc : isBlank c = false) (hmem : c ∉ t) : c ∉ u := by
  obtain ⟨front, back, hfront, hback, rfl⟩ := h
  simp [notMem_of_isBlankText hc hfront, notMem_of_isBlankText hc hback, hmem]

theorem trim_eq_nil_iff : trim t = [] ↔ isBlankText t = true := by
  constructor
  · intro h
    obtain ⟨front, back, hfront, hback, ht⟩ := padded_trim t
    rw [ht, h, isBlankText_append, isBlankText_append, hfront, hback]
    rfl
  · intro h
    rw [trim_eq_rdropWhile, dropWhile_of_isBlankText h]
    rfl

theorem trim_ne_nil_iff : trim t ≠ [] ↔ isBlankText t = false := by
  rw [ne_eq, trim_eq_nil_iff, Bool.not_eq_true]

end RoleGate.Text
