import RoleGate.Proofs.Key.Normal
import RoleGate.RuleTable

/-!
# Normal forms are stable

Whether a delimiter ends a literal can be seen from the normal form of what is behind it as well as
from the text itself. So the scan of a normal form passes through the same places as the scan that
made it and leaves nothing more out, whether or not the text is a key.

## Main statements

* `Key.closes_normalizeFrom` — what is behind a delimiter ends a literal exactly if its normal form
  does.
* `Key.normalize_normalize` — a normal form is its own normal form.
* `RuleTable.normalize_normalize` — so is a table in normal form.
-/

namespace RoleGate

namespace Key

theorem closes_cons_of_blank {c : Char} (h : Text.isBlank c = true) (t : Text) :
    closes (c :: t) = closes t := by
  rw [closes, closes, Text.trimLeft_cons_of_blank h]

theorem closes_cons_of_not_blank {c : Char} (h : Text.isBlank c = false) (t : Text) :
    closes (c :: t) = (c == ',' || (c == ']' && Text.isBlankText t)) := by
  rw [closes, Text.trimLeft_cons_of_not_blank h]
  split <;> simp_all

theorem Place.isBlank_of_drops {p : Place} {c : Char} (h : p.drops c = true) :
    Text.isBlank c = true := by
  cases p with
  | outside last => exact h
  | inside d => cases h

theorem isBlankText_normalizeFrom (p : Place) (t : Text) :
    Text.isBlankText (normalizeFrom p t) = Text.isBlankText t := by
  induction t generalizing p with
  | nil => rfl
  | cons c rest ih =>
    rw [normalizeFrom, Text.isBlankText, Text.isBlankText, List.all_cons]
    split
    · next hdrops =>
      rw [Place.isBlank_of_drops hdrops, Bool.true_and]
      exact ih p
    · rw [List.all_cons]
      exact congrArg (Text.isBlank c && ·) (ih _)

/-- What is behind a delimiter ends a literal exactly if its normal form does, wherever it is read
from. -/
theorem closes_normalizeFrom (p : Place) (t : Text) : closes (normalizeFrom p t) = closes t := by
  induction t generalizing p with
  | nil => rfl
  | cons c rest ih =>
    rw [normalizeFrom]
    by_cases hblank : Text.isBlank c = true
    · rw [closes_cons_of_blank hblank]
      split
      · exact ih p
      · rw [closes_cons_of_blank hblank, ih]
    · have hkept : p.drops c = false :=
        Bool.eq_false_iff.2 fun hdrops => hblank (Place.isBlank_of_drops hdrops)
      rw [Bool.not_eq_true] at hblank
      rw [hkept, if_neg (by simp), closes_cons_of_not_blank hblank,
        closes_cons_of_not_blank hblank, isBlankText_normalizeFrom]

theorem Place.behind_normalizeFrom (p q : Place) (c : Char) (rest : Text) :
    p.behind c (normalizeFrom q rest) = p.behind c rest := by
  cases p with
  | outside last => rfl
  | inside d => rw [Place.behind, Place.behind, closes_normalizeFrom]

/-- Scanned again from the place where it was made, a normal form stays as it is. -/
theorem normalizeFrom_normalizeFrom (p : Place) (t : Text) :
    normalizeFrom p (normalizeFrom p t) = normalizeFrom p t := by
  induction t generalizing p with
  | nil => rfl
  | cons c rest ih =>
    rw [normalizeFrom]
    split
    · exact ih p
    · next hkept => rw [normalizeFrom, if_neg hkept, Place.behind_normalizeFrom, ih]

/-- A normal form is its own normal form. -/
theorem normalize_normalize (key : Text) : normalize (normalize key) = normalize key :=
  normalizeFrom_normalizeFrom _ key

end Key

namespace RuleTable

/-- The keys of a table in normal form are in normal form. -/
theorem normalize_of_mem_keys {t : RuleTable} {key : Text} (h : key ∈ t.normalize.keys) :
    Key.normalize key = key := by
  obtain ⟨old, -, rfl⟩ := OrderedMap.mem_keys_mapKeys.1 h
  exact Key.normalize_normalize old

/-- A table in normal form is its own normal form, with its entries in the same order. -/
theorem normalize_normalize (t : RuleTable) : t.normalize.normalize = t.normalize :=
  OrderedMap.mapKeys_eq_self fun _ => normalize_of_mem_keys

end RuleTable

end RoleGate
