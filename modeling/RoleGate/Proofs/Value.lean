import Mathlib.Algebra.Group.Nat.Defs
import Mathlib.Data.List.Basic
import RoleGate.Error

/-!
# Values that can be written

A value has a text unless a number somewhere in it has too many digits to be written. A text is its
own text, so it always has one.

## Main definitions

* `Value.Oversized` — a number in the value has too many digits.

## Main statements

* `Value.written?_eq_none_iff`, `Value.toText_eq_error_iff` — which values cannot be written.
-/

namespace RoleGate

/-- The numerals that are too long are those of the numbers from some power of ten on. -/
theorem Text.ofInt?_eq_none_iff {n : Int} :
    ofInt? n = none ↔ 10 ^ maxNumeral ≤ n.natAbs := by
  have hlength : (ofNat n.natAbs).length ≤ maxNumeral ↔ n.natAbs < 10 ^ maxNumeral :=
    Nat.length_toDigits_le_iff (by decide) (by decide)
  rw [ofInt?, ite_eq_right_iff, hlength, ← Nat.not_lt]
  simp

namespace Value

/-- A number in the value has too many digits to be written. -/
inductive Oversized : Value → Prop where
  | int {n : Int} (h : 10 ^ Text.maxNumeral ≤ n.natAbs) : Oversized (.int n)
  | list {items : List Value} {v : Value} (mem : v ∈ items) (h : Oversized v) :
    Oversized (.list items)
  | tuple {items : List Value} {v : Value} (mem : v ∈ items) (h : Oversized v) :
    Oversized (.tuple items)
  | key {entries : List (Value × Value)} {k v : Value} (mem : (k, v) ∈ entries)
    (h : Oversized k) : Oversized (.mapping entries)
  | value {entries : List (Value × Value)} {k v : Value} (mem : (k, v) ∈ entries)
    (h : Oversized v) : Oversized (.mapping entries)
  | attribute {id : Text} {roles : List Text} {attributes : List (Text × Value)} {k : Text}
    {v : Value} (mem : (k, v) ∈ attributes) (h : Oversized v) :
    Oversized (.caller id roles attributes)

variable {v : Value} {items : List Value} {entries : List (Value × Value)}
  {attributes : List (Text × Value)} {id t : Text} {roles : List Text}

theorem oversized_int_iff {n : Int} : (int n).Oversized ↔ 10 ^ Text.maxNumeral ≤ n.natAbs :=
  ⟨fun | .int h => h, .int⟩

theorem oversized_list_iff : (list items).Oversized ↔ ∃ v ∈ items, v.Oversized :=
  ⟨fun | .list mem h => ⟨_, mem, h⟩, fun ⟨_, mem, h⟩ => .list mem h⟩

theorem oversized_tuple_iff : (tuple items).Oversized ↔ ∃ v ∈ items, v.Oversized :=
  ⟨fun | .tuple mem h => ⟨_, mem, h⟩, fun ⟨_, mem, h⟩ => .tuple mem h⟩

theorem oversized_mapping_iff :
    (mapping entries).Oversized ↔ ∃ e ∈ entries, e.1.Oversized ∨ e.2.Oversized := by
  constructor
  · rintro (_ | _ | _ | ⟨mem, h⟩ | ⟨mem, h⟩)
    · exact ⟨_, mem, .inl h⟩
    · exact ⟨_, mem, .inr h⟩
  · rintro ⟨e, mem, h | h⟩
    · exact .key mem h
    · exact .value mem h

theorem oversized_caller_iff :
    (caller id roles attributes).Oversized ↔ ∃ e ∈ attributes, e.2.Oversized :=
  ⟨fun | .attribute mem h => ⟨_, mem, h⟩, fun ⟨_, mem, h⟩ => .attribute mem h⟩

mutual

/-- A value cannot be written exactly if a number in it has too many digits. -/
theorem written?_eq_none_iff : (v : Value) → (v.written? = none ↔ v.Oversized)
  | absent | bool _ | real _ | text _ | bytes _ => by
    refine ⟨fun h => ?_, nofun⟩
    cases h
  | int n => by rw [written?, Text.ofInt?_eq_none_iff, oversized_int_iff]
  | list items => by
    rw [written?, oversized_list_iff, ← writtenAll?_eq_none_iff items]
    cases writtenAll? items <;> simp
  | tuple items => by
    rw [written?, oversized_tuple_iff, ← writtenAll?_eq_none_iff items]
    cases writtenAll? items <;> simp
  | mapping entries => by
    rw [written?, oversized_mapping_iff, ← writtenEntries?_eq_none_iff entries]
    cases writtenEntries? entries <;> simp
  | caller id roles attributes => by
    rw [written?, oversized_caller_iff, ← writtenAttributes?_eq_none_iff attributes]
    cases writtenAttributes? attributes <;> simp

theorem writtenAll?_eq_none_iff :
    (items : List Value) → (writtenAll? items = none ↔ ∃ v ∈ items, v.Oversized)
  | [] => by simp [writtenAll?]
  | v :: rest => by
    rw [writtenAll?, List.exists_mem_cons_iff, ← written?_eq_none_iff v,
      ← writtenAll?_eq_none_iff rest]
    cases written? v <;> cases writtenAll? rest <;> simp

theorem writtenPair?_eq_none_iff :
    (e : Value × Value) → (writtenPair? e = none ↔ e.1.Oversized ∨ e.2.Oversized)
  | (k, v) => by
    rw [writtenPair?, ← written?_eq_none_iff k, ← written?_eq_none_iff v]
    cases written? k <;> cases written? v <;> simp

theorem writtenEntries?_eq_none_iff : (entries : List (Value × Value)) →
    (writtenEntries? entries = none ↔ ∃ e ∈ entries, e.1.Oversized ∨ e.2.Oversized)
  | [] => by simp [writtenEntries?]
  | e :: rest => by
    rw [writtenEntries?, List.exists_mem_cons_iff, ← writtenPair?_eq_none_iff e,
      ← writtenEntries?_eq_none_iff rest]
    cases writtenPair? e <;> cases writtenEntries? rest <;> simp

theorem writtenAttribute?_eq_none_iff :
    (e : Text × Value) → (writtenAttribute? e = none ↔ e.2.Oversized)
  | (k, v) => by
    rw [writtenAttribute?, ← written?_eq_none_iff v]
    cases written? v <;> simp

theorem writtenAttributes?_eq_none_iff : (attributes : List (Text × Value)) →
    (writtenAttributes? attributes = none ↔ ∃ e ∈ attributes, e.2.Oversized)
  | [] => by simp [writtenAttributes?]
  | e :: rest => by
    rw [writtenAttributes?, List.exists_mem_cons_iff, ← writtenAttribute?_eq_none_iff e,
      ← writtenAttributes?_eq_none_iff rest]
    cases writtenAttribute? e <;> cases writtenAttributes? rest <;> simp

end

/-- A text is its own text; any other value is written as its text. -/
theorem toText?_eq_none_iff : v.toText? = none ↔ v.Oversized := by
  cases v with
  | text t => exact ⟨nofun, nofun⟩
  | _ => exact written?_eq_none_iff _

theorem toText_eq_error_iff {cause : Error} :
    v.toText = .error cause ↔ v.Oversized ∧ cause = .numeralTooLong := by
  rw [toText, ← toText?_eq_none_iff]
  cases v.toText? <;> simp [eq_comm]

/-- Whether a value can be written is found out by writing it. -/
instance : DecidablePred Oversized :=
  fun v => decidable_of_iff (v.written? = none) v.written?_eq_none_iff

end Value

variable {v : Value} {fault : Shown → ConfigurationFault}

theorem Shown.ofValue?_eq_none_iff : ofValue? v = none ↔ v.Oversized := by
  have hboth : (do return value (← v.written?) (← v.toText?) : Option Shown) = none ↔
      v.Oversized := by
    rw [← Value.written?_eq_none_iff]
    cases hwritten : v.written? with
    | none => simp
    | some written =>
      have htext : v.toText? ≠ none := by
        rw [Ne, Value.toText?_eq_none_iff, ← Value.written?_eq_none_iff, hwritten]
        nofun
      obtain ⟨t, ht⟩ := Option.ne_none_iff_exists'.1 htext
      simp [ht]
  cases v with
  | absent => exact ⟨nofun, nofun⟩
  | _ => exact hboth

/-- A complaint about a value that cannot be written says that much instead. -/
theorem Error.about_of_oversized (h : v.Oversized) : about fault v = .numeralTooLong := by
  rw [about, Shown.ofValue?_eq_none_iff.2 h]

theorem Error.kind_about (h : ¬ v.Oversized) : (about fault v).kind = "ConfigurationError" := by
  cases hshown : Shown.ofValue? v with
  | none => exact absurd (Shown.ofValue?_eq_none_iff.1 hshown) h
  | some shown =>
    rw [about, hshown]
    exact (fault shown).kind_report

end RoleGate
