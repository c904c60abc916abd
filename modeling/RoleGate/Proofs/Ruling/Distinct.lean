import Mathlib.Data.List.Nodup
import RoleGate.Proofs.Key.Canonical
import RoleGate.Proofs.Ruling.Choice

/-!
# Rules of one table

The rules of a table are read off different texts. So there is one plain rule for a shape at most,
and of two wildcards for a method one has a longer beginning. Which rule decides is then a matter of
which rules there are, not of how they are searched.

## Main definitions

* `Ruling.Distinct` — rules read off different texts.

## Main statements

* `Ruling.Distinct.find?_isPlainFor_eq_some_iff` — the plain rule that decides for a shape.
* `Ruling.Distinct.wildcard?_eq_some_iff` — the wildcard that decides for a method.
-/

namespace RoleGate

theorem RuleTable.rules_filterKeys (t : RuleTable) (p : Text → Bool) :
    RuleTable.rules (t.filterKeys p) = t.rules.filter fun r => p r.text := by
  rw [rules, rules, OrderedMap.filterKeys, List.filter_map]
  rfl

namespace Ruling

variable {s : Shape} {method : Text} {rules others : List Rule} {r q : Rule} {ruling : Ruling}

/-- The rules are read off their texts, and no text comes twice. -/
structure Distinct (rules : List Rule) : Prop where
  key_eq : ∀ r ∈ rules, r.key = RuleKey.parse r.text
  nodup_texts : (rules.map Rule.text).Nodup

theorem distinct_rules (t : RuleTable) : Distinct t.rules where
  key_eq := by
    intro r hr
    obtain ⟨e, -, rfl⟩ := List.mem_map.1 hr
    rfl
  nodup_texts := by
    have htexts : t.rules.map Rule.text = t.keys := List.map_map
    rw [htexts]
    exact t.nodup_keys

namespace Distinct

theorem filter (h : Distinct rules) (p : Rule → Bool) : Distinct (rules.filter p) where
  key_eq := fun r hr => h.key_eq r (List.mem_filter.1 hr).1
  nodup_texts := h.nodup_texts.sublist (List.filter_sublist.map _)

theorem perm (h : Distinct rules) (hperm : rules.Perm others) : Distinct others where
  key_eq := fun r hr => h.key_eq r (hperm.mem_iff.2 hr)
  nodup_texts := (hperm.map _).nodup_iff.1 h.nodup_texts

theorem eq_of_text_eq (h : Distinct rules) (hr : r ∈ rules) (hq : q ∈ rules)
    (htext : r.text = q.text) : r = q :=
  List.inj_on_of_nodup_map h.nodup_texts hr hq htext

/-! ## The plain rule -/

theorem text_eq_of_isPlainFor (h : Distinct rules) (hr : r ∈ rules)
    (hplain : isPlainFor s r = true) : r.text = s.text :=
  RuleKey.eq_text_of_parse_eq_plain ((h.key_eq r hr).symm.trans (isPlainFor_iff.1 hplain))

/-- The plain rule for a shape is the only one. -/
theorem find?_isPlainFor_eq_some_iff (h : Distinct rules) :
    rules.find? (isPlainFor s) = some r ↔ r ∈ rules ∧ isPlainFor s r = true := by
  constructor
  · intro hfind
    exact ⟨List.mem_of_find?_eq_some hfind, List.find?_some hfind⟩
  · rintro ⟨hr, hplain⟩
    cases hfind : rules.find? (isPlainFor s) with
    | none => exact absurd hplain (by simpa using List.find?_eq_none.1 hfind r hr)
    | some q =>
      have hq := List.mem_of_find?_eq_some hfind
      have htext : q.text = r.text := by
        rw [h.text_eq_of_isPlainFor hq (List.find?_some hfind), h.text_eq_of_isPlainFor hr hplain]
      rw [h.eq_of_text_eq hq hr htext]

/-! ## Wildcards -/

/-- A wildcard for a method is known by the length of its beginning. -/
theorem text_eq_of_isWildcardFor (h : Distinct rules) (hr : r ∈ rules)
    (hwildcard : isWildcardFor method r = true) :
    r.text = method.take r.key.beginning.length ++ ['*'] := by
  obtain ⟨beginning, hkey, rest, rfl⟩ := isWildcardFor_iff.1 hwildcard
  have htext := RuleKey.parse_eq_wildcard_iff.1 ((h.key_eq r hr).symm.trans hkey)
  simpa [hkey, RuleKey.beginning] using htext

/-- The wildcard that decides is the one with the longest beginning. -/
theorem wildcard?_eq_some_iff (h : Distinct rules) :
    wildcard? method rules = some ruling ↔
      ∃ chosen ∈ rules, isWildcardFor method chosen = true ∧ ruling = ofRules .wildcard [chosen] ∧
        ∀ r ∈ rules, isWildcardFor method r = true →
          r.key.beginning.length ≤ chosen.key.beginning.length := by
  refine ⟨exists_of_wildcard?_eq_some, ?_⟩
  rintro ⟨chosen, hchosen, hwildcard, rfl, hmax⟩
  cases hfound : wildcard? method rules with
  | none => simp [wildcard?_eq_none_iff.1 hfound chosen hchosen] at hwildcard
  | some found =>
    obtain ⟨other, hother, hother', rfl, hmax'⟩ := exists_of_wildcard?_eq_some hfound
    have hlength : other.key.beginning.length = chosen.key.beginning.length :=
      Nat.le_antisymm (hmax other hother hother') (hmax' chosen hchosen hwildcard)
    have htext : other.text = chosen.text := by
      rw [h.text_eq_of_isWildcardFor hother hother', h.text_eq_of_isWildcardFor hchosen hwildcard,
        hlength]
    rw [h.eq_of_text_eq hother hchosen htext]

end Distinct

end Ruling

end RoleGate
