import RoleGate.Proofs.Ruling.Choice

/-!
# Rules that concern a method

A rule concerns a method if it names the method or is a wildcard for it. The outcome for a method
depends on no other rules: neither on their roles nor on whether their patterns have an answer.

## Main definitions

* `Ruling.concerns` — a rule concerns a method.
* `RuleKey.isHeadless` — a key whose head cannot be read.

## Main statements

* `Ruling.resolve_filter` — rules that do not concern the method may be dropped.
* `Ruling.concerns_eq_false_of_isHeadless` — a rule whose head cannot be read concerns no method.
-/

namespace RoleGate

/-- The text has no head that can be read. -/
def RuleKey.isHeadless : RuleKey → Bool
  | invalid (.head _) => true
  | _ => false

namespace Ruling

variable {kind : RuleKey.Kind} {s : Shape} {method : Text} {values : List Value}
  {args : Option (List Value)} {signature : Option (List Text)} {rules : List Rule} {r : Rule}
  {p : Rule → Bool}

/-- The rule names the method or is a wildcard for it. -/
def concerns (method : Text) (r : Rule) : Bool :=
  r.key.shape.method == method || isWildcardFor method r

theorem concerns_eq_false_of_isHeadless (h : r.key.isHeadless = true) (hmethod : method ≠ []) :
    concerns method r = false := by
  unfold RuleKey.isHeadless at h
  split at h
  · next bracketed hkey => simp [concerns, hkey, RuleKey.shape, isWildcardFor, hmethod]
  · cases h

/-! ## Rules for other methods -/

theorem appliesTo_eq_false (h : concerns s.method r = false) : r.key.appliesTo s = false := by
  refine Bool.eq_false_iff.2 fun happlies => ?_
  have hshape : r.key.shape = s := by simpa [RuleKey.appliesTo] using happlies
  simp [concerns, hshape] at h

section

variable [Pattern.Machine]

theorem tries_eq_false (h : concerns s.method r = false) : tries kind s values r = .ok false := by
  rw [tries, appliesTo_eq_false h, Bool.and_false]
  rfl

end

theorem isPlainFor_eq_false (h : concerns s.method r = false) : isPlainFor s r = false := by
  refine Bool.eq_false_iff.2 fun hplain => ?_
  have happlies := appliesTo_eq_false h
  simp [RuleKey.appliesTo, isPlainFor_iff.1 hplain, RuleKey.shape] at happlies

theorem isBracketedFor_eq_false (h : concerns s.method r = false) :
    isBracketedFor s r = false := by
  rw [isBracketedFor, appliesTo_eq_false h, Bool.and_false]

theorem isWildcardFor_eq_false (h : concerns method r = false) : isWildcardFor method r = false :=
  (Bool.or_eq_false_iff.1 h).2

/-! ## Dropping rules -/

/-- Elements that one test drops may be dropped before if another test drops them as well. -/
theorem filter_filter_of_dropped {q : Rule → Bool}
    (h : ∀ r ∈ rules, p r = false → q r = false) :
    (rules.filter p).filter q = rules.filter q := by
  rw [List.filter_filter]
  refine List.filter_congr fun r hr => ?_
  cases hp : p r with
  | true => rw [Bool.and_true]
  | false => rw [h r hr hp, Bool.false_and]

theorem find?_filter_of_dropped {q : Rule → Bool} (h : ∀ r ∈ rules, p r = false → q r = false) :
    (rules.filter p).find? q = rules.find? q := by
  rw [← List.head?_filter, ← List.head?_filter, filter_filter_of_dropped h]

variable [Pattern.Machine]

theorem accepting_filter (h : ∀ r ∈ rules, p r = false → concerns s.method r = false) :
    accepting kind s values (rules.filter p) = accepting kind s values rules := by
  induction rules with
  | nil => rfl
  | cons r rest ih =>
    obtain ⟨hr, hrest⟩ := List.forall_mem_cons.1 h
    cases hp : p r with
    | true => rw [List.filter_cons_of_pos hp, accepting, accepting, ih hrest]
    | false =>
      rw [List.filter_cons_of_neg (by simp [hp]), accepting, tries_eq_false (hr hp), ih hrest]
      cases accepting kind s values rest <;> rfl

omit [Pattern.Machine] in
theorem plain?_filter (h : ∀ r ∈ rules, p r = false → concerns s.method r = false) :
    plain? s (rules.filter p) = plain? s rules := by
  rw [plain?, plain?, find?_filter_of_dropped fun r hr hp => isPlainFor_eq_false (h r hr hp)]

theorem ofShape?_filter (h : ∀ r ∈ rules, p r = false → concerns s.method r = false) :
    ofShape? s args (rules.filter p) = ofShape? s args rules := by
  cases args with
  | some values =>
    rw [ofShape?, ofShape?, concrete?, concrete?, accepting_filter h, accepting_filter h,
      plain?_filter h]
  | none =>
    have hplain := find?_filter_of_dropped fun r hr hp => isPlainFor_eq_false (h r hr hp)
    have hbracketed :=
      filter_filter_of_dropped fun r hr hp => isBracketedFor_eq_false (h r hr hp)
    rw [ofShape?, ofShape?, advisory?_eq, advisory?_eq, hplain, hbracketed]

omit [Pattern.Machine] in
theorem wildcard?_filter (h : ∀ r ∈ rules, p r = false → concerns method r = false) :
    wildcard? method (rules.filter p) = wildcard? method rules := by
  rw [wildcard?, wildcard?,
    filter_filter_of_dropped fun r hr hp => isWildcardFor_eq_false (h r hr hp)]

/-- Rules that do not concern the method may be dropped: the outcome stays, or the failure in its
place. -/
theorem resolve_filter (h : ∀ r ∈ rules, p r = false → concerns method r = false) :
    resolve method args signature (rules.filter p) = resolve method args signature rules := by
  have hshape : ∀ signature, ofShape? ⟨method, signature⟩ args (rules.filter p) =
      ofShape? ⟨method, signature⟩ args rules := fun _ => ofShape?_filter h
  simp only [resolve, hshape, wildcard?_filter h]

end Ruling

end RoleGate
