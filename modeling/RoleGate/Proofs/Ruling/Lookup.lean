import RoleGate.Proofs.Argument
import RoleGate.Proofs.Key.Canonical
import RoleGate.Proofs.Ruling.Choice

/-!
# Rulings as look-ups

A table has one plain rule for a shape at most, which stands under the text of the shape, and one
wildcard with a beginning. So these need not be searched for among all rules, but can be looked up
under their keys; only rules with argument lists have to be gone through. The ruling of a table is
the first of the look-ups, stage by stage, that finds something.

## Main definitions

* `RuleTable.forShape?` — the ruling for a shape, by look-up.
* `RuleTable.longestWildcard?` — the ruling of the wildcard with the longest beginning, by look-up.
* `RuleTable.lookup?` — the ruling on an invocation, by look-up.
* `RuleTable.failure?` — why the ruling on an invocation cannot be found.
-/

namespace RoleGate

namespace RuleKey

/-- The key has exact values for the shape, and they are the texts of the arguments. -/
def matchesExactly (s : Shape) (args : List Value) : RuleKey → Bool
  | exact t texts => t == s && args.mapM Value.argumentText = .ok texts
  | _ => false

variable [Pattern.Machine]

/-- The key has patterns for the shape, one for each argument, and each accepts its argument. -/
def matchesByPatterns (s : Shape) (args : List Value) : RuleKey → Bool
  | pattern t sources => t == s && sources.length == args.length &&
      (sources.zip args).all fun (source, v) =>
        (Matcher.pattern source).acceptsArgument v = .ok true
  | _ => false

end RuleKey

namespace RuleTable

/-! ## Look-ups -/

/-- The rules for a shape with exact values that match the arguments, in order. -/
def exactRules (t : RuleTable) (s : Shape) (args : List Value) : List Rule :=
  t.rules.filter fun r => r.key.matchesExactly s args

variable [Pattern.Machine]

/-- The rules for a shape with patterns that match the arguments, in order. -/
def patternRules (t : RuleTable) (s : Shape) (args : List Value) : List Rule :=
  t.rules.filter fun r => r.key.matchesByPatterns s args

/-- The rules for a shape with an argument list, in order. -/
def bracketedRules (t : RuleTable) (s : Shape) : List Rule :=
  t.rules.filter (Ruling.isBracketedFor s)

/-- The ruling for a shape. If the arguments are known, the rules that match them decide, and the
entry under the text of the shape if there are none. If they are not, the rules with an argument
list decide together with that entry. -/
def forShape? (t : RuleTable) (s : Shape) : Option (List Value) → Option Ruling
  | some args =>
    match t.exactRules s args, t.patternRules s args with
    | [], [] => (t.get? s.text).map fun v => ⟨Roles.ofValue v, .ofShape s, [s.text]⟩
    | [], patterns => some (.ofRules .regex patterns)
    | exact, patterns => some (.ofRules .exact (exact ++ patterns))
  | none =>
    let bracketed := t.bracketedRules s
    match t.get? s.text, bracketed with
    | some v, _ => some
        ⟨bracketed.flatMap Rule.roles ++ Roles.ofValue v, .ofShape s,
          bracketed.map Rule.text ++ [s.text]⟩
    | none, [] => none
    | none, first :: _ => some (.ofRules first.key.kind bracketed)

/-- Why the rules for a shape cannot be tried on the arguments. -/
def failureFor? (t : RuleTable) (s : Shape) (args : Option (List Value)) : Option Error :=
  args.bind fun args => Ruling.firstFailure? s args t.rules

/-- Why the ruling on an invocation cannot be found. The method without regard to overloads does not
matter if something is found for the overload. -/
def failure? (t : RuleTable) (method : Text) (args : Option (List Value))
    (signature : Option (List Text)) : Option Error :=
  match signature with
  | none => t.failureFor? ⟨method, none⟩ args
  | some types =>
    let overload : Shape := ⟨method, some (types.map Text.trim)⟩
    t.failureFor? overload args <|>
      if (t.forShape? overload args).isSome then none else t.failureFor? ⟨method, none⟩ args

end RuleTable

namespace Ruling

variable {s : Shape} {method : Text} {values : List Value} {args : Option (List Value)}
  {signature : Option (List Text)} {t : RuleTable} {r : Rule}

section

variable [Pattern.Machine]

/-! ## Rules with an argument list -/

end

/-! ## The plain rule -/

theorem isPlainFor_ofEntry (hs : (RuleKey.plain s).Readable) (e : Text × Value) :
    isPlainFor s (Rule.ofEntry e) = (s.text == e.1) := by
  rw [Bool.eq_iff_iff, beq_iff_eq]
  constructor
  · intro h
    unfold isPlainFor at h
    split at h
    · next u hkey =>
      obtain rfl : u = s := by simpa using h
      exact (RuleKey.eq_text_of_parse_eq_plain hkey).symm
    · cases h
  · intro h
    have hkey : (Rule.ofEntry e).key = .plain s := by
      rw [Rule.ofEntry, ← h]
      exact RuleKey.parse_text hs.1 hs.2
    simp [isPlainFor, hkey]

/-- The plain rule for a shape is the entry under the text of the shape. -/
theorem find?_isPlainFor (hs : (RuleKey.plain s).Readable) :
    t.rules.find? (isPlainFor s) = (t.get? s.text).map fun v => Rule.ofEntry (s.text, v) := by
  rw [RuleTable.rules, OrderedMap.get?]
  induction t.entries with
  | nil => rfl
  | cons e entries ih =>
    rw [List.map_cons, List.find?_cons, isPlainFor_ofEntry hs, List.lookup_cons]
    split
    · next h => simp [beq_iff_eq.1 h]
    · exact ih

section

variable [Pattern.Machine]

/-! ## One shape -/

end

/-! ## Wildcards -/

section

variable [Pattern.Machine]

/-! ## All stages -/

end

end Ruling

end RoleGate
