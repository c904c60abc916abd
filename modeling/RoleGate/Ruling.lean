import RoleGate.Argument
import RoleGate.RuleTable

/-!
# Rulings

Which rules of a table decide an invocation, and the roles that they grant. The most specific rules
win:

1. the rules for the given overload with an argument list, if the arguments are known and accepted;
2. the rule for the given overload;
3. the same for the method without regard to overloads;
4. the wildcard with the longest beginning.

Of rules with an argument list all that accept the arguments decide together, exact values before
patterns. If the arguments are not known, such rules cannot be tried; they then decide together with
the plain rule for the same shape, since the call may be allowed for some arguments.

## Main definitions

* `Ruling` — the outcome, where a rule decides.
* `Ruling.resolve` — the ruling of a list of rules on an invocation.
-/

namespace RoleGate

/-- The roles that may invoke, the kind of the deciding rule, and the keys of all rules that took
part, in order. -/
structure Ruling where
  roles : List Text
  kind : RuleKey.Kind
  keys : List Text
  deriving DecidableEq

namespace Ruling

/-- The ruling of rules that decide together. -/
def ofRules (kind : RuleKey.Kind) (rules : List Rule) : Ruling :=
  ⟨rules.flatMap Rule.roles, kind, rules.map Rule.text⟩

/-! ## One shape -/

/-- The rule is a plain rule for the shape. -/
def isPlainFor (s : Shape) (r : Rule) : Bool :=
  match r.key with
  | .plain t => t == s
  | _ => false

/-- The rule has an argument list, read or not, for the shape. -/
def isBracketedFor (s : Shape) (r : Rule) : Bool :=
  r.key.isBracketed && r.key.appliesTo s

variable [Pattern.Machine]

/-- The rule of the given kind is for the shape and accepts the arguments. -/
def tries (kind : RuleKey.Kind) (s : Shape) (args : List Value) (r : Rule) : Except Error Bool :=
  if r.key.kind == kind && r.key.appliesTo s then
    Matcher.acceptAll (r.key.matchers?.getD []) args
  else .ok false

/-- The rules of the given kind that are for the shape and accept the arguments, in order. -/
def accepting (kind : RuleKey.Kind) (s : Shape) (args : List Value) :
    List Rule → Except Error (List Rule)
  | [] => .ok []
  | r :: rest => do
    let accepted ← tries kind s args r
    let others ← accepting kind s args rest
    return if accepted then r :: others else others

/-- The ruling of the plain rule for a shape. -/
def plain? (s : Shape) (rules : List Rule) : Option Ruling :=
  (rules.find? (isPlainFor s)).map fun r => ofRules (.ofShape s) [r]

/-- The ruling for a shape and known arguments. -/
def concrete? (s : Shape) (args : List Value) (rules : List Rule) :
    Except Error (Option Ruling) := do
  let exact ← accepting .exact s args rules
  let patterns ← accepting .regex s args rules
  return match exact, patterns with
    | [], [] => plain? s rules
    | [], _ => some (ofRules .regex patterns)
    | _, _ => some (ofRules .exact (exact ++ patterns))

/-- The ruling for a shape and unknown arguments. -/
def advisory? (s : Shape) (rules : List Rule) : Option Ruling :=
  let bracketed := rules.filter (isBracketedFor s)
  match rules.find? (isPlainFor s), bracketed with
  | some r, _ => some (ofRules (.ofShape s) (bracketed ++ [r]))
  | none, [] => none
  | none, first :: _ => some (ofRules first.key.kind bracketed)

/-- The ruling for a shape. -/
def ofShape? (s : Shape) (args : Option (List Value)) (rules : List Rule) :
    Except Error (Option Ruling) :=
  match args with
  | some args => concrete? s args rules
  | none => .ok (advisory? s rules)

/-! ## Wildcards -/

/-- The rule is a wildcard for the method. -/
def isWildcardFor (method : Text) (r : Rule) : Bool :=
  match r.key with
  | .wildcard beginning => beginning.isPrefixOf method
  | _ => false

/-- The one of two wildcards with the longer beginning, the first of equals. -/
def moreSpecific (best : Option Rule) (r : Rule) : Option Rule :=
  match best with
  | none => some r
  | some b => if b.key.beginning.length < r.key.beginning.length then some r else some b

/-- The ruling of the wildcard with the longest beginning. -/
def wildcard? (method : Text) (rules : List Rule) : Option Ruling :=
  ((rules.filter (isWildcardFor method)).foldl moreSpecific none).map fun r => ofRules .wildcard [r]

/-! ## All stages -/

/-- The ruling of a list of rules on an invocation, if a rule decides. -/
def resolve (method : Text) (args : Option (List Value)) (signature : Option (List Text))
    (rules : List Rule) : Except Error (Option Ruling) := do
  let overload ←
    match signature with
    | some types => ofShape? ⟨method, some (types.map Text.trim)⟩ args rules
    | none => pure none
  match overload with
  | some r => return some r
  | none =>
    match ← ofShape? ⟨method, none⟩ args rules with
    | some r => return some r
    | none => return wildcard? method rules

end Ruling

end RoleGate
