import RoleGate.Text.Basic

/-!
# Rule keys

The left-hand side of a rule says which invocations the rule is for: one method, one overload of it,
calls with certain arguments, or all methods whose name begins in a certain way.

## Main definitions

* `Shape` — a method name, and the parameter types of an overload if they are known.
* `RuleKey` — the forms of keys, and the faults of texts that are no key.
* `RuleKey.Kind` — the forms without their contents.
-/

namespace RoleGate

/-- A method, or one overload of it. No signature stands for any overload; the empty one is the
overload without parameters. -/
structure Shape where
  method : Text
  signature : Option (List Text)
  deriving DecidableEq

/-- The text of a shape, with the types between parentheses if they are known. -/
def Shape.text (s : Shape) : Text :=
  match s.signature with
  | none => s.method
  | some types => s.method ++ '(' :: (Text.join [','] types ++ [')'])

/-- What an argument has to be like: equal to a text, or accepted by a pattern. -/
inductive Matcher where
  | exact (value : Text)
  | pattern (source : Text)
  deriving DecidableEq

/-- Why a text is no rule key. A head that cannot be read leaves no shape behind; an argument list
that cannot be read, or that mixes exact values with patterns, leaves the shape before it. -/
inductive KeyFault where
  | head (bracketed : Bool)
  | arguments (shape : Shape)
  | mixed (shape : Shape)
  deriving DecidableEq

/-- The forms of rule keys. -/
inductive RuleKey where
  | plain (shape : Shape)
  | exact (shape : Shape) (values : List Text)
  | pattern (shape : Shape) (sources : List Text)
  | wildcard (beginning : Text)
  | invalid (fault : KeyFault)
  deriving DecidableEq

namespace RuleKey

/-- The forms of rule keys without their contents. -/
inductive Kind where
  | method
  | signature
  | exact
  | regex
  | wildcard
  | invalid
  deriving DecidableEq

/-- The word for a form. -/
def Kind.label : Kind → Text
  | method => "method"
  | signature => "signature"
  | exact => "exact"
  | regex => "regex"
  | wildcard => "wildcard"
  | invalid => "invalid"

/-- The form of plain keys for a shape. -/
def Kind.ofShape (s : Shape) : Kind :=
  if s.signature.isNone then .method else .signature

/-- The form of a key. -/
def kind : RuleKey → Kind
  | plain s => .ofShape s
  | exact _ _ => .exact
  | pattern _ _ => .regex
  | wildcard _ => .wildcard
  | invalid _ => .invalid

theorem kind_eq_exact_iff {k : RuleKey} : k.kind = .exact ↔ ∃ s values, k = exact s values := by
  cases k with
  | plain s => cases h : s.signature <;> simp [kind, Kind.ofShape, h]
  | exact | pattern | wildcard | invalid => simp [kind]

theorem kind_eq_regex_iff {k : RuleKey} : k.kind = .regex ↔ ∃ s sources, k = pattern s sources := by
  cases k with
  | plain s => cases h : s.signature <;> simp [kind, Kind.ofShape, h]
  | exact | pattern | wildcard | invalid => simp [kind]

theorem kind_eq_wildcard_iff {k : RuleKey} :
    k.kind = .wildcard ↔ ∃ beginning, k = wildcard beginning := by
  cases k with
  | plain s => cases h : s.signature <;> simp [kind, Kind.ofShape, h]
  | exact | pattern | wildcard | invalid => simp [kind]

/-- Only plain keys have the form of a plain key. -/
theorem exists_eq_plain_of_kind {k : RuleKey} {s : Shape} (h : k.kind = .ofShape s) :
    ∃ u, k = plain u := by
  cases k with
  | plain u => exact ⟨u, rfl⟩
  | exact | pattern | wildcard | invalid =>
    cases hs : s.signature <;> simp [kind, Kind.ofShape, hs] at h

/-- The shape that a key names. A wildcard has its beginning in place of a method, and a key without
a head that can be read has no method. -/
def shape : RuleKey → Shape
  | plain s | exact s _ | pattern s _ => s
  | wildcard beginning => ⟨beginning, none⟩
  | invalid (.head _) => ⟨[], none⟩
  | invalid (.arguments s) | invalid (.mixed s) => s

/-- The key names exactly this shape. -/
def appliesTo (k : RuleKey) (s : Shape) : Bool :=
  k.shape == s

/-- The key has an argument list, if only one that cannot be read. -/
def isBracketed : RuleKey → Bool
  | exact _ _ | pattern _ _ => true
  | invalid (.head bracketed) => bracketed
  | invalid _ => true
  | plain _ | wildcard _ => false

/-- What the arguments have to be like, if the key has an argument list that can be read. -/
def matchers? : RuleKey → Option (List Matcher)
  | exact _ values => some (values.map .exact)
  | pattern _ sources => some (sources.map .pattern)
  | _ => none

/-- The beginning of the method names that a wildcard is for. -/
def beginning : RuleKey → Text
  | wildcard b => b
  | _ => []

/-- A wildcard for every method. -/
def isCatchAll : RuleKey → Bool
  | wildcard [] => true
  | _ => false

/-- What is said about a text that is no key. -/
def fault? : RuleKey → Option KeyFault
  | invalid fault => some fault
  | _ => none

end RuleKey

/-- What is said about a text that is no key, for the text in question. -/
def KeyFault.warning (key : Text) : KeyFault → Text
  | head _ => ("Ignoring rule with malformed key " : Text) ++ Text.inApostrophes key
  | arguments _ =>
    ("Ignoring argument matchers of malformed key " : Text) ++ Text.inApostrophes key
  | mixed _ =>
    ("Ignoring key " : Text) ++ Text.inApostrophes key ++
      (" that mixes exact and regex matchers" : Text)

end RoleGate
