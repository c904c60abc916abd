import RoleGate.Key.Normal

/-!
# Reading rule keys

A key in normal form is a beginning with a star behind it, or a head with an argument list perhaps
behind it. The head is a method name, perhaps with parameter types in parentheses. The argument list
is a list of literals in brackets: exact values in quotes, patterns in slashes.

A text that has none of these forms is read as an invalid key and never stands in the way of others.

## Main definitions

* `RuleKey.parse` — the key that a text in normal form stands for.
-/

namespace RoleGate.Key

/-! ## The head -/

/-- A parenthesis or a bracket, at which a method name ends. -/
def endsName (c : Char) : Bool :=
  c == '(' || c == '['

/-- A method of any overload. -/
def anyOverload? (name : Text) : Option Shape :=
  if name.isEmpty then none else some ⟨name, none⟩

/-- One overload of a method, given the text between its parentheses. -/
def overload? (name types : Text) : Option Shape :=
  let signature := if types.isEmpty then [] else Text.splitOn ',' types
  if name.isEmpty || signature.any List.isEmpty then none else some ⟨name, some signature⟩

/-- The shape that a key begins with, and the text behind it. Brackets may appear in the types
between parentheses. -/
def splitHead (key : Text) : Option Shape × Text :=
  let name := key.takeWhile (!endsName ·)
  match key.dropWhile (!endsName ·) with
  | '(' :: rest =>
    match Text.cutAt? ')' rest with
    | none => (none, [])
    | some (types, behind) => (overload? name types, behind)
  | behind => (anyOverload? name, behind)

/-! ## The argument list -/

/-- The text of a literal and what stands behind its delimiter, which is nothing or begins with a
comma. The literal ends with the first delimiter for which that is so. -/
def cutLiteral? (delimiter : Char) : Text → Option (Text × Text)
  | [] => none
  | c :: rest =>
    if c == delimiter && (rest.isEmpty || rest.head? == some ',') then some ([], rest)
    else (cutLiteral? delimiter rest).map fun (text, behind) => (c :: text, behind)

theorem length_lt_of_cutLiteral? {d : Char} {t text behind : Text}
    (h : cutLiteral? d t = some (text, behind)) : behind.length < t.length := by
  induction t generalizing text with
  | nil => simp [cutLiteral?] at h
  | cons c rest ih =>
    unfold cutLiteral? at h
    split at h
    · simp only [Option.some.injEq, Prod.mk.injEq] at h
      simp [h.2]
    · obtain ⟨⟨text', behind'⟩, hrest, heq⟩ := Option.map_eq_some_iff.1 h
      simp only [Prod.mk.injEq] at heq
      have hcut : cutLiteral? d rest = some (text', behind) := by rw [hrest, heq.2]
      have := ih hcut
      simp only [List.length_cons]
      omega

/-- The matcher that a literal stands for. -/
def matcherOf (delimiter : Char) (text : Text) : Matcher :=
  if delimiter == '"' then .exact text else .pattern text

/-- The matchers of a list of literals between commas. -/
def literals? (t : Text) : Option (List Matcher) :=
  match t with
  | [] => some []
  | d :: rest =>
    if isDelimiter d then
      match _ : cutLiteral? d rest with
      | none => none
      | some (text, []) => some [matcherOf d text]
      | some (_, [_]) => none
      | some (text, _ :: more) => (literals? more).map (matcherOf d text :: ·)
    else none
termination_by t.length
decreasing_by
  have hshorter := length_lt_of_cutLiteral? ‹cutLiteral? d rest = _›
  simp only [List.length_cons] at hshorter ⊢
  omega

/-- The matchers of an argument list with its brackets. -/
def argumentList? : Text → Option (List Matcher)
  | '[' :: rest => if Text.endsWith ']' rest then literals? rest.dropLast else none
  | _ => none

/-- The matchers as exact values, if they all are. -/
def exactValues? : List Matcher → Option (List Text)
  | [] => some []
  | .exact v :: rest => (exactValues? rest).map (v :: ·)
  | .pattern _ :: _ => none

/-- The matchers as patterns, if they all are. -/
def patternSources? : List Matcher → Option (List Text)
  | [] => some []
  | .pattern p :: rest => (patternSources? rest).map (p :: ·)
  | .exact _ :: _ => none

/-- The key for a shape and matchers. No matchers at all count as exact values. -/
def bracketed (s : Shape) (ms : List Matcher) : RuleKey :=
  match exactValues? ms, patternSources? ms with
  | some values, _ => .exact s values
  | none, some sources => .pattern s sources
  | none, none => .invalid (.mixed s)

end RoleGate.Key

namespace RoleGate.RuleKey

open Key

/-- The key that a text in normal form stands for. -/
def parse (key : Text) : RuleKey :=
  if Text.endsWith '*' key then wildcard key.dropLast
  else
    match splitHead key with
    | (none, behind) => invalid (.head (!behind.isEmpty))
    | (some s, []) => plain s
    | (some s, behind) =>
      match argumentList? behind with
      | none => invalid (.arguments s)
      | some ms => bracketed s ms

end RoleGate.RuleKey
