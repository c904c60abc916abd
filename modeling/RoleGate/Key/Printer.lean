import RoleGate.Key.Basic

/-!
# Writing rule keys

The text of a rule key, in normal form. Invalid keys have no text of their own.
-/

namespace RoleGate.RuleKey

/-- Literals between brackets, each between two delimiters. -/
def literalList (delimiter : Char) (literals : List Text) : Text :=
  '[' :: (Text.join [','] (literals.map fun t => delimiter :: (t ++ [delimiter])) ++ [']'])

/-- The text of a key, if it is valid. -/
def render? : RuleKey → Option Text
  | plain s => some s.text
  | exact s values => some (s.text ++ literalList '"' values)
  | pattern s sources => some (s.text ++ literalList '/' sources)
  | wildcard beginning => some (beginning ++ ['*'])
  | invalid _ => none

end RoleGate.RuleKey
