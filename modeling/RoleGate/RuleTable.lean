import RoleGate.Key.Reader
import RoleGate.Roles

/-!
# Rule tables

A rule table maps rule keys to the right-hand sides of rules. Its rules are its entries in order,
each with its key read and its roles listed.
-/

namespace RoleGate

/-- The right-hand sides of rules under their keys. -/
abbrev RuleTable := OrderedMap Value

/-- A rule: its key as text and as read, and the roles that it grants. -/
structure Rule where
  text : Text
  key : RuleKey
  roles : List Text

/-- The rule of an entry. -/
def Rule.ofEntry (entry : Text × Value) : Rule :=
  ⟨entry.1, .parse entry.1, Roles.ofValue entry.2⟩

namespace RuleTable

/-- The table with its keys in normal form. Of keys with one normal form the last gives the
value. -/
def normalize (t : RuleTable) : RuleTable :=
  OrderedMap.mapKeys Key.normalize t

/-- The rules of a table whose keys are in normal form. -/
def rules (t : RuleTable) : List Rule :=
  t.entries.map Rule.ofEntry

end RuleTable

end RoleGate
