import RoleGate.Text.Blank
import RoleGate.Value

/-!
# Role lists

The right-hand side of a rule names the roles that it grants: names between commas, with blanks
around them that do not count, and a comment behind the first number sign. Blank entries are
dropped; order and repetitions are kept.

## Main definitions

* `Roles.parse` — the roles that a text names.
* `Roles.render` — a text that names given roles.
-/

namespace RoleGate.Roles

/-- The part of a text before its comment. -/
def withoutComment (t : Text) : Text :=
  t.takeWhile (· != '#')

/-- The roles that a text names, in order. -/
def parse (t : Text) : List Text :=
  ((Text.splitOn ',' (withoutComment t)).map Text.trim).filter (!·.isEmpty)

/-- The roles that a rule with this right-hand side grants. Only a text grants any. -/
def ofValue : Value → List Text
  | .text t => parse t
  | _ => []

/-- A text that names the roles. -/
def render (roles : List Text) : Text :=
  Text.join [','] roles

end RoleGate.Roles
