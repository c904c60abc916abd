import RoleGate.Value

/-!
# Callers

The one whose invocation is checked. Only the roles decide; the id and the attributes are for
messages and for whoever asks.
-/

namespace RoleGate

/-- An id, the roles held, and further attributes. -/
structure Caller where
  id : Text
  roles : List Text := []
  attributes : OrderedMap Value := .empty

namespace Caller

/-- The caller holds the role. -/
def hasRole (c : Caller) (role : Text) : Bool :=
  c.roles.contains role

/-- The caller holds at least one of the roles. -/
def hasAnyRole (c : Caller) (roles : List Text) : Bool :=
  roles.any c.hasRole

/-- The caller as a value. -/
def toValue (c : Caller) : Value :=
  .caller c.id c.roles c.attributes.entries

end Caller

end RoleGate
