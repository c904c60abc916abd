import RoleGate.Store

/-!
# Changes of the store

The changes as data, so that a history of the store is a list of changes. A change that fails leaves
the store as it was.

## Main definitions

* `Store.Change` — the changes.
* `Store.apply` — what a change answers, and the store after it.
* `Store.run` — the store after a history.
-/

namespace RoleGate.Store

/-- A change of the store. A catalog is a list of operations; a text in its place is refused. -/
inductive Change where
  | putTable (id : Text) (table : Value)
  | removeTable (id : Text)
  | putOperations (resource : Text) (catalog : Text ⊕ List Text)
  | clear

/-- What a change answers: nothing, or whether there was a table to remove. -/
inductive Change.Answer where
  | done
  | removed (found : Bool)
  deriving DecidableEq

/-- The answer to a change, and the store after it. -/
def apply (s : Store) : Change → Except Error (Change.Answer × Store)
  | .putTable id table => (s.putTable id table).map (.done, ·)
  | .removeTable id =>
    let (rest, found) := s.removeTable id
    .ok (.removed found, rest)
  | .putOperations resource catalog => (s.putOperations resource catalog).map (.done, ·)
  | .clear => .ok (.done, s.clear)

/-- The store after a change, which is the store before it if the change fails. -/
def after (s : Store) (c : Change) : Store :=
  match s.apply c with
  | .ok (_, t) => t
  | .error _ => s

/-- The store after changes made one after the other. -/
def run (s : Store) (history : List Change) : Store :=
  history.foldl after s

end RoleGate.Store
