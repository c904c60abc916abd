import RoleGate.Source

/-!
# The store

Rule tables and operation catalogs in memory. Tables are stored with their keys in normal form. A
table that is replaced keeps its place among the others.

## Main definitions

* `Store` — the tables under their ids and the catalogs of resources.
* `Store.putTable`, `Store.removeTable`, `Store.putOperations`, `Store.clear` — the changes.
* `Store.source` — the store as a source.
-/

namespace RoleGate

/-- The tables under their ids, and the catalogs of resources. -/
structure Store where
  tables : OrderedMap RuleTable := .empty
  catalogs : OrderedMap (List Text) := .empty

namespace Store

/-- The store without tables and catalogs. -/
def empty : Store := {}

/-- The entries of a mapping as those of a table, unless a key is no text. -/
def textEntries (id : Text) : List (Value × Value) → Except Error (List (Text × Value))
  | [] => .ok []
  | (.text key, v) :: rest => (textEntries id rest).map ((key, v) :: ·)
  | (key, _) :: _ => .error (.about (.keyIsNoText id) key)

/-- The table that a value describes. -/
def tableOf (id : Text) : Value → Except Error RuleTable
  | .mapping entries => (textEntries id entries).map .ofList
  | v => .error (.configuration (.tableIsNoMapping id v.typeName))

/-- The store with a table under an id. -/
def putTable (s : Store) (id : Text) (table : Value) : Except Error Store := do
  let t ← tableOf id table
  return { s with tables := s.tables.insert id t.normalize }

/-- The store that holds the given tables, put one after the other. -/
def ofTables : List (Text × Value) → Except Error Store :=
  List.foldlM (fun s e => s.putTable e.1 e.2) empty

/-- The store without the table under an id, and whether there was one. -/
def removeTable (s : Store) (id : Text) : Store × Bool :=
  ({ s with tables := s.tables.erase id }, s.tables.contains id)

/-- The ids of the tables in order. -/
def tableIds (s : Store) : List Text :=
  s.tables.keys

/-- The store with the catalog of a resource. A text is no catalog. -/
def putOperations (s : Store) (resource : Text) (catalog : Text ⊕ List Text) : Except Error Store :=
  match catalog with
  | .inl t => .error (.configuration (.catalogIsText resource t))
  | .inr operations => .ok { s with catalogs := s.catalogs.insert resource operations }

/-- The store after all tables and catalogs were removed. -/
def clear (_ : Store) : Store :=
  empty

/-- The store as a source, which never fails. -/
def source (s : Store) : Source :=
  .ofMaps s.tables s.catalogs

end Store

end RoleGate
