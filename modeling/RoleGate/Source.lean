import RoleGate.Error
import RoleGate.RuleTable

/-!
# Sources

Where rule tables and operation catalogs come from. Looking one up may fail.
-/

namespace RoleGate

/-- The rule tables under their ids, and the catalogs of the operations that resources have. -/
structure Source where
  table : Text → Except Error (Option RuleTable)
  operations : Text → Except Error (Option (List Text))

namespace Source

/-- The source of given tables and catalogs. -/
def ofMaps (tables : OrderedMap RuleTable) (catalogs : OrderedMap (List Text)) : Source where
  table id := .ok (tables.get? id)
  operations resource := .ok (catalogs.get? resource)

end Source

end RoleGate
