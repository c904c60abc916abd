import RoleGate.Caller
import RoleGate.Check
import RoleGate.Invocation
import RoleGate.Resource
import RoleGate.Ruling
import RoleGate.Source

/-!
# The engine

What decides: settings, a resolver that says which tables govern a resource, and a source that the
tables come from.

## Main definitions

* `Settings` — what happens where no rule decides, and the role entry that admits everyone.
* `Engine` — settings, resolver and source.
* `Engine.snapshot` — the tables of a resource at one moment.
* `Engine.rulingIn` — the first ruling of the tables of a snapshot.
* `Settings.admits` — a caller may do what needs one of some roles.
-/

namespace RoleGate

/-- The decision where no rule decides, and the role entry that admits every caller, if there is
one. -/
structure Settings where
  defaultAllow : Bool := true
  roleWildcard : Option Text := some ['*']

namespace Settings

/-- The decision where no rule decides: a truth value, and to allow if it is not configured. -/
def readDefaultAllow : Option Value → Except Error Bool
  | none => .ok true
  | some (.bool b) => .ok b
  | some v => .error (.about .defaultAllow v)

/-- The role entry that admits everyone: a text that is not blank, no entry at all, or a star if it
is not configured. -/
def readRoleWildcard : Option Value → Except Error (Option Text)
  | none => .ok (some ['*'])
  | some .absent => .ok none
  | some (.text t) =>
    if Text.isBlankText t then .error (.about .roleWildcard (.text t)) else .ok (some t)
  | some v => .error (.about .roleWildcard v)

/-- The settings that a configuration makes. -/
def ofConfig (config : OrderedMap Value) : Except Error Settings := do
  let defaultAllow ← readDefaultAllow (config.get? "default_allow")
  let roleWildcard ← readRoleWildcard (config.get? "role_wildcard")
  return ⟨defaultAllow, roleWildcard⟩

/-- The caller may do what needs one of the roles. No roles at all admit nobody. -/
def admits (s : Settings) (c : Caller) (roles : List Text) : Bool :=
  s.roleWildcard.any roles.contains || c.hasAnyRole roles

end Settings

/-- What an engine can do beyond single decisions. -/
structure Capabilities where
  async : Bool := true
  explain : Bool := false
  advisory : Bool := false
  bulk : Bool := false
  maxBatchSize : Int := 1

/-- The tables of a resource at one moment, with their ids and with keys in normal form, the most
specific first. -/
abbrev Snapshot := List (Text × RuleTable)

/-- Settings, a resolver and a source. -/
structure Engine where
  settings : Settings
  resolver : Resolver
  source : Source

namespace Engine

/-- The name of engines that decide by rule tables. -/
def name : Text := "acl"

/-- What engines that decide by rule tables can do. -/
def capabilities : Capabilities where
  explain := true
  advisory := true
  bulk := true
  maxBatchSize := 0

/-- The tables under some ids, as far as there are any. One look-up that fails fails them all. -/
def tablesOf (source : Source) : List Text → Except Error Snapshot
  | [] => .ok []
  | id :: rest => do
    let table ← source.table id
    let others ← tablesOf source rest
    return match table with
      | none => others
      | some t => (id, t.normalize) :: others

/-- The tables of a resource. -/
def snapshot (e : Engine) (resource : Text) : Except Error Snapshot := do
  tablesOf e.source (← e.resolver.candidates resource)

variable [Pattern.Machine]

/-- The first ruling of the tables of a snapshot, with the id of its table. -/
def rulingIn (i : Invocation) : Snapshot → Check (Option (Text × Ruling))
  | [] => return none
  | (id, table) :: rest => do
    let found ← Check.readingKeys table.keys
      (Ruling.resolve i.method i.args i.signature table.rules)
    match found with
    | some ruling => return some (id, ruling)
    | none => rulingIn i rest

/-- The roles of which one is needed, or none if no rule decides. -/
def requiredRoles (e : Engine) (resource : Text) (i : Invocation) : Check (Option (List Text)) := do
  let tables ← Check.ofExcept (e.snapshot resource)
  return (← rulingIn i tables).map fun found => found.2.roles

end Engine

end RoleGate
