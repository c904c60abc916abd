import RoleGate.Engine.Decision
import RoleGate.Invocation.Query

/-!
# Access to a resource

Whether a caller may invoke at least one operation of a resource.

If the operations of the resource are known, each is checked without regard to arguments. If they
are not, the rule tables are looked at: unless some table has a catch-all wildcard, there are
methods that no rule is for; otherwise the caller needs one of the roles that the tables name
anywhere.

## Main definitions

* `Engine.canAccess` — the caller may invoke some operation.
* `Engine.canInvokeOrAccess` — the check of a method, or of the resource if no method is given.
-/

namespace RoleGate.Engine

variable [Pattern.Machine]

/-- The caller may invoke what one entry of a catalog stands for. An entry that asks for no method
stands for nothing. -/
def mayOperate (e : Engine) (c : Caller) (resource : Text) (tables : Snapshot) (operation : Text) :
    Check Bool :=
  match Invocation.ofQuery operation with
  | .error cause => do
    Check.notice (.operationSkipped resource cause)
    return false
  | .ok i => do
    match ← rulingIn i tables with
    | none => return e.settings.defaultAllow
    | some (_, r) => return e.settings.admits c r.roles

/-- The caller may invoke one of the operations of a catalog. The first such operation settles
it. -/
def mayOperateAny (e : Engine) (c : Caller) (resource : Text) (tables : Snapshot) :
    List Text → Check Bool
  | [] => return false
  | operation :: rest => do
    if ← e.mayOperate c resource tables operation then return true
    else e.mayOperateAny c resource tables rest

/-- All keys of the tables, in order. -/
def keysOf (tables : Snapshot) : List Text :=
  tables.flatMap fun t => t.2.keys

/-- The keys up to the first catch-all wildcard, and whether there is one. -/
def searchCatchAll : List Text → List Text × Bool
  | [] => ([], false)
  | key :: rest =>
    if (RuleKey.parse key).isCatchAll then ([key], true)
    else
      let (read, found) := searchCatchAll rest
      (key :: read, found)

/-- One of the tables has a catch-all wildcard. -/
def hasCatchAll (tables : Snapshot) : Check Bool :=
  let (read, found) := searchCatchAll (keysOf tables)
  Check.readingKeys read (.ok found)

/-- The caller has one of the roles that the tables name anywhere. -/
def mayByAnyRule (e : Engine) (c : Caller) (tables : Snapshot) : Bool :=
  tables.any fun t => t.2.values.any fun v => e.settings.admits c (Roles.ofValue v)

/-- The caller may invoke something that is not in a catalog. -/
def mayByTables (e : Engine) (c : Caller) (tables : Snapshot) : Check Bool := do
  if tables.isEmpty then return e.settings.defaultAllow
  if !(← hasCatchAll tables) && e.settings.defaultAllow then return true
  return e.mayByAnyRule c tables

/-- The tables of a resource, and its catalog if there is one. -/
def grounds (e : Engine) (resource : Text) : Except Error (Snapshot × Option (List Text)) := do
  let tables ← e.snapshot resource
  let operations ← e.source.operations resource
  return (tables, operations)

/-- The caller may invoke some operation of the resource. -/
def canAccess (e : Engine) (c : Caller) (resource : Text) : Check Bool :=
  match e.grounds resource with
  | .error cause => do
    Check.notice (.accessFailed resource cause)
    return false
  | .ok (tables, some operations) => e.mayOperateAny c resource tables operations
  | .ok (tables, none) => e.mayByTables c tables

/-- The caller may invoke the method, or some operation of the resource if no method is given. -/
def canInvokeOrAccess (e : Engine) (c : Caller) (resource : Text) : Option Invocation → Check Bool
  | none => e.canAccess c resource
  | some i => e.canInvoke c resource i

end RoleGate.Engine
