import RoleGate.Engine.Access

/-!
# Many checks at once

A bulk check asks for several methods of several resources. Each resource comes with the texts of
its queries; no queries at all ask for access to the resource. A query that names a method without a
signature stands for every overload of it in the catalog of the resource.

## Main definitions

* `Row` — one answer.
* `Engine.bulk` — the answers to all queries, in order.
-/

namespace RoleGate

/-- One answer of a bulk check. The empty method stands for access to the resource. -/
structure Row where
  resource : Text
  method : Text
  allowed : Bool
  deriving DecidableEq

namespace Engine

/-- The invocation that a catalog entry stands for, if it is an overload of the method. -/
def overload? (method operation : Text) : Option Invocation :=
  match Invocation.ofQuery operation with
  | .error _ => none
  | .ok i => if i.method == method && i.signature.isSome then some i else none

/-- The overloads of a method in the catalog of a resource. -/
def overloads (e : Engine) (resource method : Text) : Except Error (List Invocation) := do
  let operations ← e.source.operations resource
  return (operations.getD []).filterMap (overload? method)

variable [Pattern.Machine]

/-- The caller may make one of the invocations. The first such invocation settles it. -/
def canInvokeAny (e : Engine) (c : Caller) (resource : Text) : List Invocation → Check Bool
  | [] => return false
  | i :: rest => do
    if ← e.canInvoke c resource i then return true else e.canInvokeAny c resource rest

/-- The caller may do what a query asks for. -/
def canQuery (e : Engine) (c : Caller) (resource : Text) (i : Invocation) : Check Bool :=
  if i.signature.isSome then e.canInvoke c resource i
  else
    match e.overloads resource i.method with
    | .error cause => do
      Check.notice (.checkFailed i.method resource cause)
      return false
    | .ok [] => e.canInvoke c resource i
    | .ok found => e.canInvokeAny c resource found

/-- The answer to one query of a resource. -/
def row (e : Engine) (c : Caller) (resource query : Text) : Check Row :=
  match Invocation.ofQuery query with
  | .error cause => do
    Check.notice (.rowRefused resource cause)
    return ⟨resource, query, false⟩
  | .ok i => do
    return ⟨resource, query, ← e.canQuery c resource i⟩

/-- The answers to the queries of a resource. -/
def rows (e : Engine) (c : Caller) (resource : Text) : List Text → Check (List Row)
  | [] => return []
  | query :: rest => do
    let first ← e.row c resource query
    return first :: (← e.rows c resource rest)

/-- The answers for a resource: one for each query, or one for access if there are none. -/
def rowsFor (e : Engine) (c : Caller) (resource : Text) (queries : List Text) : Check (List Row) :=
  if queries.isEmpty then do
    return [⟨resource, [], ← e.canAccess c resource⟩]
  else e.rows c resource queries

/-- The answers for resources in order. -/
def bulkEntries (e : Engine) (c : Caller) : List (Text × List Text) → Check (List Row)
  | [] => return []
  | (resource, queries) :: rest => do
    let first ← e.rowsFor c resource queries
    return first ++ (← e.bulkEntries c rest)

/-- The answers to a bulk check. -/
def bulk (e : Engine) (c : Caller) (query : OrderedMap (List Text)) : Check (List Row) :=
  e.bulkEntries c query.entries

end Engine

end RoleGate
