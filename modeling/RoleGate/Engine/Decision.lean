import RoleGate.Engine.Basic

/-!
# Decisions

Whether a caller may invoke a method on a resource, and why. A resource whose tables cannot be
looked up is refused.

## Main definitions

* `Judgement` — a decision with its reason and what it rests on.
* `Engine.judge` — the decision on an invocation.
* `Engine.canInvoke` — the decision alone.
* `Engine.explanation` — what a caller is told who asked for an explanation.
* `Engine.explain` — the decision and what it was made from.
-/

namespace RoleGate

/-- What a decision rests on: something that failed, the absence of rules, or the ruling of a
table. -/
inductive Basis where
  | failure (kind : Text)
  | noRule
  | ruling (ruling : Ruling) (table : Text)

namespace Basis

/-- The roles of which one was needed, if a rule decided. -/
def requiredRoles : Basis → Option (List Text)
  | ruling r _ => some r.roles
  | _ => none

/-- What a decision rests on, under names. -/
def findings : Basis → OrderedMap Value
  | failure kind => .ofList [("error", .text kind)]
  | noRule => .ofList [("required_roles", .absent)]
  | ruling r table => .ofList
    [("required_roles", .texts r.roles), ("rule_kind", .text r.kind.label),
      ("matched_keys", .texts r.keys), ("table_id", .text table)]

end Basis

/-- A decision, its reason, the tables consulted and what the decision rests on. -/
structure Judgement where
  allowed : Bool
  reason : Text
  tables : List Text
  basis : Basis

/-- The outcome of a check as any engine gives it: the decision, perhaps with a reason, the tables
consulted and further findings. -/
structure Verdict where
  allowed : Bool
  reason : Option Text := none
  tables : List Text := []
  findings : OrderedMap Value := .empty

namespace Verdict

/-- The verdict that allows. -/
def allow (reason : Option Text) (tables : List Text) (findings : OrderedMap Value) : Verdict :=
  ⟨true, reason, tables, findings⟩

/-- The verdict that denies. -/
def deny (reason : Option Text) (tables : List Text) (findings : OrderedMap Value) : Verdict :=
  ⟨false, reason, tables, findings⟩

end Verdict

/-- The decision as a verdict. -/
def Judgement.verdict (j : Judgement) : Verdict :=
  ⟨j.allowed, some j.reason, j.tables, j.basis.findings⟩

namespace Engine

/-- The decision where the tables of the resource could not be looked up. -/
def failed (resource : Text) (cause : Error) : Judgement where
  allowed := false
  reason := ("Rule tables for resource " : Text) ++ Text.inApostrophes resource ++
    (" could not be resolved: " : Text) ++ cause.message
  tables := []
  basis := .failure cause.kind

/-- The decision where no rule decides. -/
def undecided (e : Engine) (resource method : Text) (tables : List Text) : Judgement where
  allowed := e.settings.defaultAllow
  reason := ("No rule for " : Text) ++ Text.inApostrophes method ++ (" on resource " : Text) ++
    Text.inApostrophes resource
  tables := tables
  basis := .noRule

/-- The decision where a table has a ruling. -/
def ruled (e : Engine) (c : Caller) (method : Text) (tables : List Text) (table : Text)
    (r : Ruling) : Judgement :=
  let allowed := e.settings.admits c r.roles
  { allowed
    reason :=
      if allowed then
        ("Rule " : Text) ++ Value.writtenTexts r.keys ++ (" in " : Text) ++
          Text.inApostrophes table ++ (" allowed " : Text) ++ Text.inApostrophes method
      else
        ("User " : Text) ++ Text.inApostrophes c.id ++ (" lacks any of the roles " : Text) ++
          Value.writtenTexts r.roles ++ (" required for " : Text) ++ Text.inApostrophes method
    tables
    basis := .ruling r table }

variable [Pattern.Machine]

/-- The decision on an invocation, given the tables of the resource. -/
def judgeIn (e : Engine) (c : Caller) (resource : Text) (i : Invocation) (tables : Snapshot) :
    Check Judgement := do
  let ids := tables.map Prod.fst
  match ← rulingIn i tables with
  | none => return e.undecided resource i.method ids
  | some (table, r) => return e.ruled c i.method ids table r

/-- The decision on an invocation. -/
def judge (e : Engine) (c : Caller) (resource : Text) (i : Invocation) : Check Judgement :=
  match e.snapshot resource with
  | .ok tables => e.judgeIn c resource i tables
  | .error cause => do
    Check.notice (.checkFailed i.method resource cause)
    return failed resource cause

/-- The caller may make the invocation. -/
def canInvoke (e : Engine) (c : Caller) (resource : Text) (i : Invocation) : Check Bool := do
  return (← e.judge c resource i).allowed

/-- What a verdict says to a caller who asked for an explanation. The request is told by `request`;
the findings of the verdict stand behind everything else. -/
def explanation (e : Engine) (c : Caller) (resource : Text) (request : OrderedMap Value)
    (v : Verdict) : OrderedMap Value :=
  (OrderedMap.ofList
    [("decision", .text (if v.allowed then "ALLOW" else "DENY")),
      ("reason", .ofText? v.reason),
      ("tables_consulted", .texts v.tables),
      ("user", .ofMap (.ofList [("user_id", .text c.id), ("roles", .texts c.roles)])),
      ("request", .ofMap ((OrderedMap.ofList [("resource", .text resource)]).update request)),
      ("default_allow", .bool e.settings.defaultAllow)]).update v.findings

/-- The decision on an invocation with all that it was made from. There is no explanation if an
argument cannot be written, even where the decision does not look at it. -/
def explain (e : Engine) (c : Caller) (resource : Text) (i : Invocation) :
    Check (OrderedMap Value) := do
  let j ← e.judge c resource i
  let request ← Check.ofExcept i.toMap
  return e.explanation c resource request j.verdict

end Engine

end RoleGate
