import RoleGate.Engine.Decision
import RoleGate.Guard.Binding

/-!
# Guards

A guard stands before a function and lets a call through if the engine allows it. The invocation it
asks about is the call itself: the values that the parameters receive, in the order of declaration
and with defaults filled in, and the names of the parameters' types. One parameter receives the
caller and takes no part in the invocation, nor do arguments for a parameter that takes all further
keywords.

## Main definitions

* `Guard` — what a guard knows about its function.
* `Guard.invocation` — the invocation that a call amounts to.
* `Guard.check` — the check of a call, which fails if the call is refused.
* `Guard.run` — the guarded function.
-/

namespace RoleGate

/-- A function as a guard sees it: its resource, the name by which rules know it, its parameters and
which of them receives the caller. -/
structure Guard where
  resource : Text
  method : Text
  parameters : List Parameter
  callerParameter : Text := "user"

namespace Guard

/-- The guard of a function, which rules know by the function's own name unless another is given. -/
def ofFunction (resource function : Text) (method : Option Text) (parameters : List Parameter)
    (callerParameter : Text) : Guard where
  resource := resource
  method := (Text.present? method).getD function
  parameters := parameters
  callerParameter := callerParameter

/-- The values that a parameter adds to the invocation and, in a list of their own, the names of
their types. A parameter that adds no value needs no name for its type. -/
def contribution (g : Guard) (p : Parameter) (bound : Bound) :
    Except Error (List Value × List Text) :=
  if p.name = g.callerParameter || p.kind = .keywords then .ok ([], [])
  else
    match bound with
    | .rest vs => do return (vs, ← vs.mapM fun _ => p.typeName)
    | other => do return ([other.toValue], [← p.typeName])

/-- The values in a call, and the names of their types. -/
def arguments (g : Guard) : List (Parameter × Bound) → Except Error (List Value × List Text)
  | [] => .ok ([], [])
  | (p, bound) :: rest => do
    let (values, types) ← g.contribution p bound
    let (otherValues, otherTypes) ← g.arguments rest
    return (values ++ otherValues, types ++ otherTypes)

/-- The invocation that a call amounts to. -/
def invocation (g : Guard) (bound : List (Parameter × Bound)) : Except Error Invocation := do
  let (values, types) ← g.arguments bound
  return .create g.method (some values) (some types)

/-- What the caller's parameter receives, if there is such a parameter. -/
def callerValue (g : Guard) (bound : List (Parameter × Bound)) : Value :=
  match bound.find? (·.1.name = g.callerParameter) with
  | some (_, b) => b.toValue
  | none => .absent

/-- The error of a call without a caller. -/
def noCaller (g : Guard) : Error :=
  .refused "unknown" g.method g.resource "No user context provided" []

/-- The caller of a call. -/
def caller (g : Guard) (bound : List (Parameter × Bound)) : Except Error Caller :=
  match g.callerValue bound with
  | .caller id roles attributes => .ok ⟨id, roles, .ofList attributes⟩
  | .absent => .error g.noCaller
  | v => .error (.notACaller v.typeName)

/-- The error of a call that the engine refuses. -/
def refusal (g : Guard) (c : Caller) (j : Judgement) : Error :=
  .refused c.id g.method g.resource j.reason (j.basis.requiredRoles.getD [])

variable [Pattern.Machine]

/-- Lets a call through, or fails. -/
def check (g : Guard) (e : Engine) (call : Call) : Check Unit := do
  let bound ← Check.ofExcept ((call.bind g.parameters).mapError .binding)
  let i ← Check.ofExcept (g.invocation bound)
  let c ← Check.ofExcept (g.caller bound)
  let j ← e.judge c g.resource i
  if j.allowed then return ()
  else
    Check.notice (.callRefused g.method g.resource c.id j.reason)
    Check.ofExcept (.error (g.refusal c j))

/-- The guarded function: calls that are let through reach the function as they were made. -/
def run {α : Type} (g : Guard) (e : Engine) (function : Call → Check α) (call : Call) :
    Check α := do
  g.check e call
  function call

end Guard

end RoleGate
