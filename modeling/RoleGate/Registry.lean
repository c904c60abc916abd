import RoleGate.Engine.Decision
import RoleGate.Store
import RoleGate.Text.Lowercase

/-!
# The registry of engines

Kinds of engines under names. Names that differ in case only are one name. An engine of a registered
kind is made from a configuration, which the kind may reject, and from the parts that it is given.

## Main definitions

* `Maker`, `AnyEngine` — a kind of engines, and an engine of any kind.
* `Registry` — the kinds that are registered, under lower case names.
* `Registry.register`, `Registry.create`, `Registry.available` — the operations.
* `Registry.step` — the operations as requests, so that a history is a list of them.
* `Registry.run` — the replies to requests in a row.
-/

namespace RoleGate

/-- The parts that an engine can be given: a source and a resolver. -/
structure Parts where
  source : Option Source := none
  resolver : Option Resolver := none

/-- A way to make things from configurations and parts. Some configurations are rejected. -/
abbrev Maker (ε : Type) := OrderedMap Value → Parts → Except Error ε

/-- An engine of any kind: its name, and its verdict on an invocation by a caller on a resource. -/
structure AnyEngine where
  name : Text
  evaluate : Caller → Text → Invocation → Check Verdict

namespace Engine

/-- An engine that decides by rule tables. Unless it is given other parts, it has an empty store and
a table for each resource. -/
def ofConfig (config : OrderedMap Value) (parts : Parts) : Except Error Engine := do
  let settings ← Settings.ofConfig config
  return ⟨settings, parts.resolver.getD (.flat []), parts.source.getD Store.empty.source⟩

variable [Pattern.Machine]

/-- An engine that decides by rule tables, as an engine of any kind. -/
def toAny (e : Engine) : AnyEngine where
  name := name
  evaluate c resource i := Judgement.verdict <$> e.judge c resource i

/-- The kind of engines that decide by rule tables. -/
def make : Maker AnyEngine :=
  fun config parts => (ofConfig config parts).map toAny

end Engine

/-- Ways to make engines, under lower case names. -/
structure Registry (ε : Type) where
  makers : OrderedMap (Maker ε)

namespace Registry

variable {ε : Type}

/-- The registry that knows one kind of engines only. -/
def ofKind (name : Text) (make : Maker ε) : Registry ε :=
  ⟨OrderedMap.empty.insert name make⟩

/-- The registry at the start, which knows engines that decide by rule tables. -/
def initial [Pattern.Machine] : Registry AnyEngine :=
  ofKind Engine.name Engine.make

/-- The registry with a kind of engines under a name, in place of what was there. -/
def register (r : Registry ε) (name : Text) (make : Maker ε) : Registry ε :=
  ⟨r.makers.insert (Text.lowercase name) make⟩

/-- The registered names, sorted. -/
def available (r : Registry ε) : List Text :=
  r.makers.keys.mergeSort fun s t => !Text.precedes t s

/-- The kind of engines that is registered under a name. -/
def find (r : Registry ε) (name : Text) : Except Error (Maker ε) :=
  let lowered := Text.lowercase name
  match r.makers.get? lowered with
  | some make => .ok make
  | none => .error (.unknownEngine lowered r.available)

/-- An engine of the kind that is registered under a name, made from a configuration and parts that
are passed on as they are. If nothing is said it decides by rule tables, and nothing is configured
or given. -/
def create (r : Registry ε) (name : Text := Engine.name) (config : OrderedMap Value := .empty)
    (parts : Parts := {}) : Except Error ε := do
  (← r.find name) config parts

/-! ## Requests -/

/-- What is asked of a registry. -/
inductive Request (ε : Type) where
  | register (name : Text) (make : Maker ε)
  | create (name : Text := Engine.name) (config : OrderedMap Value := .empty) (parts : Parts := {})
  | available

/-- What a registry answers. -/
inductive Reply (ε : Type) where
  | registered
  | created (engine : ε)
  | names (available : List Text)

/-- The reply to a request, or the error in its place, and the registry after it. -/
def step (r : Registry ε) : Request ε → Except Error (Reply ε) × Registry ε
  | .register name make => (.ok .registered, r.register name make)
  | .create name config parts => ((r.create name config parts).map .created, r)
  | .available => (.ok (.names r.available), r)

/-- The replies to requests made one after the other, and the registry after them. -/
def run (r : Registry ε) : List (Request ε) → List (Except Error (Reply ε)) × Registry ε
  | [] => ([], r)
  | request :: rest =>
    let (first, between) := r.step request
    let (others, after) := run between rest
    (first :: others, after)

end Registry

end RoleGate
