import RoleGate.Engine.Bulk

/-!
# Engines that decide alike

Bulk checks are made of checks of single invocations and resources. So if two engines make these
alike, in whatever sense checks in a row pass on, they make bulk checks alike as well.

## Main definitions

* `Check.Congruence` — a sense in which checks may be alike.

## Main statements

* `Check.Congruence.mayOperateAny` — engines that treat operations alike treat catalogs alike.
* `Check.Congruence.bulk` — engines that treat invocations and resources alike treat bulk checks
  alike.
* `Engine.judge_congr`, `Engine.canAccess_congr` — engines that know the same of a resource decide
  alike on it.
-/

namespace RoleGate

/-- The relation holds between each check and itself, and between checks made of related ones. -/
structure Check.Congruence (R : (α : Type) → Check α → Check α → Prop) : Prop where
  refl : ∀ {α : Type} (x : Check α), R α x x
  bind : ∀ {α β : Type} {x y : Check α} {f g : α → Check β}, R α x y → (∀ a, R β (f a) (g a)) →
    R β (x >>= f) (y >>= g)

namespace Check

variable {α β : Type}

/-- Checks are alike if they are the same. -/
theorem congruence_eq : Congruence fun _ x y => x = y where
  refl _ := rfl
  bind hx hf := by rw [hx, funext hf]

/-- The answer of a check, if it is not stopped by an error. -/
def answer? (x : Check α) : Option α :=
  x.answer.toOption

theorem answer?_bind (x : Check α) (f : α → Check β) :
    (x >>= f).answer? = x.answer?.bind fun a => (f a).answer? := by
  rw [answer?, answer?, answer_bind]
  cases x.answer <;> rfl

/-- Checks are alike if they give the same answer or none. -/
theorem congruence_answer? : Congruence fun _ x y => x.answer? = y.answer? where
  refl _ := rfl
  bind hx hf := by rw [answer?_bind, answer?_bind, hx, funext hf]

namespace Congruence

variable {R : (α : Type) → Check α → Check α → Prop} (hR : Congruence R) {e f : Engine}
  {c : Caller} {resource : Text}
include hR

/-- If the first of two checks decides whether the second is made, and both pairs are alike, so are
the outcomes. -/
theorem firstOf {first first' rest rest' : Check Bool} (hfirst : R Bool first first')
    (hrest : R Bool rest rest') :
    R Bool (do if ← first then return true else rest)
      (do if ← first' then return true else rest') := by
  refine hR.bind hfirst fun allowed => ?_
  cases allowed with
  | true => exact hR.refl _
  | false => exact hrest

variable [Pattern.Machine]

theorem mayOperateAny {tables others : Snapshot}
    (h : ∀ operation, R Bool (e.mayOperate c resource tables operation)
      (f.mayOperate c resource others operation)) (operations : List Text) :
    R Bool (e.mayOperateAny c resource tables operations)
      (f.mayOperateAny c resource others operations) := by
  induction operations with
  | nil => exact hR.refl _
  | cons operation rest ih => exact hR.firstOf (h operation) ih

theorem canInvokeAny
    (h : ∀ i, R Bool (e.canInvoke c resource i) (f.canInvoke c resource i)) (is : List Invocation) :
    R Bool (e.canInvokeAny c resource is) (f.canInvokeAny c resource is) := by
  induction is with
  | nil => exact hR.refl _
  | cons i rest ih => exact hR.firstOf (h i) ih

theorem canQuery (hoperations : e.source.operations = f.source.operations)
    (h : ∀ i, R Bool (e.canInvoke c resource i) (f.canInvoke c resource i)) (i : Invocation) :
    R Bool (e.canQuery c resource i) (f.canQuery c resource i) := by
  have hoverloads : e.overloads resource i.method = f.overloads resource i.method := by
    rw [Engine.overloads, Engine.overloads, hoperations]
  rw [Engine.canQuery, Engine.canQuery, hoverloads]
  split
  · exact h i
  · split
    · exact hR.refl _
    · exact h i
    · exact hR.canInvokeAny h _

theorem rows (hoperations : e.source.operations = f.source.operations)
    (h : ∀ i, R Bool (e.canInvoke c resource i) (f.canInvoke c resource i)) (queries : List Text) :
    R (List Row) (e.rows c resource queries) (f.rows c resource queries) := by
  induction queries with
  | nil => exact hR.refl _
  | cons query rest ih =>
    have hrow : R Row (e.row c resource query) (f.row c resource query) := by
      unfold Engine.row
      split
      · exact hR.refl _
      · exact hR.bind (hR.canQuery hoperations h _) fun _ => hR.refl _
    exact hR.bind hrow fun _ => hR.bind ih fun _ => hR.refl _

/-- Engines that treat single invocations and resources alike treat bulk checks alike. -/
theorem bulk (hoperations : e.source.operations = f.source.operations)
    (hinvoke : ∀ resource i, R Bool (e.canInvoke c resource i) (f.canInvoke c resource i))
    (haccess : ∀ resource, R Bool (e.canAccess c resource) (f.canAccess c resource))
    (query : OrderedMap (List Text)) : R (List Row) (e.bulk c query) (f.bulk c query) := by
  have hentries : ∀ entries, R (List Row) (e.bulkEntries c entries) (f.bulkEntries c entries) := by
    intro entries
    induction entries with
    | nil => exact hR.refl _
    | cons entry rest ih =>
      have hrows : R (List Row) (e.rowsFor c entry.1 entry.2) (f.rowsFor c entry.1 entry.2) := by
        unfold Engine.rowsFor
        split
        · exact hR.bind (haccess entry.1) fun _ => hR.refl _
        · exact hR.rows hoperations (hinvoke entry.1) entry.2
      exact hR.bind hrows fun _ => hR.bind ih fun _ => hR.refl _
  exact hentries query.entries

end Congruence

end Check

namespace Engine

variable [Pattern.Machine] {e f : Engine} {resource : Text}

theorem requiredRoles_congr (hsnapshot : e.snapshot resource = f.snapshot resource)
    (i : Invocation) : e.requiredRoles resource i = f.requiredRoles resource i := by
  rw [requiredRoles, requiredRoles, hsnapshot]

section

variable (hsettings : e.settings = f.settings)
  (hsnapshot : e.snapshot resource = f.snapshot resource) (c : Caller) (i : Invocation)
include hsettings hsnapshot

theorem judge_congr : e.judge c resource i = f.judge c resource i := by
  simp only [judge, judgeIn, undecided, ruled, hsettings, hsnapshot]

theorem canInvoke_congr : e.canInvoke c resource i = f.canInvoke c resource i := by
  rw [canInvoke, canInvoke, judge_congr hsettings hsnapshot]

theorem explain_congr : e.explain c resource i = f.explain c resource i := by
  simp only [explain, explanation, judge_congr hsettings hsnapshot, hsettings]

theorem canAccess_congr
    (hoperations : e.source.operations resource = f.source.operations resource) :
    e.canAccess c resource = f.canAccess c resource := by
  have hgrounds : e.grounds resource = f.grounds resource := by
    rw [grounds, grounds, hsnapshot, hoperations]
  have hcatalog : ∀ tables operations, e.mayOperateAny c resource tables operations =
      f.mayOperateAny c resource tables operations := by
    intro tables
    refine Check.congruence_eq.mayOperateAny fun operation => ?_
    simp only [mayOperate, hsettings]
  have htables : ∀ tables, e.mayByTables c tables = f.mayByTables c tables := by
    intro tables
    simp only [mayByTables, mayByAnyRule, hsettings]
  simp only [canAccess, hgrounds, hcatalog, htables]

end

end Engine

end RoleGate
