import Mathlib.Data.List.Forall2
import RoleGate.Proofs.Engine.Bulk
import RoleGate.Proofs.Engine.Stored
import RoleGate.Proofs.Ruling.Concern
import RoleGate.Proofs.Ruling.Distinct

/-!
# Rules without a head

A rule whose head cannot be read is for no method. So no check of a method with a name depends on
it, and no query or catalog either, since these ask for methods with names. Access to a resource
without a catalog is the exception: whoever has a role that some table names is let in, though the
role may stand beside a key without a head and nothing can be done by it.

## Main definitions

* `Source.withoutRule`, `Engine.withoutRule` — one rule of one table taken away.
* `Engine.OpenedBy` — a rule lets a caller in where there is no catalog.

## Main statements

* `Store.source_after_putTable_erase` — in the store, a rule is taken away by putting its table
  anew.
* `Engine.answer_canInvoke_withoutRule` — checks of methods do not depend on rules without a head.
* `Engine.holds_canAccess_withoutRule_iff` — what such a rule does for access to a resource.
-/

namespace RoleGate

variable {id key : Text}

namespace RuleTable

theorem normalize_erase (t : RuleTable) (key : Text) :
    RuleTable.normalize (t.normalize.erase key) = t.normalize.erase key := by
  refine OrderedMap.mapKeys_eq_self fun other hother => ?_
  rw [OrderedMap.keys_erase] at hother
  exact normalize_of_mem_keys (List.mem_filter.1 hother).1

theorem rules_erase (t : RuleTable) (key : Text) :
    RuleTable.rules (t.erase key) = t.rules.filter fun r => r.text != key :=
  t.rules_filterKeys (· != key)

/-- The table without the rule under a key, if it is the table with the id. -/
def withoutRule (id key : Text) (t : Text × RuleTable) : RuleTable :=
  if t.1 = id then t.2.erase key else t.2

theorem get?_withoutRule (t : Text × RuleTable) (other : Text) :
    (withoutRule id key t).get? other =
      if t.1 = id ∧ other = key then none else t.2.get? other := by
  unfold withoutRule
  split
  · next hid => rw [OrderedMap.get?_erase]; simp only [hid, true_and]
  · next hid => rw [if_neg fun h => hid h.1]

end RuleTable

/-- The source without the rule under a key in the table with an id. -/
def Source.withoutRule (s : Source) (id key : Text) : Source :=
  { s with table := fun other =>
      if other = id then (s.table id).map (·.map fun t => t.normalize.erase key)
      else s.table other }

/-- In the store a rule is taken away by putting its table anew without the rule. -/
theorem Store.source_after_putTable_erase {s : Store} {t : RuleTable} (hnormal : s.IsNormal)
    (ht : s.tables.get? id = some t) :
    (s.after (.putTable id (RuleTable.toValue (t.erase key)))).source =
      s.source.withoutRule id key := by
  have hstored : t.normalize = t := hnormal id t ht
  have herase : RuleTable.normalize (t.erase key) = t.erase key := by
    have h := t.normalize_erase key
    rwa [hstored] at h
  have htable : ∀ other,
      (Except.ok ((s.tables.insert id (t.erase key)).get? other) : Except Error _) =
        (s.source.withoutRule id key).table other := by
    intro other
    show _ = if other = id then
      (Except.ok (s.tables.get? id)).map (·.map fun t => t.normalize.erase key)
      else Except.ok (s.tables.get? other)
    rw [OrderedMap.get?_insert, ht]
    split
    · exact congrArg (fun t => Except.ok (some (OrderedMap.erase t key))) hstored.symm
    · rfl
  rw [after_putTable, herase]
  exact congrArg (Source.mk · s.source.operations) (funext htable)

namespace Engine

variable {e : Engine} {c : Caller} {resource : Text} {i : Invocation} {tables : Snapshot}

/-- The engine without the rule under a key in the table with an id. -/
def withoutRule (e : Engine) (id key : Text) : Engine :=
  { e with source := e.source.withoutRule id key }

theorem snapshot_withoutRule (e : Engine) (id key resource : Text) :
    (e.withoutRule id key).snapshot resource =
      (e.snapshot resource).map (List.map fun t => (t.1, RuleTable.withoutRule id key t)) := by
  rw [snapshot, snapshot, withoutRule]
  cases e.resolver.candidates resource with
  | error cause => rfl
  | ok ids =>
    refine tablesOf_map (RuleTable.withoutRule id key) (fun other => ?_) ids
    show (if other = id then _ else _ : Except Error (Option RuleTable)).map _ = _
    simp only [RuleTable.withoutRule]
    split
    · next hid =>
      subst hid
      cases e.source.table other with
      | error cause => rfl
      | ok found =>
        cases found with
        | none => rfl
        | some t => exact congrArg (Except.ok ∘ some) (t.normalize_erase key)
    · rfl

section

variable [Pattern.Machine]

/-! ## Checks of methods -/

/-- For a method with a name the rule makes no difference. -/
theorem resolve_withoutRule (hkey : (RuleKey.parse key).isHeadless = true)
    (hmethod : i.method ≠ []) (t : Text × RuleTable) :
    Ruling.resolve i.method i.args i.signature (RuleTable.withoutRule id key t).rules =
      Ruling.resolve i.method i.args i.signature t.2.rules := by
  unfold RuleTable.withoutRule
  split
  · rw [RuleTable.rules_erase]
    refine Ruling.resolve_filter fun r hr hdropped => ?_
    have htext : r.text = key := by simpa using hdropped
    refine Ruling.concerns_eq_false_of_isHeadless ?_ hmethod
    rw [(Ruling.distinct_rules t.2).key_eq r hr, htext, hkey]
  · rfl

theorem answer_rulingIn_withoutRule (hkey : (RuleKey.parse key).isHeadless = true)
    (hmethod : i.method ≠ []) :
    (rulingIn i (tables.map fun t => (t.1, RuleTable.withoutRule id key t))).answer =
      (rulingIn i tables).answer :=
  answer_rulingIn_map fun t _ => resolve_withoutRule hkey hmethod t

theorem answer_canInvoke_withoutRule (hkey : (RuleKey.parse key).isHeadless = true)
    (hmethod : i.method ≠ []) :
    ((e.withoutRule id key).canInvoke c resource i).answer = (e.canInvoke c resource i).answer := by
  rw [answer_canInvoke_eq_allows, answer_canInvoke_eq_allows, snapshot_withoutRule]
  cases e.snapshot resource with
  | error cause => rfl
  | ok tables =>
    show Except.map _ (rulingIn i (tables.map _)).answer = _
    rw [answer_rulingIn_withoutRule hkey hmethod]
    rfl

theorem answer_mayOperate_withoutRule (hkey : (RuleKey.parse key).isHeadless = true)
    (operation : Text) :
    ((e.withoutRule id key).mayOperate c resource
        (tables.map fun t => (t.1, RuleTable.withoutRule id key t)) operation).answer =
      (e.mayOperate c resource tables operation).answer := by
  rw [answer_mayOperate, answer_mayOperate]
  cases hquery : Invocation.ofQuery operation with
  | error cause => rfl
  | ok i =>
    simp only [answer_rulingIn_withoutRule hkey (Invocation.method_ne_nil_of_ofQuery hquery)]
    rfl

end

/-! ## Access to resources -/

/-- The rule lets the caller in: the caller has a role that stands beside the key in the table of
the resource with the id, and the resource has no catalog. -/
structure OpenedBy (e : Engine) (c : Caller) (resource id key : Text) : Prop where
  noCatalog : e.source.operations resource = .ok none
  beside : ∃ tables table v, e.snapshot resource = .ok tables ∧ (id, table) ∈ tables ∧
    table.get? key = some v ∧ e.settings.admits c (Roles.ofValue v) = true

theorem mayByAnyRule_iff :
    e.mayByAnyRule c tables = true ↔ ∃ t ∈ tables, ∃ key v, t.2.get? key = some v ∧
      e.settings.admits c (Roles.ofValue v) = true := by
  rw [mayByAnyRule, List.any_eq_true]
  refine exists_congr fun t => and_congr_right fun _ => ?_
  simp only [OrderedMap.values, List.any_map, List.any_eq_true, Function.comp_apply,
    OrderedMap.get?_eq_some_iff, Prod.exists]

/-- Without the rule, a role that stands beside its key may be missing. -/
theorem mayByAnyRule_withoutRule_iff :
    e.mayByAnyRule c tables = true ↔
      (e.withoutRule id key).mayByAnyRule c
          (tables.map fun t => (t.1, RuleTable.withoutRule id key t)) = true ∨
        ∃ table v, (id, table) ∈ tables ∧ table.get? key = some v ∧
          e.settings.admits c (Roles.ofValue v) = true := by
  simp only [mayByAnyRule_iff, List.mem_map, exists_exists_and_eq_and, RuleTable.get?_withoutRule]
  constructor
  · rintro ⟨t, ht, other, v, hget, hadmits⟩
    by_cases hrule : t.1 = id ∧ other = key
    · obtain ⟨rfl, rfl⟩ := hrule
      exact .inr ⟨t.2, v, ht, hget, hadmits⟩
    · exact .inl ⟨t, ht, other, v, by rw [if_neg hrule]; exact hget, hadmits⟩
  · rintro (⟨t, ht, other, v, hget, hadmits⟩ | ⟨table, v, hmem, hget, hadmits⟩)
    · split at hget
      · cases hget
      · exact ⟨t, ht, other, v, hget, hadmits⟩
    · exact ⟨_, hmem, key, v, hget, hadmits⟩

theorem any_isCatchAll_withoutRule (hkey : (RuleKey.parse key).isHeadless = true) :
    ((keysOf (tables.map fun t => (t.1, RuleTable.withoutRule id key t))).any
        fun key => (RuleKey.parse key).isCatchAll) =
      (keysOf tables).any fun key => (RuleKey.parse key).isCatchAll := by
  have hcatchAll : (RuleKey.parse key).isCatchAll = false := by
    cases hparse : RuleKey.parse key <;> simp_all [RuleKey.isHeadless, RuleKey.isCatchAll]
  have htable : ∀ t : Text × RuleTable,
      ((RuleTable.withoutRule id key t).keys.any fun key => (RuleKey.parse key).isCatchAll) =
        t.2.keys.any fun key => (RuleKey.parse key).isCatchAll := by
    intro t
    unfold RuleTable.withoutRule
    split
    · rw [OrderedMap.keys_erase, List.any_filter, Bool.eq_iff_iff, List.any_eq_true,
        List.any_eq_true]
      refine exists_congr fun other => and_congr_right fun _ => ?_
      by_cases hother : other = key
      · simp [hother, hcatchAll]
      · simp [hother]
    · rfl
  rw [keysOf, keysOf, List.flatMap_map, List.any_flatMap, List.any_flatMap]
  simp only [htable]

theorem grounds_withoutRule (e : Engine) (id key resource : Text) :
    (e.withoutRule id key).grounds resource = (e.grounds resource).map fun found =>
      (found.1.map fun t => (t.1, RuleTable.withoutRule id key t), found.2) := by
  rw [grounds, grounds, snapshot_withoutRule]
  cases e.snapshot resource with
  | error cause => rfl
  | ok tables => cases hoperations : e.source.operations resource <;> simp [withoutRule,
      Source.withoutRule, hoperations, bind, Except.bind, Except.map, pure, Except.pure]

theorem openedBy_iff :
    e.OpenedBy c resource id key ↔ ∃ tables, e.grounds resource = .ok (tables, none) ∧
      ∃ table v, (id, table) ∈ tables ∧ table.get? key = some v ∧
        e.settings.admits c (Roles.ofValue v) = true := by
  constructor
  · rintro ⟨hcatalog, tables, table, v, htables, hbeside⟩
    exact ⟨tables, grounds_eq_ok_iff.2 ⟨htables, hcatalog⟩, table, v, hbeside⟩
  · rintro ⟨tables, hgrounds, table, v, hbeside⟩
    obtain ⟨htables, hcatalog⟩ := grounds_eq_ok_iff.1 hgrounds
    exact ⟨hcatalog, tables, table, v, htables, hbeside⟩

section

variable [Pattern.Machine]

/-- A caller has access exactly if the caller has it without the rule or the rule lets the caller
in. -/
theorem holds_canAccess_withoutRule_iff (hkey : (RuleKey.parse key).isHeadless = true) :
    (e.canAccess c resource).holds = true ↔
      ((e.withoutRule id key).canAccess c resource).holds = true ∨
        e.OpenedBy c resource id key := by
  rw [Check.holds_of_answer (answer_canAccess e c resource),
    Check.holds_of_answer (answer_canAccess (e.withoutRule id key) c resource),
    grounds_withoutRule, openedBy_iff]
  cases e.grounds resource with
  | error cause => simp [Except.map]
  | ok found =>
    obtain ⟨tables, _ | operations⟩ := found
    · -- without a catalog all values of the tables are looked at, also that beside the key
      show (e.mayByTables c tables).holds = true ↔
        ((e.withoutRule id key).mayByTables c (tables.map _)).holds = true ∨ _
      rw [Check.holds_of_answer (answer_mayByTables e c tables),
        Check.holds_of_answer (answer_mayByTables _ c _), any_isCatchAll_withoutRule hkey,
        Bool.or_eq_true, Bool.or_eq_true, mayByAnyRule_withoutRule_iff, or_assoc]
      simp only [Except.ok.injEq, Prod.mk.injEq, and_true, exists_eq_left']
      rfl
    · -- with a catalog only methods with names are checked
      have hsame : ∀ operation, ((e.withoutRule id key).mayOperate c resource
          (tables.map fun t => (t.1, RuleTable.withoutRule id key t)) operation).holds =
            (e.mayOperate c resource tables operation).holds := fun operation =>
        Check.holds_congr (answer_mayOperate_withoutRule hkey operation)
      simp [Except.map, hsame]

/-! ## All checks -/

/-- A rule without a head makes no difference to any check of a method with a name, nor to any row
of a bulk check that answers a query. It makes a difference to access to a resource without a
catalog, which it gives to whoever has one of the roles beside it. In the store it is taken away by
putting its table anew. -/
theorem answers_of_withoutRule (e : Engine) (id key : Text)
    (hkey : (RuleKey.parse key).isHeadless = true) (c : Caller) :
    (∀ resource i, i.method ≠ [] → ((e.withoutRule id key).canInvoke c resource i).answer =
      (e.canInvoke c resource i).answer) ∧
    (∀ resource, ∃ b b', (e.canAccess c resource).answer = .ok b ∧
      ((e.withoutRule id key).canAccess c resource).answer = .ok b' ∧
      (b = true ↔ b' = true ∨ e.OpenedBy c resource id key)) ∧
    (∀ query, ∃ rows others, (e.bulk c query).answer = .ok rows ∧
      ((e.withoutRule id key).bulk c query).answer = .ok others ∧
      List.Forall₂ (fun row other => row.resource = other.resource ∧ row.method = other.method ∧
        (other.allowed = true → row.allowed = true) ∧
        (row.allowed = true → other.allowed = true ∨
          row.method = [] ∧ e.OpenedBy c row.resource id key)) rows others) ∧
    ∀ history t, (Store.empty.run history).tables.get? id = some t →
      ((Store.empty.run history).after (.putTable id (RuleTable.toValue (t.erase key)))).source =
        (Store.empty.run history).source.withoutRule id key := by
  refine ⟨fun resource i hmethod => answer_canInvoke_withoutRule hkey hmethod, fun resource => ?_,
    fun query => ?_, fun history t ht =>
      Store.source_after_putTable_erase (Store.isNormal_empty.run history) ht⟩
  · exact ⟨_, _, Check.Answers.answer_eq ⟨_, answer_canAccess e c resource⟩,
      Check.Answers.answer_eq ⟨_, answer_canAccess _ c resource⟩,
      holds_canAccess_withoutRule_iff hkey⟩
  · refine ⟨_, _, answer_bulk e c query, answer_bulk _ c query, ?_⟩
    rw [List.forall₂_map_left_iff, List.forall₂_map_right_iff, List.forall₂_same]
    rintro ⟨resource, _ | asked⟩ -
    · have haccess : (e.canAccess c resource).holds = true ↔
          ((e.withoutRule id key).canAccess c resource).holds = true ∨
            e.OpenedBy c resource id key := holds_canAccess_withoutRule_iff hkey
      exact ⟨rfl, rfl, fun h => haccess.2 (.inl h), fun h => (haccess.1 h).imp_right fun hopened =>
        ⟨rfl, hopened⟩⟩
    · have hoperations : (e.withoutRule id key).source.operations resource =
          e.source.operations resource := rfl
      have hgrants : (e.withoutRule id key).grants c (resource, some asked) =
          e.grants c (resource, some asked) :=
        grants_congr hoperations (fun _ _ hquery => answer_canInvoke_withoutRule hkey
          (Invocation.method_ne_nil_of_ofQuery hquery)) asked
      exact ⟨rfl, rfl, fun h => hgrants.symm.trans h, fun h => .inl (hgrants.trans h)⟩

end

/-- A barn with a rule for all methods and one without a head. -/
def barnHistory : List Store.Change :=
  [.putTable "barn" (.mapping [(.text "(x)", .text "viewer"), (.text " * ", .text "admin")])]

/-- The engine over the store with that table. -/
def barn : Engine where
  settings := {}
  resolver := .flat []
  source := (Store.empty.run barnHistory).source

/-- A viewer may do nothing by that rule. -/
theorem answers_of_withoutRule_of_barn :
    (RuleKey.parse "(x)").isHeadless = true ∧
      ((barn.withoutRule "barn" "(x)").canInvoke ⟨"ann", ["viewer"], .empty⟩ "barn"
          ⟨"sweep", none, none⟩).answer =
        (barn.canInvoke ⟨"ann", ["viewer"], .empty⟩ "barn" ⟨"sweep", none, none⟩).answer ∧
      ∃ t, (Store.empty.run barnHistory).tables.get? "barn" = some t ∧
        ((Store.empty.run barnHistory).after
            (.putTable "barn" (RuleTable.toValue (t.erase "(x)")))).source =
          (Store.empty.run barnHistory).source.withoutRule "barn" "(x)" := by
  have hkey : (RuleKey.parse "(x)").isHeadless = true := by decide
  obtain ⟨hinvoke, -, -, hstored⟩ :=
    answers_of_withoutRule barn "barn" "(x)" hkey ⟨"ann", ["viewer"], .empty⟩
  exact ⟨hkey, hinvoke "barn" ⟨"sweep", none, none⟩ (by simp), _, rfl, hstored barnHistory _ rfl⟩

/-- But a viewer is let into the barn by that rule, and only by it. -/
theorem not_canAccess_of_withoutRule :
    (RuleKey.parse "(x)").isHeadless = true ∧
      (barn.canAccess ⟨"ann", ["viewer"], .empty⟩ "barn").answer = .ok true ∧
      ((barn.withoutRule "barn" "(x)").canAccess ⟨"ann", ["viewer"], .empty⟩ "barn").answer =
        .ok false := by
  decide +kernel

end Engine

end RoleGate
