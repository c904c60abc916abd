import RoleGate.Proofs.Engine.Congruence
import RoleGate.Proofs.Engine.Decision
import RoleGate.Proofs.Key.Idempotence
import RoleGate.Store.Change

/-!
# Stored tables and tables as written

The store keeps tables in normal form, and an engine normalizes the tables it looks up. Since normal
forms are stable, the engine cannot tell the tables of the store from the tables as they were
written.

## Main definitions

* `RuleTable.toValue`, `Store.puts` — a table as a value, and the changes that store tables.
* `Store.IsNormal` — the tables of the store are in normal form.
* `Engine.SameGrounds` — two engines decide on the same grounds.

## Main statements

* `Store.run_puts` — the store that tables and catalogs were put into.
* `Store.IsNormal.run` — after every history the tables of the store are in normal form.
* `Engine.SameGrounds.judge`, `Engine.SameGrounds.bulk` — engines with the same grounds answer
  alike.
* `Engine.answers_of_stored_tables` — tables may be stored or not.
-/

namespace RoleGate

/-- The table as a value: a mapping with a text under each key. -/
def RuleTable.toValue (t : RuleTable) : Value :=
  .mapping (t.entries.map fun e => (.text e.1, e.2))

namespace Store

/-- The changes that put given tables and catalogs into a store. -/
def puts (tables : OrderedMap RuleTable) (catalogs : OrderedMap (List Text)) : List Change :=
  (tables.entries.map fun e => .putTable e.1 e.2.toValue) ++
    catalogs.entries.map fun e => .putOperations e.1 (.inr e.2)

theorem textEntries_toValue (id : Text) (es : List (Text × Value)) :
    textEntries id (es.map fun e => (.text e.1, e.2)) = .ok es := by
  induction es with
  | nil => rfl
  | cons e rest ih =>
    rw [List.map_cons, textEntries, ih]
    rfl

theorem after_putTable (s : Store) (id : Text) (t : RuleTable) :
    s.after (.putTable id t.toValue) = { s with tables := s.tables.insert id t.normalize } := by
  have htable : tableOf id t.toValue = .ok t := by
    rw [RuleTable.toValue, tableOf, textEntries_toValue]
    exact congrArg Except.ok (OrderedMap.ext (OrderedMap.entries_ofList t.nodup_keys))
  rw [after, apply, putTable, htable]
  rfl

theorem run_putTables (s : Store) (es : List (Text × RuleTable)) :
    s.run (es.map fun e => .putTable e.1 e.2.toValue) =
      { s with tables := es.foldl (fun m e => m.insert e.1 e.2.normalize) s.tables } := by
  induction es generalizing s with
  | nil => rfl
  | cons e rest ih =>
    rw [List.map_cons, run, List.foldl_cons, after_putTable]
    exact ih _

theorem run_putOperations (s : Store) (es : List (Text × List Text)) :
    s.run (es.map fun e => .putOperations e.1 (.inr e.2)) =
      { s with catalogs := es.foldl (fun m e => m.insert e.1 e.2) s.catalogs } := by
  induction es generalizing s with
  | nil => rfl
  | cons e rest ih => exact ih _

/-- The store that tables and catalogs were put into has the normal forms of the tables. -/
theorem run_puts (tables : OrderedMap RuleTable) (catalogs : OrderedMap (List Text)) :
    Store.empty.run (puts tables catalogs) = ⟨tables.mapValues RuleTable.normalize, catalogs⟩ := by
  have htables : tables.entries.foldl (fun m e => m.insert e.1 e.2.normalize) .empty =
      tables.mapValues RuleTable.normalize := by
    refine OrderedMap.ext (Eq.trans ?_ (OrderedMap.entries_ofList (OrderedMap.nodup_keys _)))
    rw [OrderedMap.ofList, OrderedMap.mapValues, List.foldl_map]
  have hcatalogs : catalogs.entries.foldl (fun m e => m.insert e.1 e.2) .empty = catalogs :=
    OrderedMap.ext (OrderedMap.entries_ofList catalogs.nodup_keys)
  have hrun : Store.empty.run (puts tables catalogs) =
      (Store.empty.run (tables.entries.map fun e => .putTable e.1 e.2.toValue)).run
        (catalogs.entries.map fun e => .putOperations e.1 (.inr e.2)) :=
    List.foldl_append
  rw [hrun, run_putTables, run_putOperations]
  exact congr (congrArg Store.mk htables) hcatalogs

/-! ## Normal forms in the store -/

/-- The tables of the store are in normal form. -/
def IsNormal (s : Store) : Prop :=
  ∀ id t, s.tables.get? id = some t → t.normalize = t

theorem isNormal_empty : IsNormal empty := nofun

theorem IsNormal.insert {s : Store} (h : s.IsNormal) (id : Text) (t : RuleTable) :
    IsNormal { s with tables := s.tables.insert id t.normalize } := by
  intro other u hu
  rw [OrderedMap.get?_insert] at hu
  split at hu
  · obtain rfl := Option.some.inj hu
    exact t.normalize_normalize
  · exact h other u hu

theorem IsNormal.erase {s : Store} (h : s.IsNormal) (id : Text) :
    IsNormal { s with tables := s.tables.erase id } := by
  intro other u hu
  rw [OrderedMap.get?_erase] at hu
  split at hu
  · cases hu
  · exact h other u hu

/-- A change leaves the tables in normal form. -/
theorem IsNormal.after {s : Store} (h : s.IsNormal) (c : Change) : (s.after c).IsNormal := by
  cases c with
  | putTable id table =>
    rw [Store.after, apply, putTable]
    cases tableOf id table with
    | error cause => exact h
    | ok t => exact h.insert id t
  | removeTable id => exact h.erase id
  | putOperations resource catalog =>
    cases catalog with
    | inl t => exact h
    | inr operations => exact h
  | clear => exact isNormal_empty

theorem IsNormal.run {s : Store} (h : s.IsNormal) (history : List Change) :
    (s.run history).IsNormal := by
  induction history generalizing s with
  | nil => exact h
  | cons c rest ih => exact ih (h.after c)

end Store

namespace Engine

/-! ## The same grounds -/

/-- The engines have the same settings and find the same tables and catalogs. -/
structure SameGrounds (e f : Engine) : Prop where
  settings : e.settings = f.settings
  snapshot : e.snapshot = f.snapshot
  operations : e.source.operations = f.source.operations

namespace SameGrounds

variable [Pattern.Machine] {e f : Engine} (h : SameGrounds e f) (c : Caller) (resource : Text)
  (i : Invocation)
include h

theorem requiredRoles : e.requiredRoles resource i = f.requiredRoles resource i :=
  requiredRoles_congr (congrFun h.snapshot resource) i

theorem judge : e.judge c resource i = f.judge c resource i :=
  judge_congr h.settings (congrFun h.snapshot resource) c i

theorem canInvoke : e.canInvoke c resource i = f.canInvoke c resource i :=
  canInvoke_congr h.settings (congrFun h.snapshot resource) c i

theorem canAccess : e.canAccess c resource = f.canAccess c resource :=
  canAccess_congr h.settings (congrFun h.snapshot resource) c (congrFun h.operations resource)

theorem bulk (query : OrderedMap (List Text)) : e.bulk c query = f.bulk c query :=
  Check.congruence_eq.bulk h.operations (h.canInvoke c) (h.canAccess c) query

end SameGrounds

/-! ## Stored tables -/

/-- Of the tables of a source only the normal forms matter. -/
theorem tablesOf_eq_of_normalize_eq {s t : Source}
    (h : ∀ id, (s.table id).map (·.map RuleTable.normalize) =
      (t.table id).map (·.map RuleTable.normalize)) (ids : List Text) :
    tablesOf s ids = tablesOf t ids := by
  rw [tablesOf_map Prod.snd h]
  cases tablesOf t ids with
  | error cause => rfl
  | ok tables => exact congrArg Except.ok (List.map_id tables)

theorem sameGrounds_of_stored (settings : Settings) (resolver : Resolver)
    (tables : OrderedMap RuleTable) (catalogs : OrderedMap (List Text)) :
    SameGrounds ⟨settings, resolver, (Store.empty.run (Store.puts tables catalogs)).source⟩
      ⟨settings, resolver, .ofMaps tables catalogs⟩ where
  settings := rfl
  snapshot := by
    have htables := tablesOf_eq_of_normalize_eq
      (s := (Store.empty.run (Store.puts tables catalogs)).source)
      (t := .ofMaps tables catalogs) fun id => by
        rw [Store.run_puts]
        simp only [Store.source, Source.ofMaps, Except.map, OrderedMap.get?_mapValues]
        cases tables.get? id with
        | none => rfl
        | some t => exact congrArg (Except.ok ∘ some) t.normalize_normalize
    funext resource
    exact congrArg (resolver.candidates resource >>= ·) (funext htables)
  operations := by
    rw [Store.run_puts]
    rfl

variable [Pattern.Machine]

/-- Normal forms of keys and tables are stable. So it makes no difference to any answer, nor to the
notices given with it, whether tables are stored, which puts them into normal form, or looked up
just as they were written. -/
theorem answers_of_stored_tables :
    (∀ key : Text, Key.normalize (Key.normalize key) = Key.normalize key) ∧
    (∀ t : RuleTable, t.normalize.normalize = t.normalize) ∧
    ∀ (settings : Settings) (resolver : Resolver) (tables : OrderedMap RuleTable)
      (catalogs : OrderedMap (List Text)),
      let stored : Engine :=
        ⟨settings, resolver, (Store.empty.run (Store.puts tables catalogs)).source⟩
      let written : Engine := ⟨settings, resolver, .ofMaps tables catalogs⟩
      (∀ resource i, stored.requiredRoles resource i = written.requiredRoles resource i) ∧
      (∀ c resource i, stored.judge c resource i = written.judge c resource i) ∧
      (∀ c resource i, stored.canInvoke c resource i = written.canInvoke c resource i) ∧
      (∀ c resource, stored.canAccess c resource = written.canAccess c resource) ∧
      ∀ c query, stored.bulk c query = written.bulk c query := by
  refine ⟨Key.normalize_normalize, RuleTable.normalize_normalize, ?_⟩
  intro settings resolver tables catalogs stored written
  have h : SameGrounds stored written := sameGrounds_of_stored settings resolver tables catalogs
  exact ⟨h.requiredRoles, h.judge, h.canInvoke, h.canAccess, h.bulk⟩

end Engine

end RoleGate
