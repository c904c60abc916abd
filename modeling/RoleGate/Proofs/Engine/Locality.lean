import Mathlib.Data.List.Forall2
import RoleGate.Proofs.Engine.Outage
import RoleGate.Proofs.Store.History

/-!
# What changes of the store reach

A change of a table or a catalog reaches only the resources that the table may govern or that the
catalog is for. Where a table decides, changes of the tables behind it do not reach the decision,
and catalogs reach no decision on a single method.

## Main definitions

* `Store.Change.OfTable`, `Store.Change.OfCatalog` — the changes of one table or one catalog.
* `Store.Change.Elsewhere` — the changes that do not concern a resource.
* `Engine.withStore` — an engine with a store for its source.
* `Engine.AgreesOn` — engines that answer alike about a resource.

## Main statements

* `Store.get?_tables_run`, `Store.get?_catalogs_run` — what changes leave as it was.
* `Engine.agreesOn_of_elsewhere` — changes that do not concern a resource.
* `Engine.judge_of_ruling` — the tables behind the deciding one do not matter.
* `Engine.answers_after_changes` — how far all these changes reach.
-/

namespace RoleGate

namespace Store

variable {s : Store} {change : Change} {changes : List Change} {id other resource : Text}
  {ids : List Text}

/-! ## Changes of one entry -/

/-- The change puts or removes the table under an id. -/
inductive Change.OfTable (id : Text) : Change → Prop where
  | put (table : Value) : OfTable id (.putTable id table)
  | remove : OfTable id (.removeTable id)

/-- The change puts the catalog of a resource. -/
inductive Change.OfCatalog (resource : Text) : Change → Prop where
  | put (catalog : Text ⊕ List Text) : OfCatalog resource (.putOperations resource catalog)

/-- The change is one of a table that is not among some tables, or of the catalog of another
resource. -/
inductive Change.Elsewhere (ids : List Text) (resource : Text) (change : Change) : Prop where
  | table (id : Text) (notMem : id ∉ ids) (ofTable : change.OfTable id)
  | catalog (other : Text) (ne : other ≠ resource) (ofCatalog : change.OfCatalog other)

theorem Change.OfTable.eq_of_settles (h : change.OfTable id)
    (hsettles : change.tableEdit.Settles other) : id = other := by
  cases h with
  | put table =>
    rw [tableEdit] at hsettles
    split at hsettles
    · exact hsettles
    · exact hsettles.elim
  | remove => exact hsettles

theorem Change.OfTable.not_settles_catalog (h : change.OfTable id) :
    ¬ change.catalogEdit.Settles resource := by
  cases h <;> exact not_false

theorem Change.OfCatalog.eq_of_settles (h : change.OfCatalog other)
    (hsettles : change.catalogEdit.Settles resource) : other = resource := by
  obtain ⟨catalog⟩ := h
  cases catalog with
  | inl t => exact hsettles.elim
  | inr operations => exact hsettles

theorem Change.OfCatalog.not_settles_table (h : change.OfCatalog resource) :
    ¬ change.tableEdit.Settles id := by
  cases h
  exact not_false

theorem Change.Elsewhere.not_settles_table (h : change.Elsewhere ids resource) (hid : id ∈ ids) :
    ¬ change.tableEdit.Settles id := by
  cases h with
  | table other notMem ofTable =>
    intro hsettles
    obtain rfl := ofTable.eq_of_settles hsettles
    exact notMem hid
  | catalog other ne ofCatalog => exact ofCatalog.not_settles_table

theorem Change.Elsewhere.not_settles_catalog (h : change.Elsewhere ids resource) :
    ¬ change.catalogEdit.Settles resource := by
  cases h with
  | table other notMem ofTable => exact ofTable.not_settles_catalog
  | catalog other ne ofCatalog => exact fun hsettles => ne (ofCatalog.eq_of_settles hsettles)

/-! ## What changes leave as it was -/

theorem get?_tables_run (s : Store) (h : ∀ change ∈ changes, ¬ change.tableEdit.Settles id) :
    (s.run changes).tables.get? id = s.tables.get? id := by
  rw [run_eq_edited]
  exact OrderedMap.get?_edited_of_not_settles (List.forall_mem_map.2 h)

theorem get?_catalogs_run (s : Store)
    (h : ∀ change ∈ changes, ¬ change.catalogEdit.Settles resource) :
    (s.run changes).catalogs.get? resource = s.catalogs.get? resource := by
  rw [run_eq_edited]
  exact OrderedMap.get?_edited_of_not_settles (List.forall_mem_map.2 h)

end Store

namespace Engine

variable {e f : Engine} {c : Caller} {resource id : Text} {i : Invocation} {j : Judgement}
  {ruling : Ruling} {ids before after : List Text} {changes : List Store.Change}

/-- The engine with a store for its source. -/
def withStore (e : Engine) (s : Store) : Engine :=
  { e with source := s.source }

theorem snapshot_withStore (hids : e.resolver.candidates resource = .ok ids) (s : Store) :
    (e.withStore s).snapshot resource = tablesOf s.source ids :=
  snapshot_of_candidates (e := e.withStore s) hids

section

variable [Pattern.Machine]

/-! ## Changes elsewhere -/

/-- The engines answer alike about a resource, with the same notices, and their bulk checks have the
same rows about it. -/
structure AgreesOn (e f : Engine) (resource : Text) : Prop where
  requiredRoles : ∀ i, e.requiredRoles resource i = f.requiredRoles resource i
  judge : ∀ c i, e.judge c resource i = f.judge c resource i
  explain : ∀ c i, e.explain c resource i = f.explain c resource i
  canInvoke : ∀ c i, e.canInvokeOrAccess c resource i = f.canInvokeOrAccess c resource i
  canAccess : ∀ c, e.canAccess c resource = f.canAccess c resource
  bulk : ∀ c query, ∃ rows others,
    (e.bulk c query).answer = .ok rows ∧ (f.bulk c query).answer = .ok others ∧
      List.Forall₂ (fun row other => row.resource = other.resource ∧ row.method = other.method ∧
        (row.resource = resource → row.allowed = other.allowed)) rows others

theorem agreesOn_of_same (hsettings : e.settings = f.settings)
    (hsnapshot : e.snapshot resource = f.snapshot resource)
    (hoperations : e.source.operations resource = f.source.operations resource) :
    AgreesOn e f resource := by
  have hinvoke : ∀ c i, e.canInvoke c resource i = f.canInvoke c resource i :=
    canInvoke_congr hsettings hsnapshot
  have haccess : ∀ c, e.canAccess c resource = f.canAccess c resource :=
    fun c => canAccess_congr hsettings hsnapshot c hoperations
  constructor
  case requiredRoles => exact requiredRoles_congr hsnapshot
  case judge => exact judge_congr hsettings hsnapshot
  case explain => exact explain_congr hsettings hsnapshot
  case canAccess => exact haccess
  case canInvoke =>
    rintro c (_ | i)
    · exact haccess c
    · exact hinvoke c i
  case bulk =>
    intro c query
    refine ⟨_, _, answer_bulk e c query, answer_bulk f c query, ?_⟩
    rw [List.forall₂_map_left_iff, List.forall₂_map_right_iff, List.forall₂_same]
    rintro ⟨other, asked⟩ -
    refine ⟨rfl, rfl, ?_⟩
    rintro (rfl : other = resource)
    cases asked with
    | none => exact Check.holds_congr (congrArg _ (haccess c))
    | some asked =>
      exact grants_congr hoperations (fun _ i _ => congrArg _ (hinvoke c i)) asked

/-- Changes elsewhere do not concern a resource. -/
theorem agreesOn_of_elsewhere (s : Store) (hids : e.resolver.candidates resource = .ok ids)
    (h : ∀ change ∈ changes, change.Elsewhere ids resource) :
    AgreesOn (e.withStore s) (e.withStore (s.run changes)) resource := by
  refine agreesOn_of_same rfl ?_ ?_
  · rw [snapshot_withStore hids, snapshot_withStore hids]
    refine tablesOf_congr fun id hid => congrArg Except.ok (Eq.symm ?_)
    exact s.get?_tables_run fun change hchange => (h change hchange).not_settles_table hid
  · refine congrArg Except.ok (Eq.symm ?_)
    exact s.get?_catalogs_run fun change hchange => (h change hchange).not_settles_catalog

/-! ## Changes behind the deciding table -/

theorem mem_of_rulingIn {source : Source} {tables : Snapshot}
    (htables : tablesOf source ids = .ok tables)
    (hfound : (rulingIn i tables).answer = .ok (some (id, ruling))) : id ∈ ids := by
  obtain ⟨front, table, rest, rfl, -, -⟩ := answer_rulingIn_eq_some_iff.1 hfound
  exact (of_mem_tablesOf htables (List.mem_append_right front List.mem_cons_self)).1

/-- A ruling of a table that is not among the last ones is found before these are reached. -/
theorem exists_front_of_ruling {source : Source} {tables : Snapshot} (hid : id ∉ after)
    (htables : tablesOf source (before ++ after) = .ok tables)
    (hfound : (rulingIn i tables).answer = .ok (some (id, ruling))) :
    ∃ front, tablesOf source before = .ok front ∧
      (rulingIn i front).answer = .ok (some (id, ruling)) := by
  obtain ⟨front, rest, hfront, hrest, rfl⟩ := tablesOf_append_eq_ok_iff.1 htables
  rw [answer_rulingIn_append] at hfound
  cases hruling : (rulingIn i front).answer with
  | error cause =>
    rw [hruling] at hfound
    cases hfound
  | ok first =>
    rw [hruling] at hfound
    cases first with
    -- then a table behind would have the ruling, but its id is not one of theirs
    | none => exact absurd (mem_of_rulingIn hrest hfound) hid
    | some first => exact ⟨front, hfront, hruling.trans hfound⟩

/-- Where a table decides, the tables behind it do not matter, but for the list of the tables that
were consulted. -/
theorem judge_of_ruling (hj : (e.judge c resource i).answer = .ok j)
    (hbasis : j.basis = .ruling ruling id) (hsettings : e.settings = f.settings)
    (hresolver : e.resolver = f.resolver)
    (hids : e.resolver.candidates resource = .ok (before ++ after)) (hid : id ∉ after)
    (htable : ∀ other ∈ before, e.source.table other = f.source.table other)
    (hfound : ∀ other ∈ after, ∃ found, f.source.table other = .ok found) :
    ∃ tables, (f.judge c resource i).answer = .ok { j with tables } := by
  obtain ⟨tables, hsnapshot, hruling, rfl⟩ := exists_of_judge_ruling hj hbasis
  rw [snapshot_of_candidates hids] at hsnapshot
  obtain ⟨front, hfront, hdecides⟩ := exists_front_of_ruling hid hsnapshot hruling
  obtain ⟨rest, hrest⟩ := exists_tablesOf_iff.2 hfound
  have hothers : f.snapshot resource = .ok (front ++ rest) := by
    rw [hresolver] at hids
    rw [tablesOf_congr htable] at hfront
    exact (snapshot_of_candidates hids).trans
      (tablesOf_append_eq_ok_iff.2 ⟨front, rest, hfront, hrest, rfl⟩)
  refine ⟨(front ++ rest).map Prod.fst, ?_⟩
  simp only [answer_judge, hothers, answer_rulingIn_append, hdecides, Except.map, ruled, hsettings]

/-! ## All changes -/

/-- Changes of tables that do not govern a resource, and of catalogs of other resources, reach no
answer about the resource. Changes of tables behind the deciding one reach nothing of a decision but
the list of the tables consulted. Changes of the catalog of the resource reach no answer about a
single method and no row of a bulk check that asks for a signature. -/
theorem answers_after_changes (e : Engine) (s : Store)
    (hids : e.resolver.candidates resource = .ok ids) :
    (∀ changes, (∀ change ∈ changes, Store.Change.Elsewhere ids resource change) →
      AgreesOn (e.withStore s) (e.withStore (s.run changes)) resource) ∧
    (∀ before id after, ids = before ++ id :: after → ids.Nodup → ∀ c i j ruling,
      ((e.withStore s).judge c resource i).answer = .ok j → j.basis = .ruling ruling id →
      ∀ changes, (∀ change ∈ changes, ∃ later ∈ after, Store.Change.OfTable later change) →
        ∃ tables,
          ((e.withStore (s.run changes)).judge c resource i).answer = .ok { j with tables }) ∧
    ∀ changes, (∀ change ∈ changes, Store.Change.OfCatalog resource change) →
      AgreesUnlisted (e.withStore s) (e.withStore (s.run changes)) := by
  refine ⟨fun changes => agreesOn_of_elsewhere s hids, ?_, fun changes hchanges => ?_⟩
  · intro before id after hsplit hnodup c i j ruling hj hbasis changes hchanges
    have hfront : ids = (before ++ [id]) ++ after := by simp [hsplit]
    rw [hfront, List.nodup_append] at hnodup
    obtain ⟨-, -, hdisjoint⟩ := hnodup
    have hid : id ∉ after := fun hmem => hdisjoint id (by simp) id hmem rfl
    refine judge_of_ruling hj hbasis rfl rfl (hids.trans (congrArg _ hfront)) hid
      (fun other hother => congrArg Except.ok (Eq.symm ?_)) fun other _ => ⟨_, rfl⟩
    refine s.get?_tables_run fun change hchange hsettles => ?_
    obtain ⟨later, hlater, hof⟩ := hchanges change hchange
    obtain rfl := hof.eq_of_settles hsettles
    exact hdisjoint later hother later hlater rfl
  · have htable : (e.withStore s).source.table = (e.withStore (s.run changes)).source.table :=
      funext fun id => congrArg Except.ok <| Eq.symm <| s.get?_tables_run fun change hchange =>
        (hchanges change hchange).not_settles_table
    exact SameTables.agreesUnlisted ⟨rfl, rfl, htable⟩

end

/-- A pier with a rule for its cranes, and one for everything else on it. -/
def pierStore : Store :=
  Store.empty.run [.putTable "pier.crane" (.mapping [(.text "lift", .text "docker")]),
    .putTable "pier" (.mapping [(.text "*", .text "warden")])]

/-- The engine of the pier. -/
def pier : Engine where
  settings := {}
  resolver := .management []
  source := pierStore.source

/-- Nothing at the quay concerns a crane of the pier. Its own rule decides who may lift, whatever
becomes of the other rule, and so does the rule if the operations of the crane are listed. -/
theorem answers_after_changes_of_pier :
    (Resolver.management []).candidates "pier:type=crane" = .ok ["pier.crane", "pier"] ∧
      AgreesOn (pier.withStore pierStore)
        (pier.withStore (pierStore.run
          [.putTable "quay" (.mapping []), .putOperations "quay:type=crane" (.inr ["lift"])]))
        "pier:type=crane" ∧
      (∃ j tables, ((pier.withStore pierStore).judge ⟨"ann", ["docker"], .empty⟩
          "pier:type=crane" ⟨"lift", none, none⟩).answer = .ok j ∧ j.allowed = true ∧
        ((pier.withStore (pierStore.run [.removeTable "pier"])).judge
          ⟨"ann", ["docker"], .empty⟩ "pier:type=crane" ⟨"lift", none, none⟩).answer =
            .ok { j with tables }) ∧
      AgreesUnlisted (pier.withStore pierStore)
        (pier.withStore (pierStore.run [.putOperations "pier:type=crane" (.inr ["lift"])])) := by
  have hids : (Resolver.management []).candidates "pier:type=crane" =
      .ok ["pier.crane", "pier"] := by decide +kernel
  obtain ⟨helsewhere, hbehind, hcatalog⟩ := answers_after_changes pier pierStore hids
  refine ⟨hids, helsewhere _ ?_, ?_, hcatalog _ ?_⟩
  · simp only [List.forall_mem_cons, List.not_mem_nil, false_implies, implies_true, and_true]
    exact ⟨.table "quay" (by decide) (.put _), .catalog "quay:type=crane" (by decide) (.put _)⟩
  · have hj : ∃ j, ((pier.withStore pierStore).judge ⟨"ann", ["docker"], .empty⟩
        "pier:type=crane" ⟨"lift", none, none⟩).answer = .ok j ∧ j.allowed = true ∧
          j.basis = .ruling ⟨["docker"], .method, ["lift"]⟩ "pier.crane" := ⟨_, rfl, rfl, rfl⟩
    obtain ⟨j, hanswer, hallowed, hbasis⟩ := hj
    have hbehindCrane : ∀ change ∈ [Store.Change.removeTable "pier"],
        ∃ later ∈ (["pier"] : List Text), Store.Change.OfTable later change := by
      intro change hchange
      obtain rfl := List.mem_singleton.1 hchange
      exact ⟨"pier", by simp, .remove⟩
    obtain ⟨tables, hafter⟩ := hbehind [] "pier.crane" ["pier"] rfl (by decide) _ _ j _ hanswer
      hbasis _ hbehindCrane
    exact ⟨j, tables, hanswer, hallowed, hafter⟩
  · intro change hchange
    obtain rfl := List.mem_singleton.1 hchange
    exact .put _

end Engine

end RoleGate
