import RoleGate.Proofs.Key.Idempotence
import RoleGate.Proofs.Outcome
import RoleGate.Proofs.Store.Edit
import RoleGate.Proofs.Value
import RoleGate.Store.Change

/-!
# Histories of the store

The store keeps two ordered maps, which changes edit apart from each other: each change is an edit
of the tables and an edit of the catalogs, of which at most one does anything unless the store is
cleared. So what the store holds can be told from its history alone.

## Main definitions

* `Store.Change.tableEdit`, `Store.Change.catalogEdit` — a change as an edit of tables and as one of
  catalogs.
* `Store.Change.IsFaulty` — the changes that fail.
* `Store.Change.Unwritable` — the changes that fail with a complaint that cannot be written.
* `Store.Remembers` — the maps of a store are what a history leaves.
* `Store.Shows` — what can be seen of a store, told from a history.

## Main statements

* `Store.Remembers.run` — what a store remembers after changes in a row.
* `Store.exists_apply_eq_error_iff` — which changes fail.
* `Store.shows_history` — what a store shows after every history.
-/

namespace RoleGate

open OrderedMap (Edit LastSet ArrivedAt)

namespace Store

variable {s : Store} {c : Change} {history : List Change} {cause : Error}

/-! ## Changes as edits -/

/-- The edit of the tables that a change makes. A table that cannot be read changes nothing. -/
def Change.tableEdit : Change → Edit RuleTable
  | putTable id table =>
    match tableOf id table with
    | .ok t => .set id t.normalize
    | .error _ => .skip
  | removeTable id => .unset id
  | putOperations _ _ => .skip
  | clear => .reset

/-- The edit of the catalogs that a change makes. -/
def Change.catalogEdit : Change → Edit (List Text)
  | putOperations resource (.inr operations) => .set resource operations
  | putOperations _ (.inl _) => .skip
  | putTable _ _ => .skip
  | removeTable _ => .skip
  | clear => .reset

theorem after_eq_edit (s : Store) (c : Change) :
    s.after c = ⟨s.tables.edit c.tableEdit, s.catalogs.edit c.catalogEdit⟩ := by
  cases c with
  | putTable id table =>
    rw [after, apply, putTable, Change.tableEdit]
    cases tableOf id table <;> rfl
  | removeTable id => rfl
  | putOperations resource catalog => cases catalog <;> rfl
  | clear => rfl

theorem run_eq_edited (s : Store) (changes : List Change) :
    s.run changes = ⟨s.tables.edited (changes.map Change.tableEdit),
      s.catalogs.edited (changes.map Change.catalogEdit)⟩ := by
  induction changes generalizing s with
  | nil => rfl
  | cons c changes ih =>
    rw [run, List.foldl_cons, after_eq_edit]
    exact ih _

/-- The maps of the store are what the changes leave. -/
structure Remembers (s : Store) (history : List Change) : Prop where
  tables : s.tables.LeftBy (history.map Change.tableEdit)
  catalogs : s.catalogs.LeftBy (history.map Change.catalogEdit)

theorem remembers_empty : empty.Remembers [] :=
  ⟨OrderedMap.leftBy_empty, OrderedMap.leftBy_empty⟩

/-- Changes in a row. -/
protected theorem Remembers.run (h : s.Remembers history) (changes : List Change) :
    (s.run changes).Remembers (history ++ changes) := by
  rw [run_eq_edited]
  exact ⟨by simpa using h.tables.edited (changes.map Change.tableEdit),
    by simpa using h.catalogs.edited (changes.map Change.catalogEdit)⟩

/-! ## Changes that fail -/

/-- The changes that fail: to put what is no mapping or has a key that is no text, and to put a text
in the place of a catalog. -/
inductive Change.IsFaulty : Change → Prop where
  | noMapping {id : Text} {table : Value} (h : ∀ entries, table ≠ .mapping entries) :
    IsFaulty (.putTable id table)
  | keyNoText {id : Text} {entries : List (Value × Value)} {key v : Value}
    (hmem : (key, v) ∈ entries) (h : ∀ t, key ≠ .text t) :
    IsFaulty (.putTable id (.mapping entries))
  | catalogText {resource t : Text} : IsFaulty (.putOperations resource (.inl t))

/-- The change puts a table whose first key that is no text cannot be written, so that the complaint
about it cannot be written either. -/
inductive Change.Unwritable : Change → Prop where
  | key {id : Text} {before after : List (Value × Value)} {key v : Value}
    (texts : ∀ e ∈ before, ∃ t, e.1 = .text t) (h : key.Oversized) :
    Unwritable (.putTable id (.mapping (before ++ (key, v) :: after)))

/-- The complaint is about the first key that is no text. -/
theorem textEntries_eq_error_iff {id : Text} {entries : List (Value × Value)} :
    textEntries id entries = .error cause ↔
      ∃ before e after, entries = before ++ e :: after ∧ (∀ e ∈ before, ∃ t, e.1 = .text t) ∧
        (∀ t, e.1 ≠ .text t) ∧ cause = .about (.keyIsNoText id) e.1 := by
  induction entries with
  | nil => simp [textEntries]
  | cons entry rest ih =>
    obtain ⟨key, v⟩ := entry
    rw [exists_first_cons_iff, ← ih]
    cases key with
    | text t => simp [textEntries, except_map_eq_error_iff]
    | _ => simp [textEntries, eq_comm]

theorem exists_textEntries_eq_error {id : Text} {entries : List (Value × Value)} {key v : Value}
    (hmem : (key, v) ∈ entries) (hkey : ∀ t, key ≠ .text t) :
    ∃ cause, textEntries id entries = .error cause := by
  induction entries with
  | nil => cases hmem
  | cons entry rest ih =>
    obtain ⟨first, w⟩ := entry
    cases first with
    | text t =>
      obtain ⟨rfl, -⟩ | hrest := (List.mem_cons.1 hmem).imp_left Prod.mk.inj
      · exact absurd rfl (hkey t)
      · obtain ⟨cause, hcause⟩ := ih hrest
        exact ⟨cause, except_map_eq_error_iff.2 hcause⟩
    | _ => exact ⟨_, rfl⟩

theorem tableOf_eq_error {id : Text} {table : Value} (h : tableOf id table = .error cause) :
    (Change.putTable id table).IsFaulty ∧
      (¬ (Change.putTable id table).Unwritable → cause.kind = "ConfigurationError") := by
  cases table with
  | mapping entries =>
    obtain ⟨before, ⟨key, v⟩, after, rfl, hbefore, hkey, rfl⟩ :=
      textEntries_eq_error_iff.1 (except_map_eq_error_iff.1 h)
    exact ⟨.keyNoText (List.mem_append_right _ List.mem_cons_self) hkey,
      fun hwritable => Error.kind_about fun hsize => hwritable (.key hbefore hsize)⟩
  | _ =>
    cases h
    exact ⟨.noMapping nofun, fun _ => rfl⟩

theorem apply_putTable (s : Store) (id : Text) (table : Value) :
    s.apply (.putTable id table) = (tableOf id table).map fun t =>
      (.done, { s with tables := s.tables.insert id t.normalize }) := by
  rw [apply, putTable]
  cases tableOf id table <;> rfl

/-- A change that fails is faulty and says that something is misconfigured, unless it cannot even
say so. -/
theorem isFaulty_of_apply (h : s.apply c = .error cause) :
    c.IsFaulty ∧ (¬ c.Unwritable → cause.kind = "ConfigurationError") := by
  cases c with
  | putTable id table =>
    rw [apply_putTable, except_map_eq_error_iff] at h
    exact tableOf_eq_error h
  | putOperations resource catalog =>
    cases catalog with
    | inl t =>
      cases h
      exact ⟨.catalogText, fun _ => rfl⟩
    | inr operations => cases h
  | removeTable id => cases h
  | clear => cases h

theorem apply_of_unwritable (s : Store) (h : c.Unwritable) :
    s.apply c = .error .numeralTooLong := by
  cases h with
  | @key id before after key v texts hsize =>
    rw [apply_putTable, except_map_eq_error_iff, tableOf, except_map_eq_error_iff,
      textEntries_eq_error_iff]
    refine ⟨before, (key, v), after, rfl, texts, ?_, (Error.about_of_oversized hsize).symm⟩
    rintro t rfl
    cases hsize

theorem exists_apply_eq_error_iff : (∃ cause, s.apply c = .error cause) ↔ c.IsFaulty := by
  constructor
  · rintro ⟨cause, h⟩
    exact (isFaulty_of_apply h).1
  · intro h
    cases h with
    | @noMapping id table hmapping =>
      cases table with
      | mapping entries => exact absurd rfl (hmapping entries)
      | _ => exact ⟨_, rfl⟩
    | @keyNoText id entries key v hmem hkey =>
      obtain ⟨cause, hcause⟩ := exists_textEntries_eq_error hmem hkey
      refine ⟨cause, ?_⟩
      rw [apply_putTable, except_map_eq_error_iff, tableOf, except_map_eq_error_iff, hcause]
    | catalogText => exact ⟨_, rfl⟩

/-! ## What a store shows -/

/-- A change that sets the table under an id puts the normal form of what is written there. -/
theorem Change.exists_of_tableEdit {id : Text} {t : RuleTable} (h : c.tableEdit = .set id t) :
    ∃ table written, c = .putTable id table ∧ tableOf id table = .ok written ∧
      t = written.normalize := by
  cases c with
  | putTable other table =>
    rw [tableEdit] at h
    split at h
    · next written htable =>
      cases h
      exact ⟨table, written, rfl, htable, rfl⟩
    · cases h
  | _ => cases h

/-- What can be seen of a store, told from its history. -/
structure Shows (s : Store) (history : List Change) : Prop where
  /-- The table under an id is the normal form of what was last put there and not removed. -/
  table : ∀ id t, s.source.table id = .ok (some t) ↔ LastSet id t (history.map Change.tableEdit)
  noTable : ∀ id,
    s.source.table id = .ok none ↔ ∀ t, ¬ LastSet id t (history.map Change.tableEdit)
  /-- The catalog of a resource is what was last put there and not removed. -/
  operations : ∀ resource operations, s.source.operations resource = .ok (some operations) ↔
    LastSet resource operations (history.map Change.catalogEdit)
  noOperations : ∀ resource, s.source.operations resource = .ok none ↔
    ∀ operations, ¬ LastSet resource operations (history.map Change.catalogEdit)
  ids : ∀ id, id ∈ s.tableIds ↔ ∃ t, s.source.table id = .ok (some t)
  nodup_ids : s.tableIds.Nodup
  /-- Every id has arrived, and the ids stand in the order in which they did. -/
  arrived : ∀ id ∈ s.tableIds, ∃ place, ArrivedAt id place (history.map Change.tableEdit)
  order : s.tableIds.Pairwise fun id other => ∀ place place',
    ArrivedAt id place (history.map Change.tableEdit) →
      ArrivedAt other place' (history.map Change.tableEdit) → place < place'
  removed : ∀ id,
    (s.apply (.removeTable id)).map Prod.fst = .ok (.removed (decide (id ∈ s.tableIds)))
  /-- The keys of a table are in normal form, and no key comes twice. -/
  normal : ∀ id t, s.source.table id = .ok (some t) →
    t.keys.Nodup ∧ ∀ key ∈ t.keys, Key.normalize key = key

theorem eq_ok_some_iff {α : Type} {x : Option α} {a : α} :
    (Except.ok x : Except Error (Option α)) = .ok (some a) ↔ x = some a := by
  simp

theorem eq_ok_none_iff {α : Type} {x : Option α} :
    (Except.ok x : Except Error (Option α)) = .ok none ↔ ∀ a, ¬ x = some a := by
  simp [Option.eq_none_iff_forall_ne_some]

theorem Remembers.shows (h : s.Remembers history) : s.Shows history where
  table id t := eq_ok_some_iff.trans (h.tables.get? id t)
  noTable id := by
    simp only [← h.tables.get?]
    exact eq_ok_none_iff
  operations resource operations := eq_ok_some_iff.trans (h.catalogs.get? resource operations)
  noOperations resource := by
    simp only [← h.catalogs.get?]
    exact eq_ok_none_iff
  ids id := by
    rw [tableIds, ← OrderedMap.get?_isSome, Option.isSome_iff_exists]
    exact exists_congr fun t => eq_ok_some_iff.symm
  nodup_ids := s.tables.nodup_keys
  arrived id hid := h.tables.mem_keys_iff.1 hid
  order := h.tables.order_of_arrival
  removed id := by
    have hcontains : s.tables.contains id = decide (id ∈ s.tableIds) := by
      rw [Bool.eq_iff_iff, decide_eq_true_iff]
      exact OrderedMap.get?_isSome s.tables id
    rw [← hcontains]
    rfl
  normal id t ht := by
    obtain ⟨before, after, hhistory, -⟩ := (h.tables.get? id t).1 (eq_ok_some_iff.1 ht)
    have hset : Edit.set id t ∈ history.map Change.tableEdit := by simp [hhistory]
    obtain ⟨c, -, hc⟩ := List.mem_map.1 hset
    obtain ⟨table, written, -, -, rfl⟩ := Change.exists_of_tableEdit hc
    exact ⟨OrderedMap.nodup_keys _, fun key hkey => RuleTable.normalize_of_mem_keys hkey⟩

/-! ## Histories -/

/-- The changes that put some tables one after the other. -/
def putsOf (tables : List (Text × Value)) : List Change :=
  tables.map fun e => .putTable e.1 e.2

theorem run_putsOf_of_foldlM {tables : List (Text × Value)} {t : Store}
    (h : tables.foldlM (fun s e => s.putTable e.1 e.2) t = .ok s) : t.run (putsOf tables) = s := by
  induction tables generalizing t with
  | nil =>
    cases h
    rfl
  | cons e rest ih =>
    rw [List.foldlM_cons] at h
    cases hput : t.putTable e.1 e.2 with
    | error cause =>
      rw [hput] at h
      cases h
    | ok t' =>
      rw [hput] at h
      have hafter : t.after (.putTable e.1 e.2) = t' := by
        rw [after, apply, hput]
        rfl
      rw [putsOf, List.map_cons, run, List.foldl_cons, hafter]
      exact ih h

/-- A store with tables from the start is one that they were put into. -/
theorem run_putsOf {tables : List (Text × Value)} (h : ofTables tables = .ok s) :
    empty.run (putsOf tables) = s :=
  run_putsOf_of_foldlM h

/-- There is a store with some tables from the start unless one of them is faulty. -/
theorem exists_ofTables_eq_ok_iff {tables : List (Text × Value)} :
    (∃ s, ofTables tables = .ok s) ↔ ∀ c ∈ putsOf tables, ¬ c.IsFaulty := by
  have hfold : ∀ t : Store,
      (∃ s, tables.foldlM (fun s e => s.putTable e.1 e.2) t = .ok s) ↔
        ∀ c ∈ putsOf tables, ¬ c.IsFaulty := by
    induction tables with
    | nil =>
      intro t
      simp [putsOf, pure, Except.pure]
    | cons e rest ih =>
      intro t
      have hfaulty : (∃ cause, t.putTable e.1 e.2 = .error cause) ↔
          (Change.putTable e.1 e.2).IsFaulty := by
        rw [← @exists_apply_eq_error_iff t]
        exact exists_congr fun cause => except_map_eq_error_iff.symm
      rw [List.foldlM_cons, putsOf, List.map_cons, List.forall_mem_cons, ← hfaulty]
      cases t.putTable e.1 e.2 with
      | error cause => simp [bind, Except.bind]
      | ok t' => simpa [bind, Except.bind, putsOf] using ih t'
  exact hfold empty

/-- What a store shows is what the last changes left, in order of arrival, after all histories from
all tables at the start. Changes of tables do not touch catalogs, nor the other way round. A change
fails exactly if it is faulty, and then leaves the store as it was. It says that something is
misconfigured, unless the complaint cannot be written. -/
theorem shows_history :
    (∀ tables, (∃ s, ofTables tables = .ok s) ↔ ∀ c ∈ putsOf tables, ¬ c.IsFaulty) ∧
    (∀ tables s, ofTables tables = .ok s → ∀ history,
      (s.run history).Shows (putsOf tables ++ history)) ∧
    (∀ (s : Store) id table, (s.after (.putTable id table)).catalogs = s.catalogs ∧
      (s.after (.removeTable id)).catalogs = s.catalogs) ∧
    (∀ (s : Store) resource catalog,
      (s.after (.putOperations resource catalog)).tables = s.tables) ∧
    (∀ (s : Store) c, (∃ cause, s.apply c = .error cause) ↔ c.IsFaulty) ∧
    (∀ (s : Store) c, c.Unwritable → s.apply c = .error .numeralTooLong) ∧
    ∀ (s : Store) c cause, s.apply c = .error cause →
      (¬ c.Unwritable → cause.kind = "ConfigurationError") ∧ s.after c = s := by
  refine ⟨fun tables => exists_ofTables_eq_ok_iff, fun tables s hs history => ?_,
    fun s id table => ?_, fun s resource catalog => ?_, fun s c => exists_apply_eq_error_iff,
    fun s c => apply_of_unwritable s, fun s c cause h => ?_⟩
  · rw [← run_putsOf hs]
    exact ((remembers_empty.run (putsOf tables)).run history).shows
  · rw [after_eq_edit, after_eq_edit]
    exact ⟨rfl, rfl⟩
  · rw [after_eq_edit]
    rfl
  · exact ⟨(isFaulty_of_apply h).2, by rw [after, h]⟩

/-- Two tables at the start. -/
def shelves : List (Text × Value) :=
  [("order", .mapping [(.text "put [ \"a b\" ]", .text "desk")]),
    ("stock", .mapping [(.text "get", .text "stock")])]

/-- A table is replaced, not replaced, removed and put again, and a catalog is put. -/
def rearranging : List Change :=
  [.putTable "order" (.mapping [(.text "put", .text "audit")]),
    .putTable "stock" (.mapping [(.text "get", .text "audit"), (.int 1, .text "stock")]),
    .removeTable "order", .putOperations "r" (.inl "get"), .putOperations "r" (.inr ["get()"]),
    .putTable "order" (.mapping [(.text " get ", .text "desk")])]

/-- The table that was put again has gone to the end. -/
theorem shows_history_of_shelves :
    ∃ s, ofTables shelves = .ok s ∧
      (s.run rearranging).Shows (putsOf shelves ++ rearranging) ∧
      (s.run rearranging).tableIds = ["stock", "order"] := by
  obtain ⟨-, hshows, -⟩ := shows_history
  exact ⟨_, rfl, hshows shelves _ rfl rearranging, by decide +kernel⟩

end Store

end RoleGate
