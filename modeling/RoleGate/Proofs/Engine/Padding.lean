import RoleGate.Proofs.Engine.Bulk
import RoleGate.Proofs.Text.Blank
import RoleGate.Store.Change

/-!
# Padded identifiers

Where each resource has one table, blanks around an identifier do not count in the choice of the
table. So they make no difference to checks of single methods. Catalogs are looked up by identifiers
as they are given. So access to a resource, and queries that stand for the overloads in a catalog,
are answered as for the identifier without blanks, but from the catalog of the identifier as it is
given.

## Main definitions

* `Engine.FindsAlike` — an engine finds for one resource what another one finds for another.
* `Row.about` — what rows say about a resource.

## Main statements

* `Engine.FindsAlike.canAccess`, `Engine.FindsAlike.about_bulk` — engines that find the same give
  the same answers.
* `Engine.answers_of_padded` — what blanks around an identifier change.
-/

namespace RoleGate

open Text (trim)

/-- What rows say about a resource: the methods and the answers, in order. -/
def Row.about (resource : Text) (rows : List Row) : List (Text × Bool) :=
  (rows.filter (·.resource == resource)).map fun row => (row.method, row.allowed)

/-- Outcomes with the same answer, or none, are the same but for the error. -/
theorem ok_or_error_of_toOption {α : Type} {x y : Except Error α} (h : x.toOption = y.toOption) :
    (∃ a, x = .ok a ∧ y = .ok a) ∨ ∃ cause cause', x = .error cause ∧ y = .error cause' := by
  cases x with
  | error cause =>
    cases y with
    | error cause' => exact .inr ⟨cause, cause', rfl, rfl⟩
    | ok b => cases h
  | ok a =>
    cases y with
    | error cause' => cases h
    | ok b =>
      cases h
      exact .inl ⟨a, rfl, rfl⟩

namespace Engine

/-! ## Engines that find the same -/

/-- The first engine finds for a resource what the second one finds for another: the same tables, or
none if they cannot be looked up, and the same catalog. -/
structure FindsAlike (e f : Engine) (resource other : Text) : Prop where
  settings : e.settings = f.settings
  tables : (e.snapshot resource).toOption = (f.snapshot other).toOption
  operations : e.source.operations resource = f.source.operations other

variable {e f : Engine} {c : Caller} {resource other : Text} {i : Invocation} {tables : Snapshot}

section

variable [Pattern.Machine]

/-- Of the reason for which the tables cannot be looked up, checks of methods show nothing. -/
theorem answer_canInvoke_of_tables (hsettings : e.settings = f.settings)
    (htables : (e.snapshot resource).toOption = (f.snapshot other).toOption) (c : Caller)
    (i : Invocation) : (e.canInvoke c resource i).answer = (f.canInvoke c other i).answer := by
  rw [answer_canInvoke_eq_allows, answer_canInvoke_eq_allows, hsettings]
  obtain ⟨tables, he, hf⟩ | ⟨cause, cause', he, hf⟩ := ok_or_error_of_toOption htables
  · rw [he, hf]
  · rw [he, hf]

/-- The name of the resource shows in notices only. -/
theorem holds_mayOperate_congr (hsettings : e.settings = f.settings) (resource other : Text)
    (operation : Text) :
    (e.mayOperate c resource tables operation).holds =
      (f.mayOperate c other tables operation).holds := by
  apply Check.holds_congr
  rw [answer_mayOperate, answer_mayOperate, hsettings]

omit [Pattern.Machine] in
theorem holds_mayByTables_congr (hsettings : e.settings = f.settings) :
    (e.mayByTables c tables).holds = (f.mayByTables c tables).holds := by
  apply Check.holds_congr
  rw [answer_mayByTables, answer_mayByTables, mayByAnyRule, mayByAnyRule, hsettings]

namespace FindsAlike

variable (h : FindsAlike e f resource other)
include h

theorem canInvoke (c : Caller) (i : Invocation) :
    (e.canInvoke c resource i).answer = (f.canInvoke c other i).answer :=
  answer_canInvoke_of_tables h.settings h.tables c i

omit [Pattern.Machine] in
theorem grounds : (e.grounds resource).toOption = (f.grounds other).toOption := by
  rw [Engine.grounds, Engine.grounds, h.operations]
  obtain ⟨tables, he, hf⟩ | ⟨cause, cause', he, hf⟩ := ok_or_error_of_toOption h.tables
  · rw [he, hf]
  · rw [he, hf]
    rfl

theorem canAccess (c : Caller) :
    (e.canAccess c resource).answer = (f.canAccess c other).answer := by
  rw [answer_canAccess, answer_canAccess]
  obtain ⟨⟨tables, catalog⟩, he, hf⟩ | ⟨cause, cause', he, hf⟩ := ok_or_error_of_toOption h.grounds
  · rw [he, hf]
    cases catalog with
    | none => exact congrArg Except.ok (holds_mayByTables_congr h.settings)
    | some operations => simp only [holds_mayOperate_congr h.settings resource other]
  · rw [he, hf]

omit [Pattern.Machine] in
theorem overloads (method : Text) : e.overloads resource method = f.overloads other method := by
  rw [Engine.overloads, Engine.overloads, h.operations]

theorem canQuery (c : Caller) (hargs : i.args = none) :
    (e.canQuery c resource i).answer = (f.canQuery c other i).answer := by
  have hholds : ∀ j, (e.canInvoke c resource j).holds = (f.canInvoke c other j).holds := by
    intro j
    exact Check.holds_congr (h.canInvoke c j)
  rw [answer_canQuery hargs, answer_canQuery hargs, h.overloads]
  simp only [hholds]

theorem grants (c : Caller) (asked : Option Text) :
    e.grants c (resource, asked) = f.grants c (other, asked) := by
  cases asked with
  | none => exact Check.holds_congr (h.canAccess c)
  | some query =>
    rw [Engine.grants, Engine.grants]
    cases hquery : Invocation.ofQuery query with
    | error cause => rfl
    | ok i => exact Check.holds_congr (h.canQuery c (Invocation.args_of_ofQuery hquery))

end FindsAlike

end

/-! ## Rows about one resource -/

theorem fst_of_mem_itemsOf {entry : Text × List Text} {item : Text × Option Text}
    (hitem : item ∈ itemsOf entry) : item.1 = entry.1 := by
  unfold itemsOf at hitem
  split at hitem
  · simp_all
  · obtain ⟨query, -, rfl⟩ := List.mem_map.1 hitem
    rfl

theorem filter_itemsOf (resource : Text) (entry : Text × List Text) :
    (itemsOf entry).filter (·.1 == resource) =
      if entry.1 = resource then itemsOf entry else [] := by
  split
  · next heq =>
    apply List.filter_eq_self.2
    intro item hitem
    simp [fst_of_mem_itemsOf hitem, heq]
  · next hne =>
    apply List.filter_eq_nil_iff.2
    intro item hitem
    simp [fst_of_mem_itemsOf hitem, hne]

theorem filter_flatMap_itemsOf (resource : Text) {entries : List (Text × List Text)}
    (hnodup : (entries.map Prod.fst).Nodup) :
    (entries.flatMap itemsOf).filter (·.1 == resource) =
      ((entries.lookup resource).map fun queries => itemsOf (resource, queries)).getD [] := by
  induction entries with
  | nil => rfl
  | cons entry rest ih =>
    obtain ⟨hnew, hrest⟩ := List.nodup_cons.1 hnodup
    rw [List.flatMap_cons, List.filter_append, ih hrest, filter_itemsOf]
    by_cases heq : entry.1 = resource
    · obtain ⟨id, queries⟩ := entry
      obtain rfl : id = resource := heq
      -- The other entries are about other resources.
      have hnone : rest.lookup id = none := by
        rw [List.lookup_eq_none_iff]
        intro e he
        have hmem : e.1 ∈ rest.map Prod.fst := List.mem_map_of_mem he
        simpa using fun hid : id = e.1 => hnew (hid ▸ hmem)
      simp [hnone]
    · have hlookup : (entry :: rest).lookup resource = rest.lookup resource := by
        rw [List.lookup_cons, beq_eq_false_iff_ne.2 (Ne.symm heq)]
      rw [if_neg heq, hlookup, List.nil_append]

/-- What a bulk check asks about a resource stands under the resource. -/
theorem filter_items (query : OrderedMap (List Text)) (resource : Text) :
    (items query).filter (·.1 == resource) =
      ((query.get? resource).map fun queries => itemsOf (resource, queries)).getD [] :=
  filter_flatMap_itemsOf resource query.nodup_keys

section

variable [Pattern.Machine]

/-- The rows about a resource answer what is asked about it, one by one. -/
theorem about_rows (e : Engine) (c : Caller) (query : OrderedMap (List Text)) (resource : Text) :
    Row.about resource ((items query).map (e.rowOf c)) =
      (((query.get? resource).map fun queries => itemsOf (resource, queries)).getD []).map
        fun item => (item.2.getD [], e.grants c (resource, item.2)) := by
  rw [Row.about, List.filter_map, List.map_map, ← filter_items]
  apply List.map_congr_left
  intro item hitem
  obtain ⟨id, asked⟩ := item
  obtain rfl : id = resource := beq_iff_eq.1 (List.mem_filter.1 hitem).2
  rfl

omit [Pattern.Machine] in
theorem map_itemsOf {α : Type} (g : Option Text → α) (resource other : Text)
    (queries : List Text) :
    (itemsOf (resource, queries)).map (fun item => g item.2) =
      (itemsOf (other, queries)).map fun item => g item.2 := by
  unfold itemsOf
  split
  · rfl
  · simp only [List.map_map]
    rfl

/-- If the same is asked about the two resources, bulk checks give the same answers about them. -/
theorem FindsAlike.about_bulk (h : FindsAlike e f resource other) (c : Caller)
    {query query' : OrderedMap (List Text)} (hquery : query.get? resource = query'.get? other) :
    ∃ rows others, (e.bulk c query).answer = .ok rows ∧ (f.bulk c query').answer = .ok others ∧
      Row.about resource rows = Row.about other others := by
  refine ⟨_, _, answer_bulk e c query, answer_bulk f c query', ?_⟩
  rw [about_rows, about_rows, hquery]
  cases query'.get? other with
  | none => rfl
  | some queries =>
    simp only [Option.map_some, Option.getD_some, h.grants c]
    exact map_itemsOf (fun asked => (asked.getD [], f.grants c (other, asked))) resource other
      queries

/-! ## Blanks around identifiers -/

omit [Pattern.Machine] in
theorem candidates_flat_trim (beginning resource : Text) :
    ((Resolver.flat beginning).candidates resource).toOption =
      ((Resolver.flat beginning).candidates (trim resource)).toOption := by
  simp only [Resolver.flat, Text.trim_trim]
  split <;> rfl

omit [Pattern.Machine] in
/-- The table of a resource is the same with blanks around the identifier. -/
theorem toOption_snapshot_trim (settings : Settings) (beginning : Text) (source source' : Source)
    (htable : source.table = source'.table) (resource : Text) :
    (snapshot ⟨settings, .flat beginning, source⟩ resource).toOption =
      (snapshot ⟨settings, .flat beginning, source'⟩ (trim resource)).toOption := by
  rw [snapshot, snapshot]
  obtain ⟨ids, hpadded, hbare⟩ | ⟨cause, cause', hpadded, hbare⟩ :=
    ok_or_error_of_toOption (candidates_flat_trim beginning resource)
  · rw [hpadded, hbare]
    exact congrArg Except.toOption (tablesOf_congr fun id _ => congrFun htable id)
  · rw [hpadded, hbare]
    rfl

/-- Blanks around an identifier make no difference to a check of a method. A check of the resource
and the rows of a bulk check are those for the identifier without blanks, if its catalog is that of
the identifier as it is given. So they are the same for both spellings if both have the same
catalog, or none. -/
theorem answers_of_padded (settings : Settings) (beginning : Text) (source : Source) (c : Caller)
    (resource : Text) :
    (∀ i, (canInvoke ⟨settings, .flat beginning, source⟩ c resource i).answer =
      (canInvoke ⟨settings, .flat beginning, source⟩ c (trim resource) i).answer) ∧
    ∀ operations, source.operations resource = operations (trim resource) →
      (canAccess ⟨settings, .flat beginning, source⟩ c resource).answer =
          (canAccess ⟨settings, .flat beginning, { source with operations }⟩ c
            (trim resource)).answer ∧
        ∀ query query' : OrderedMap (List Text),
          query.get? resource = query'.get? (trim resource) →
          ∃ rows others,
            (bulk ⟨settings, .flat beginning, source⟩ c query).answer = .ok rows ∧
            (bulk ⟨settings, .flat beginning, { source with operations }⟩ c query').answer =
              .ok others ∧
            Row.about resource rows = Row.about (trim resource) others := by
  constructor
  · intro i
    have htables := toOption_snapshot_trim settings beginning source source rfl resource
    exact answer_canInvoke_of_tables rfl htables c i
  · intro operations hcatalog
    have halike : FindsAlike ⟨settings, .flat beginning, source⟩
        ⟨settings, .flat beginning, { source with operations }⟩ resource (trim resource) :=
      { settings := rfl
        tables := toOption_snapshot_trim settings beginning source { source with operations } rfl
          resource
        operations := hcatalog }
    exact ⟨halike.canAccess c, fun query query' hquery => halike.about_bulk c hquery⟩

end

/-- A quay with a rule for one overload, which is listed in a catalog for each of some spellings of
its identifier. -/
def quayHistory (spellings : List Text) : List Store.Change :=
  .putTable "port.quay" (.mapping [(.text "moor(int)", .text "pilot")]) ::
    spellings.map fun spelling => .putOperations spelling (.inr ["moor(int)"])

/-- The engine over the store with the quay. -/
def quay (spellings : List Text) : Engine where
  settings := {}
  resolver := .flat "port"
  source := (Store.empty.run (quayHistory spellings)).source

/-- With the catalog under both spellings nothing depends on the spelling. -/
theorem answers_of_padded_of_quay :
    let e := quay ["quay", " quay\t"]
    let ann : Caller := ⟨"ann", [], .empty⟩
    let padded : OrderedMap (List Text) := .ofList [("pier", []), (" quay\t", ["moor"])]
    let bare : OrderedMap (List Text) := .ofList [("quay", ["moor"])]
    (e.canInvoke ann " quay\t" ⟨"moor", none, none⟩).answer =
        (e.canInvoke ann "quay" ⟨"moor", none, none⟩).answer ∧
      e.source.operations " quay\t" = e.source.operations "quay" ∧
      (e.canAccess ann " quay\t").answer = (e.canAccess ann "quay").answer ∧
      padded.get? " quay\t" = bare.get? "quay" ∧
      ∃ rows others, (e.bulk ann padded).answer = .ok rows ∧ (e.bulk ann bare).answer = .ok others ∧
        Row.about " quay\t" rows = Row.about "quay" others := by
  intro e ann padded bare
  have htrim : trim " quay\t" = "quay" := by decide
  obtain ⟨hinvoke, halike⟩ := answers_of_padded {} "port" e.source ann " quay\t"
  rw [htrim] at hinvoke halike
  obtain ⟨haccess, hbulk⟩ := halike e.source.operations rfl
  exact ⟨hinvoke _, rfl, haccess, rfl, hbulk padded bare rfl⟩

/-- With the catalog under one spelling only, the other opens the quay to everyone, as does a query
for the method without its overload. -/
theorem not_answers_of_padded :
    let e := quay ["quay"]
    let ann : Caller := ⟨"ann", [], .empty⟩
    Text.isBlankText " quay\t" = false ∧ trim " quay\t" = "quay" ∧
      (e.canAccess ann " quay\t").answer = .ok true ∧ (e.canAccess ann "quay").answer = .ok false ∧
      (e.bulk ann (.ofList [(" quay\t", ["moor"])])).answer = .ok [⟨" quay\t", "moor", true⟩] ∧
      (e.bulk ann (.ofList [("quay", ["moor"])])).answer = .ok [⟨"quay", "moor", false⟩] := by
  decide +kernel

end Engine

end RoleGate
