import Mathlib.Data.List.Forall2
import RoleGate.Proofs.Engine.Bulk

/-!
# Many checks and single ones

The rows of a bulk check, the check of a resource with a catalog and the check of one invocation
are made in different ways. They give one answer: a row says what single checks say of its resource
and its query, and a resource is open to whoever may make an invocation that its catalog lists.

## Main definitions

* `Engine.Listed` — what the catalog of a resource lists.
* `Engine.Decides` — a query is decided by single checks.
* `Engine.AnsweredBy` — the row of one item of a bulk check.

## Main statements

* `Engine.exists_bulk_answeredBy` — a bulk check is single checks, item by item.
* `Engine.canAccess_iff_listed` — a resource is open if something in its catalog is.
-/

namespace RoleGate

namespace Engine

variable {e : Engine} {c : Caller} {resource method : Text} {signature : Option (List Text)}
  {i : Invocation} {item : Option Text} {b : Bool}

/-! ## What catalogs list -/

/-- The catalog of the resource lists the method, or one overload of it. -/
def Listed (e : Engine) (resource method : Text) (signature : Option (List Text)) : Prop :=
  ∃ operations, e.source.operations resource = .ok (some operations) ∧
    ∃ operation ∈ operations, Invocation.ofQuery operation = .ok ⟨method, signature, none⟩

theorem listed_iff {operations : List Text}
    (hcatalog : e.source.operations resource = .ok (some operations)) :
    e.Listed resource method signature ↔
      ∃ operation ∈ operations, Invocation.ofQuery operation = .ok ⟨method, signature, none⟩ := by
  simp [Listed, hcatalog]

theorem Listed.create_eq (h : e.Listed resource method signature) :
    Invocation.create method none signature = ⟨method, signature, none⟩ := by
  obtain ⟨-, -, operation, -, hquery⟩ := h
  exact Invocation.create_of_ofQuery hquery

theorem overload?_eq_some_iff {operation : Text} :
    overload? method operation = some i ↔
      Invocation.ofQuery operation = .ok i ∧ i.method = method ∧ i.signature.isSome = true := by
  unfold overload?
  cases Invocation.ofQuery operation with
  | error cause => simp
  | ok j =>
    simp only [Option.ite_none_right_eq_some, Bool.and_eq_true, beq_iff_eq, Option.some.injEq,
      Except.ok.injEq]
    grind

/-- The overloads of a method are those that the catalog lists. -/
theorem exists_overloads (hcatalog : ∃ catalog, e.source.operations resource = .ok catalog)
    (method : Text) :
    ∃ found, e.overloads resource method = .ok found ∧ ∀ i, i ∈ found ↔
      ∃ types, i = ⟨method, some types, none⟩ ∧ e.Listed resource method (some types) := by
  obtain ⟨catalog, hcatalog⟩ := hcatalog
  refine ⟨(catalog.getD []).filterMap (overload? method), ?_, fun i => ?_⟩
  · rw [overloads, hcatalog]
    rfl
  simp only [List.mem_filterMap, overload?_eq_some_iff]
  constructor
  · rintro ⟨operation, hmem, hquery, rfl, hsome⟩
    obtain ⟨operations, rfl⟩ : ∃ operations, catalog = some operations := by
      cases catalog with
      | none => cases hmem
      | some operations => exact ⟨operations, rfl⟩
    obtain ⟨types, htypes⟩ := Option.isSome_iff_exists.1 hsome
    have hi : i = ⟨i.method, some types, none⟩ := by
      rw [← htypes, ← Invocation.args_of_ofQuery hquery]
    exact ⟨types, hi, operations, hcatalog, operation, hmem, hi ▸ hquery⟩
  · rintro ⟨types, rfl, operations, hoperations, operation, hmem, hquery⟩
    obtain rfl := Except.ok.inj (hcatalog.symm.trans hoperations)
    exact ⟨operation, hmem, hquery, rfl, rfl⟩

section

variable [Pattern.Machine]

/-! ## Items of a bulk check -/

/-- What an item of a bulk check asks for is decided by single checks: a resource by the check of
the resource, an overload by the check of the overload, and a method by those of its overloads in
the catalog, or by its own if there are none. -/
inductive Decides (e : Engine) (c : Caller) (resource : Text) : Option Text → Bool → Prop
  | access {b : Bool} (answer : (e.canAccess c resource).answer = .ok b) :
    Decides e c resource none b
  | malformed {query : Text} {cause : Error} (malformed : Invocation.ofQuery query = .error cause) :
    Decides e c resource (some query) false
  | overload {query method : Text} {types : List Text} {b : Bool}
    (asked : Invocation.ofQuery query = .ok ⟨method, some types, none⟩)
    (answer : (e.canInvoke c resource (.create method none (some types))).answer = .ok b) :
    Decides e c resource (some query) b
  | overloads {query method : Text} {b : Bool}
    (asked : Invocation.ofQuery query = .ok ⟨method, none, none⟩)
    (listed : ∃ types, e.Listed resource method (some types))
    (answer : b = true ↔ ∃ types, e.Listed resource method (some types) ∧
      (e.canInvoke c resource (.create method none (some types))).answer = .ok true) :
    Decides e c resource (some query) b
  | bare {query method : Text} {b : Bool}
    (asked : Invocation.ofQuery query = .ok ⟨method, none, none⟩)
    (unlisted : ¬ ∃ types, e.Listed resource method (some types))
    (answer : (e.canInvoke c resource (.create method none none)).answer = .ok b) :
    Decides e c resource (some query) b

/-- Single checks decide in one way. -/
theorem Decides.unique {b' : Bool} (h : e.Decides c resource item b)
    (h' : e.Decides c resource item b') : b = b' := by
  -- the query and the catalog leave one constructor only, and checks have one answer
  cases h <;> cases h' <;> grind

/-- Some overload may be called if some overload that the catalog lists may. -/
theorem any_canInvoke_iff {found : List Invocation} (hmem : ∀ i, i ∈ found ↔
      ∃ types, i = ⟨method, some types, none⟩ ∧ e.Listed resource method (some types)) :
    (found.any fun i => (e.canInvoke c resource i).holds) = true ↔
      ∃ types, e.Listed resource method (some types) ∧
        (e.canInvoke c resource (.create method none (some types))).answer = .ok true := by
  simp only [List.any_eq_true, Check.holds_iff]
  constructor
  · rintro ⟨i, hi, hallowed⟩
    obtain ⟨types, rfl, hlisted⟩ := (hmem i).1 hi
    exact ⟨types, hlisted, by rwa [hlisted.create_eq]⟩
  · rintro ⟨types, hlisted, hallowed⟩
    rw [hlisted.create_eq] at hallowed
    exact ⟨_, (hmem _).2 ⟨types, rfl, hlisted⟩, hallowed⟩

/-- A query is decided as single checks of what it asks for. -/
theorem decides_canQuery (hcatalog : ∃ catalog, e.source.operations resource = .ok catalog)
    (c : Caller) {query : Text} (hquery : Invocation.ofQuery query = .ok i) :
    e.Decides c resource (some query) (e.canQuery c resource i).holds := by
  have hargs := Invocation.args_of_ofQuery hquery
  have hcreate := Invocation.create_of_ofQuery hquery
  have hsingle : (e.canInvoke c resource i).answer = .ok (e.canInvoke c resource i).holds :=
    (answers_canInvoke hargs).answer_eq
  rw [Check.holds_of_answer (answer_canQuery hargs)]
  obtain ⟨method, _ | types, args⟩ := i
  -- a name without a signature stands for the overloads in the catalog, if there are any
  · obtain rfl : args = none := hargs
    obtain ⟨found, hfound, hmem⟩ := exists_overloads hcatalog method
    simp only [Option.isSome_none, Bool.false_eq_true, if_false, hfound]
    by_cases hlisted : ∃ types, e.Listed resource method (some types)
    · obtain ⟨first, others, rfl⟩ : ∃ first others, found = first :: others := by
        obtain ⟨types, htypes⟩ := hlisted
        exact List.exists_cons_of_ne_nil (List.ne_nil_of_mem ((hmem _).2 ⟨types, rfl, htypes⟩))
      exact .overloads hquery hlisted (any_canInvoke_iff hmem)
    · have hnil : found = [] := by
        refine List.eq_nil_iff_forall_not_mem.2 fun i hi => hlisted ?_
        exact ((hmem i).1 hi).imp fun _ => And.right
      subst hnil
      exact .bare hquery hlisted (hcreate ▸ hsingle)
  · obtain rfl : args = none := hargs
    exact .overload hquery (hcreate ▸ hsingle)

/-- The bulk check decides an item as single checks do. -/
theorem decides_grants (hcatalog : ∃ catalog, e.source.operations resource = .ok catalog)
    (c : Caller) (item : Option Text) :
    e.Decides c resource item (e.grants c (resource, item)) := by
  cases item with
  | none => exact .access (Check.Answers.answer_eq ⟨_, answer_canAccess e c resource⟩)
  | some query =>
    simp only [grants]
    cases hquery : Invocation.ofQuery query with
    | error cause => exact .malformed hquery
    | ok i => exact decides_canQuery hcatalog c hquery

/-- The row that single checks give for an item: it repeats what is asked about, with the empty
method for access to the resource. -/
structure AnsweredBy (e : Engine) (c : Caller) (item : Text × Option Text) (row : Row) : Prop where
  resource : row.resource = item.1
  method : row.method = item.2.getD []
  allowed : e.Decides c item.1 item.2 row.allowed

theorem answeredBy_rowOf (c : Caller) {item : Text × Option Text}
    (hcatalog : ∃ catalog, e.source.operations item.1 = .ok catalog) :
    e.AnsweredBy c item (e.rowOf c item) :=
  ⟨rfl, rfl, decides_grants hcatalog c item.2⟩

theorem AnsweredBy.unique {item : Text × Option Text} {row row' : Row}
    (h : e.AnsweredBy c item row) (h' : e.AnsweredBy c item row') : row = row' := by
  obtain ⟨resource, method, allowed⟩ := row
  obtain ⟨resource', method', allowed'⟩ := row'
  obtain ⟨rfl, rfl, hdecides⟩ := h
  obtain ⟨rfl, rfl, hdecides'⟩ := h'
  obtain rfl : allowed = allowed' := hdecides.unique hdecides'
  rfl

omit [Pattern.Machine] in
theorem fst_mem_keys_of_mem_items {query : OrderedMap (List Text)} {item : Text × Option Text}
    (h : item ∈ items query) : item.1 ∈ query.keys := by
  obtain ⟨entry, hentry, hitem⟩ := List.mem_flatMap.1 h
  have hresource : item.1 = entry.1 := by
    unfold itemsOf at hitem
    split at hitem
    · rw [List.mem_singleton.1 hitem]
    · obtain ⟨query, -, rfl⟩ := List.mem_map.1 hitem
      rfl
  exact hresource ▸ List.mem_map_of_mem hentry

/-! ## Many checks -/

/-- A bulk check is single checks, item by item: the rows are one for each item, in order, each as
single checks answer that item. -/
theorem exists_bulk_answeredBy (e : Engine) (c : Caller) (query : OrderedMap (List Text))
    (hcatalogs : ∀ resource ∈ query.keys, ∃ catalog, e.source.operations resource = .ok catalog) :
    ∃ rows, (e.bulk c query).answer = .ok rows ∧
      ∀ rows', List.Forall₂ (e.AnsweredBy c) (items query) rows' ↔ rows' = rows := by
  have hrowOf : ∀ item ∈ items query, e.AnsweredBy c item (e.rowOf c item) := fun item hitem =>
    answeredBy_rowOf c (hcatalogs _ (fst_mem_keys_of_mem_items hitem))
  refine ⟨_, answer_bulk e c query, fun rows => ?_⟩
  generalize items query = found at hrowOf
  constructor
  · intro h
    induction h with
    | nil => rfl
    | cons hrow _ ih =>
      obtain ⟨hfirst, hrest⟩ := List.forall_mem_cons.1 hrowOf
      rw [List.map_cons, hrow.unique hfirst, ih hrest]
  · rintro rfl
    rw [List.forall₂_map_right_iff, List.forall₂_same]
    exact hrowOf

end

/-- A library whose catalog of the shelf lists lending without a signature and with two, and one
entry that asks for nothing. The hall has a catalog, too, but no table. -/
def library : Engine where
  settings := { defaultAllow := false }
  resolver := .flat []
  source := .ofMaps
    (.ofList
      [("shelf", .ofList [("lend(int)", .text "clerk"), ("lend(str)", .text "porter"),
        ("lend", .text "warden"), ("dust", .text "clerk")])])
    (.ofList [("shelf", ["lend", "lend(int)", "lend(str", " lend( str )"]), ("hall", ["sweep"])])

/-- What a visitor of the library asks about. -/
def inquiry : OrderedMap (List Text) :=
  .ofList [("hall", []), ("shelf", ["lend", "lend(str)", "lend(", "dust", "burn"])]

/-- What a clerk of the library is told. -/
def replies : List Row :=
  [⟨"hall", "", false⟩, ⟨"shelf", "lend", true⟩, ⟨"shelf", "lend(str)", false⟩,
    ⟨"shelf", "lend(", false⟩, ⟨"shelf", "dust", true⟩, ⟨"shelf", "burn", false⟩]

/-- A clerk lends by one of the overloads and dusts what no catalog lists. -/
theorem exists_bulk_answeredBy_of_library :
    (∀ resource ∈ inquiry.keys, ∃ catalog, library.source.operations resource = .ok catalog) ∧
      (library.bulk ⟨"ann", ["clerk"], .empty⟩ inquiry).answer = .ok replies ∧
      List.Forall₂ (library.AnsweredBy ⟨"ann", ["clerk"], .empty⟩) (items inquiry) replies := by
  have hcatalogs : ∀ resource ∈ inquiry.keys,
      ∃ catalog, library.source.operations resource = .ok catalog := fun _ _ => ⟨_, rfl⟩
  have hreplies : (library.bulk ⟨"ann", ["clerk"], .empty⟩ inquiry).answer = .ok replies := by
    decide +kernel
  obtain ⟨rows, hrows, hunique⟩ :=
    exists_bulk_answeredBy library ⟨"ann", ["clerk"], .empty⟩ inquiry hcatalogs
  exact ⟨hcatalogs, hreplies, (hunique _).2 (Except.ok.inj (hreplies.symm.trans hrows))⟩

section

variable [Pattern.Machine]

/-! ## The check of a resource -/

/-- An entry of a catalog is decided like the invocation that it stands for. -/
theorem holds_mayOperate_iff {tables : Snapshot} (htables : e.snapshot resource = .ok tables)
    {operation : Text} :
    (e.mayOperate c resource tables operation).holds = true ↔
      ∃ i, Invocation.ofQuery operation = .ok i ∧
        (e.canInvoke c resource i).answer = .ok true := by
  rw [Check.holds_iff, answer_mayOperate]
  cases Invocation.ofQuery operation with
  | error cause => simp
  | ok i => simp [answer_canInvoke_eq_allows, htables]

/-- A resource with a catalog is open to whoever may make an invocation that the catalog lists. -/
theorem holds_canAccess_iff {operations : List Text}
    (hcatalog : e.source.operations resource = .ok (some operations)) :
    (e.canAccess c resource).holds = true ↔ ∃ method signature,
      e.Listed resource method signature ∧
        (e.canInvoke c resource (.create method none signature)).answer = .ok true := by
  rw [Check.holds_of_answer (answer_canAccess e c resource), grounds, hcatalog]
  cases htables : e.snapshot resource with
  | error cause => simp [bind, Except.bind, answer_canInvoke, htables]
  | ok tables =>
    show (operations.any fun operation =>
      (e.mayOperate c resource tables operation).holds) = true ↔ _
    simp only [List.any_eq_true, holds_mayOperate_iff htables]
    constructor
    · rintro ⟨operation, hmem, ⟨method, signature, args⟩, hquery, hallowed⟩
      obtain rfl : args = none := Invocation.args_of_ofQuery hquery
      exact ⟨method, signature, (listed_iff hcatalog).2 ⟨operation, hmem, hquery⟩,
        by rwa [Invocation.create_of_ofQuery hquery]⟩
    · rintro ⟨method, signature, hlisted, hallowed⟩
      rw [hlisted.create_eq] at hallowed
      obtain ⟨operation, hmem, hquery⟩ := (listed_iff hcatalog).1 hlisted
      exact ⟨operation, hmem, _, hquery, hallowed⟩

/-- No method is listed both without a signature and with one. -/
def ListsOneWay (e : Engine) (resource : Text) : Prop :=
  ∀ method types, ¬ (e.Listed resource method none ∧ e.Listed resource method (some types))

/-- A query that is allowed is for something that is listed and allowed, if the query is listed. -/
theorem Decides.exists_listed {operations : List Text} {query : Text}
    (h : e.Decides c resource (some query) true)
    (hcatalog : e.source.operations resource = .ok (some operations)) (hmem : query ∈ operations) :
    ∃ method signature, e.Listed resource method signature ∧
      (e.canInvoke c resource (.create method none signature)).answer = .ok true := by
  cases h with
  | @overload _ method types _ asked answer =>
    exact ⟨method, some types, (listed_iff hcatalog).2 ⟨query, hmem, asked⟩, answer⟩
  | @overloads _ method _ asked listed answer =>
    obtain ⟨types, hlisted, hallowed⟩ := answer.1 rfl
    exact ⟨method, some types, hlisted, hallowed⟩
  | @bare _ method _ asked unlisted answer =>
    exact ⟨method, none, (listed_iff hcatalog).2 ⟨query, hmem, asked⟩, answer⟩

/-- What is listed and allowed is allowed by the query that lists it, unless the query stands for
overloads that are listed too. -/
theorem Listed.exists_decides {operations : List Text} (h : e.Listed resource method signature)
    (hcatalog : e.source.operations resource = .ok (some operations))
    (honeWay : e.ListsOneWay resource)
    (hallowed : (e.canInvoke c resource (.create method none signature)).answer = .ok true) :
    ∃ query ∈ operations, e.Decides c resource (some query) true := by
  obtain ⟨query, hmem, hquery⟩ := (listed_iff hcatalog).1 h
  refine ⟨query, hmem, ?_⟩
  cases signature with
  | none => exact .bare hquery (fun ⟨types, htypes⟩ => honeWay method types ⟨h, htypes⟩) hallowed
  | some types => exact .overload hquery hallowed

omit [Pattern.Machine] in
theorem items_ofList_singleton {operations : List Text} (h : operations ≠ []) :
    items (.ofList [(resource, operations)]) =
      operations.map fun operation => (resource, some operation) := by
  show itemsOf (resource, operations) ++ [] = _
  rw [List.append_nil, itemsOf, if_neg (by simpa using h)]

/-- A resource with a catalog is open exactly if something that the catalog lists may be invoked. It
is open if a bulk check of the catalog allows something, and only then, unless a method is listed
both without a signature and with one. -/
theorem canAccess_iff_listed (e : Engine) (c : Caller) (resource : Text) (operations : List Text)
    (hcatalog : e.source.operations resource = .ok (some operations)) :
    ∃ b, (e.canAccess c resource).answer = .ok b ∧
      (b = true ↔ ∃ method signature, e.Listed resource method signature ∧
        (e.canInvoke c resource (.create method none signature)).answer = .ok true) ∧
      (operations ≠ [] → ∃ rows,
        (e.bulk c (.ofList [(resource, operations)])).answer = .ok rows ∧
          ((∃ row ∈ rows, row.allowed = true) → b = true) ∧
          (e.ListsOneWay resource → b = true → ∃ row ∈ rows, row.allowed = true)) := by
  have hdecides : ∀ query, e.Decides c resource (some query) (e.grants c (resource, some query)) :=
    fun query => decides_grants ⟨_, hcatalog⟩ c (some query)
  refine ⟨_, Check.Answers.answer_eq ⟨_, answer_canAccess e c resource⟩,
    holds_canAccess_iff hcatalog, fun hoperations => ⟨_, answer_bulk e c _, ?_, ?_⟩⟩
  · rw [items_ofList_singleton hoperations, holds_canAccess_iff hcatalog]
    rintro ⟨row, hrow, hallowed⟩
    simp only [List.mem_map] at hrow
    obtain ⟨_, ⟨query, hmem, rfl⟩, rfl⟩ := hrow
    have hquery := hdecides query
    rw [show e.grants c (resource, some query) = true from hallowed] at hquery
    exact hquery.exists_listed hcatalog hmem
  · rw [items_ofList_singleton hoperations, holds_canAccess_iff hcatalog]
    rintro honeWay ⟨method, signature, hlisted, hallowed⟩
    obtain ⟨query, hmem, hquery⟩ := hlisted.exists_decides hcatalog honeWay hallowed
    refine ⟨_, List.mem_map_of_mem (List.mem_map_of_mem hmem), ?_⟩
    exact (hdecides query).unique hquery

end

/-- A shed whose catalog lists each method in one way. -/
def shed : Engine where
  settings := { defaultAllow := false }
  resolver := .flat []
  source := .ofMaps
    (.ofList [("shed", .ofList [("lock(int)", .text "porter"), ("mow", .text "warden")])])
    (.ofList [("shed", ["mow", ")", "lock(int)"])])

/-- A porter has access to the shed, and so there is a row that allows something. -/
theorem canAccess_iff_listed_of_shed :
    shed.source.operations "shed" = .ok (some ["mow", ")", "lock(int)"]) ∧
      shed.ListsOneWay "shed" ∧
      (shed.canAccess ⟨"bob", ["porter"], .empty⟩ "shed").answer = .ok true ∧
      ∃ rows, (shed.bulk ⟨"bob", ["porter"], .empty⟩
          (.ofList [("shed", ["mow", ")", "lock(int)"])])).answer = .ok rows ∧
        ∃ row ∈ rows, row.allowed = true := by
  have hcatalog : shed.source.operations "shed" = .ok (some ["mow", ")", "lock(int)"]) := rfl
  have honeWay : shed.ListsOneWay "shed" := by
    rintro method types ⟨hbare, hoverload⟩
    obtain ⟨query, hmem, hquery⟩ := (listed_iff hcatalog).1 hbare
    obtain ⟨query', hmem', hquery'⟩ := (listed_iff hcatalog).1 hoverload
    simp only [List.mem_cons, List.not_mem_nil, or_false] at hmem hmem'
    rcases hmem with rfl | rfl | rfl <;> rcases hmem' with rfl | rfl | rfl <;>
      cases hquery <;> cases hquery'
  have haccess : (shed.canAccess ⟨"bob", ["porter"], .empty⟩ "shed").answer = .ok true := by
    decide +kernel
  obtain ⟨b, hb, -, hbulk⟩ :=
    canAccess_iff_listed shed ⟨"bob", ["porter"], .empty⟩ "shed" _ hcatalog
  obtain ⟨rows, hrows, -, hconverse⟩ := hbulk (by simp)
  obtain rfl := Except.ok.inj (hb.symm.trans haccess)
  exact ⟨hcatalog, honeWay, haccess, rows, hrows, hconverse honeWay rfl⟩

/-- A warden may lend where the overload is not known, but may lend by none of the overloads. -/
example : (library.canAccess ⟨"eve", ["warden"], .empty⟩ "shelf").answer = .ok true ∧
    (library.bulk ⟨"eve", ["warden"], .empty⟩
      (.ofList [("shelf", ["lend", "lend(int)", "lend(str", " lend( str )"])])).answer =
      .ok [⟨"shelf", "lend", false⟩, ⟨"shelf", "lend(int)", false⟩, ⟨"shelf", "lend(str", false⟩,
        ⟨"shelf", " lend( str )", false⟩] := by
  decide +kernel

end Engine

end RoleGate
