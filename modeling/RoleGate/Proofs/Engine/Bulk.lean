import RoleGate.Engine.Bulk
import RoleGate.Proofs.Engine.Access
import RoleGate.Proofs.Invocation.Query
import RoleGate.Proofs.Ruling.Advisory

/-!
# Checks without arguments

Queries and catalogs leave arguments unknown, so nothing that is asked by them is tried on a
pattern, and there always is an answer. The answer to a bulk check has one row for each item that is
asked about, and each row is decided on its own.

## Main definitions

* `Check.Answers`, `Check.holds` — a check has an answer, and it is that something is allowed.
* `Engine.items` — what a bulk check asks about.
* `Engine.grants` — the decision on one item.

## Main statements

* `Engine.answer_canAccess` — the check of a resource, with its catalog or without.
* `Engine.answer_canQuery` — the check of a query, of one overload or of all in the catalog.
* `Engine.answer_bulk` — a bulk check, item by item.
-/

namespace RoleGate

namespace Check

/-- The check has an answer. -/
def Answers {α : Type} (x : Check α) : Prop :=
  ∃ a, x.answer = .ok a

/-- The answer is that something is allowed. -/
def holds (x : Check Bool) : Bool :=
  x.answer = .ok true

theorem holds_iff {x : Check Bool} : x.holds = true ↔ x.answer = .ok true :=
  decide_eq_true_iff

theorem holds_of_answer {x : Check Bool} {b : Bool} (h : x.answer = .ok b) : x.holds = b := by
  rw [holds, h]
  cases b <;> rfl

theorem holds_congr {x y : Check Bool} (h : x.answer = y.answer) : x.holds = y.holds := by
  rw [holds, holds, h]

theorem Answers.answer_eq {x : Check Bool} (h : x.Answers) : x.answer = .ok x.holds := by
  obtain ⟨b, hb⟩ := h
  rw [hb, holds_of_answer hb]

/-- Of two checks the second is made if the first does not allow. -/
theorem answer_firstOf {x rest : Check Bool} {b : Bool} (hx : x.Answers)
    (hrest : rest.answer = .ok b) :
    (do if ← x then return true else rest : Check Bool).answer = .ok (x.holds || b) := by
  rw [answer_bind, hx.answer_eq]
  cases x.holds with
  | true => rfl
  | false => exact hrest

end Check

namespace Engine

variable [Pattern.Machine] {e : Engine} {c : Caller} {resource : Text} {i : Invocation}
  {tables : Snapshot}

/-! ## Single checks -/

/-- Without arguments no pattern is tried, so tables always have an outcome. -/
theorem exists_rulingIn_eq_ok (hargs : i.args = none) (tables : Snapshot) :
    ∃ found, (rulingIn i tables).answer = .ok found := by
  induction tables with
  | nil => exact ⟨none, rfl⟩
  | cons t tables ih =>
    obtain ⟨outcome, houtcome⟩ :=
      Ruling.exists_resolve_advisory i.method i.signature t.2.rules
    rw [answer_rulingIn_cons, hargs, houtcome]
    cases outcome with
    | none => exact ih
    | some ruling => exact ⟨_, rfl⟩

theorem answers_canInvoke (hargs : i.args = none) : (e.canInvoke c resource i).Answers := by
  rw [Check.Answers, answer_canInvoke_eq_allows]
  cases e.snapshot resource with
  | error cause => exact ⟨false, rfl⟩
  | ok tables =>
    obtain ⟨found, hfound⟩ := exists_rulingIn_eq_ok hargs tables
    exact ⟨_, by simp only [hfound]; rfl⟩

theorem answers_mayOperate (operation : Text) :
    (e.mayOperate c resource tables operation).Answers := by
  rw [Check.Answers, answer_mayOperate]
  cases hquery : Invocation.ofQuery operation with
  | error cause => exact ⟨false, rfl⟩
  | ok i =>
    obtain ⟨found, hfound⟩ := exists_rulingIn_eq_ok (Invocation.args_of_ofQuery hquery) tables
    exact ⟨_, by simp only [hfound]; rfl⟩

theorem answer_mayOperateAny (operations : List Text) :
    (e.mayOperateAny c resource tables operations).answer =
      .ok (operations.any fun operation => (e.mayOperate c resource tables operation).holds) := by
  induction operations with
  | nil => rfl
  | cons operation rest ih => exact Check.answer_firstOf (answers_mayOperate operation) ih

/-- With a catalog the check of a resource allows whoever may do one of the operations. -/
theorem answer_canAccess (e : Engine) (c : Caller) (resource : Text) :
    (e.canAccess c resource).answer = .ok (
      match e.grounds resource with
      | .error _ => false
      | .ok (tables, some operations) =>
        operations.any fun operation => (e.mayOperate c resource tables operation).holds
      | .ok (tables, none) => (e.mayByTables c tables).holds) := by
  unfold canAccess
  cases e.grounds resource with
  | error cause => rfl
  | ok found =>
    obtain ⟨tables, _ | operations⟩ := found
    · exact Check.Answers.answer_eq ⟨_, answer_mayByTables e c tables⟩
    · exact answer_mayOperateAny operations

/-! ## Queries -/

theorem answer_canInvokeAny {is : List Invocation} (hargs : ∀ i ∈ is, i.args = none) :
    (e.canInvokeAny c resource is).answer =
      .ok (is.any fun i => (e.canInvoke c resource i).holds) := by
  induction is with
  | nil => rfl
  | cons i rest ih =>
    obtain ⟨hi, hrest⟩ := List.forall_mem_cons.1 hargs
    exact Check.answer_firstOf (answers_canInvoke hi) (ih hrest)

omit [Pattern.Machine] in
/-- The overloads of a method are read off the catalog. -/
theorem exists_query_of_mem_overloads {method : Text} {found : List Invocation}
    (h : e.overloads resource method = .ok found) :
    ∀ i ∈ found, ∃ query, Invocation.ofQuery query = .ok i := by
  intro i hi
  obtain ⟨operations, -, ⟨⟩⟩ := except_bind_eq_ok_iff.1 h
  obtain ⟨operation, -, hoverload⟩ := List.mem_filterMap.1 hi
  unfold overload? at hoverload
  split at hoverload
  · cases hoverload
  · next j hquery =>
    split at hoverload
    · cases hoverload
      exact ⟨operation, hquery⟩
    · cases hoverload

omit [Pattern.Machine] in
theorem args_of_mem_overloads {method : Text} {found : List Invocation}
    (h : e.overloads resource method = .ok found) : ∀ i ∈ found, i.args = none := by
  intro i hi
  obtain ⟨query, hquery⟩ := exists_query_of_mem_overloads h i hi
  exact Invocation.args_of_ofQuery hquery

/-- A query for one overload is decided as it is. A query for a method stands for its overloads in
the catalog, if there are any. -/
theorem answer_canQuery (hargs : i.args = none) :
    (e.canQuery c resource i).answer = .ok (
      if i.signature.isSome then (e.canInvoke c resource i).holds
      else
        match e.overloads resource i.method with
        | .error _ => false
        | .ok [] => (e.canInvoke c resource i).holds
        | .ok found => found.any fun o => (e.canInvoke c resource o).holds) := by
  have hinvoke : (e.canInvoke c resource i).answer = .ok (e.canInvoke c resource i).holds :=
    (answers_canInvoke hargs).answer_eq
  unfold canQuery
  split
  · exact hinvoke
  · cases hoverloads : e.overloads resource i.method with
    | error cause => rfl
    | ok found =>
      cases found with
      | nil => exact hinvoke
      | cons first others => exact answer_canInvokeAny (args_of_mem_overloads hoverloads)

/-! ## Bulk checks -/

/-- What a bulk check asks about a resource: each of its queries, or access if there are none. -/
def itemsOf (entry : Text × List Text) : List (Text × Option Text) :=
  if entry.2.isEmpty then [(entry.1, none)] else entry.2.map fun query => (entry.1, some query)

/-- What a bulk check asks about, in order. -/
def items (query : OrderedMap (List Text)) : List (Text × Option Text) :=
  query.entries.flatMap itemsOf

/-- The caller may do what an item of a bulk check asks for. -/
def grants (e : Engine) (c : Caller) : Text × Option Text → Bool
  | (resource, none) => (e.canAccess c resource).holds
  | (resource, some query) =>
    match Invocation.ofQuery query with
    | .error _ => false
    | .ok i => (e.canQuery c resource i).holds

/-- What a query is granted depends on the catalog and on the checks of what queries ask for. -/
theorem grants_congr {f : Engine}
    (hoperations : e.source.operations resource = f.source.operations resource)
    (hinvoke : ∀ query i, Invocation.ofQuery query = .ok i →
      (e.canInvoke c resource i).answer = (f.canInvoke c resource i).answer) (query : Text) :
    e.grants c (resource, some query) = f.grants c (resource, some query) := by
  have hholds : ∀ query i, Invocation.ofQuery query = .ok i →
      (e.canInvoke c resource i).holds = (f.canInvoke c resource i).holds :=
    fun query i hquery => Check.holds_congr (hinvoke query i hquery)
  rw [grants, grants]
  cases hquery : Invocation.ofQuery query with
  | error cause => rfl
  | ok i =>
    have hargs := Invocation.args_of_ofQuery hquery
    have hoverloads : e.overloads resource i.method = f.overloads resource i.method := by
      rw [overloads, overloads, hoperations]
    refine Check.holds_congr ?_
    rw [answer_canQuery hargs, answer_canQuery hargs, hoverloads, hholds query i hquery]
    cases hfound : f.overloads resource i.method with
    | error cause => rfl
    | ok found =>
      have hfor : ∀ o ∈ found, (e.canInvoke c resource o).holds =
          (f.canInvoke c resource o).holds := fun o ho => by
        obtain ⟨operation, hoperation⟩ := exists_query_of_mem_overloads hfound o ho
        exact hholds operation o hoperation
      have hany : (found.any fun o => (e.canInvoke c resource o).holds) =
          found.any fun o => (f.canInvoke c resource o).holds := by
        rw [Bool.eq_iff_iff, List.any_eq_true, List.any_eq_true]
        exact exists_congr fun o => and_congr_right fun ho => by rw [hfor o ho]
      cases found with
      | nil => rfl
      | cons first others => simp only [hany]

/-- The row that answers an item. -/
def rowOf (e : Engine) (c : Caller) (item : Text × Option Text) : Row :=
  ⟨item.1, item.2.getD [], e.grants c item⟩

theorem answer_row (e : Engine) (c : Caller) (resource query : Text) :
    (e.row c resource query).answer = .ok (e.rowOf c (resource, some query)) := by
  unfold row
  cases hquery : Invocation.ofQuery query with
  | error cause => simp [rowOf, grants, hquery]; rfl
  | ok i =>
    have hanswer : (e.canQuery c resource i).Answers :=
      ⟨_, answer_canQuery (Invocation.args_of_ofQuery hquery)⟩
    rw [Check.answer_bind, hanswer.answer_eq]
    simp [rowOf, grants, hquery]
    rfl

theorem answer_rows (e : Engine) (c : Caller) (resource : Text) (queries : List Text) :
    (e.rows c resource queries).answer =
      .ok (queries.map fun q => e.rowOf c (resource, some q)) := by
  induction queries with
  | nil => rfl
  | cons query rest ih =>
    rw [rows, Check.answer_bind, answer_row]
    show (e.rows c resource rest >>= _).answer = _
    rw [Check.answer_bind, ih]
    rfl

theorem answer_rowsFor (e : Engine) (c : Caller) (entry : Text × List Text) :
    (e.rowsFor c entry.1 entry.2).answer = .ok ((itemsOf entry).map (e.rowOf c)) := by
  unfold rowsFor itemsOf
  split
  · have haccess : (e.canAccess c entry.1).Answers := ⟨_, answer_canAccess e c entry.1⟩
    rw [Check.answer_bind, haccess.answer_eq]
    rfl
  · rw [answer_rows, List.map_map]
    rfl

/-- The answer to a bulk check has one row for each item, in order. -/
theorem answer_bulk (e : Engine) (c : Caller) (query : OrderedMap (List Text)) :
    (e.bulk c query).answer = .ok ((items query).map (e.rowOf c)) := by
  have hentries : ∀ entries : List (Text × List Text), (e.bulkEntries c entries).answer =
      .ok ((entries.flatMap itemsOf).map (e.rowOf c)) := by
    intro entries
    induction entries with
    | nil => rfl
    | cons entry rest ih =>
      rw [bulkEntries, Check.answer_bind, answer_rowsFor]
      show (e.bulkEntries c rest >>= _).answer = _
      rw [Check.answer_bind, ih, List.flatMap_cons, List.map_append]
      rfl
  exact hentries query.entries

end Engine

end RoleGate
