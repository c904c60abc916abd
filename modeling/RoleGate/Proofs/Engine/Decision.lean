import RoleGate.Engine.Decision
import RoleGate.Proofs.Outcome

/-!
# Decisions on invocations

A caller is admitted by single roles, so more roles admit no fewer callers. An invocation is decided
by the first table of the resource that has a ruling, and by default if no table has one.

## Main statements

* `Settings.admits_iff` — which roles admit a caller.
* `Engine.answer_rulingIn_eq_some_iff` — which table decides.
* `Engine.answer_canInvoke_eq_true_iff` — when an invocation is allowed.
-/

namespace RoleGate

namespace Settings

variable {g : Settings} {c : Caller} {roles others : List Text}

theorem admits_iff :
    g.admits c roles = true ↔
      ∃ role ∈ roles, g.roleWildcard = some role ∨ c.hasRole role = true := by
  rw [admits, Bool.or_eq_true, Option.any_eq_true, Caller.hasAnyRole, List.any_eq_true]
  constructor
  · rintro (⟨role, hwildcard, hrole⟩ | ⟨role, hrole, hhas⟩)
    · exact ⟨role, List.contains_iff_mem.1 hrole, .inl hwildcard⟩
    · exact ⟨role, hrole, .inr hhas⟩
  · rintro ⟨role, hrole, hwildcard | hhas⟩
    · exact .inl ⟨role, hwildcard, List.contains_iff_mem.2 hrole⟩
    · exact .inr ⟨role, hrole, hhas⟩

theorem admits_of_subset (hsub : roles ⊆ others) (h : g.admits c roles = true) :
    g.admits c others = true := by
  obtain ⟨role, hrole, hadmits⟩ := admits_iff.1 h
  exact admits_iff.2 ⟨role, hsub hrole, hadmits⟩

/-- Who is admitted by roles from several rules is admitted by those of one rule. -/
theorem admits_flatMap_iff {α : Type} {rolesOf : α → List Text} {xs : List α} :
    g.admits c (xs.flatMap rolesOf) = true ↔ ∃ x ∈ xs, g.admits c (rolesOf x) = true := by
  simp only [admits_iff, List.mem_flatMap]
  constructor
  · rintro ⟨role, ⟨x, hx, hrole⟩, hadmits⟩
    exact ⟨x, hx, role, hrole, hadmits⟩
  · rintro ⟨x, hx, role, hrole, hadmits⟩
    exact ⟨role, ⟨x, hx, hrole⟩, hadmits⟩

/-- The decision on what needs one of some roles, or on what no rule is for. -/
def allows (g : Settings) (c : Caller) : Option (List Text) → Bool
  | none => g.defaultAllow
  | some roles => g.admits c roles

end Settings

namespace Engine

variable {e : Engine} {c : Caller} {resource id : Text} {i : Invocation} {tables : Snapshot}
  {ruling : Ruling}

section

variable [Pattern.Machine]

/-! ## The deciding table -/

@[simp] theorem answer_rulingIn_nil : (rulingIn i []).answer = .ok none := rfl

theorem answer_rulingIn_cons (t : Text × RuleTable) :
    (rulingIn i (t :: tables)).answer =
      match Ruling.resolve i.method i.args i.signature t.2.rules with
      | .error cause => .error cause
      | .ok (some ruling) => .ok (some (t.1, ruling))
      | .ok none => (rulingIn i tables).answer := by
  rw [rulingIn, Check.answer_bind, Check.answer_readingKeys]
  cases Ruling.resolve i.method i.args i.signature t.2.rules with
  | error cause => rfl
  | ok found => cases found <;> rfl

/-- No table decides exactly if no table has a ruling. -/
theorem answer_rulingIn_eq_none_iff :
    (rulingIn i tables).answer = .ok none ↔
      ∀ t ∈ tables, Ruling.resolve i.method i.args i.signature t.2.rules = .ok none := by
  induction tables with
  | nil => simp
  | cons t tables ih =>
    rw [answer_rulingIn_cons, List.forall_mem_cons, ← ih]
    split <;> simp_all

/-- The first table that has a ruling, or fails to have an outcome, settles the matter. -/
theorem answer_rulingIn_eq_iff {x : Except Error (Option (Text × Ruling))} (hx : x ≠ .ok none) :
    (rulingIn i tables).answer = x ↔
      ∃ before t after, tables = before ++ t :: after ∧
        (∀ t ∈ before, Ruling.resolve i.method i.args i.signature t.2.rules = .ok none) ∧
        (Ruling.resolve i.method i.args i.signature t.2.rules).map (·.map (t.1, ·)) = x := by
  induction tables with
  | nil => simpa using Ne.symm hx
  | cons t tables ih =>
    rw [answer_rulingIn_cons, exists_first_cons_iff, ← ih]
    cases Ruling.resolve i.method i.args i.signature t.2.rules with
    | error cause => simp [Except.map]
    | ok found => cases found <;> simp [Except.map, hx.symm]

/-- The first table that has a ruling decides. -/
theorem answer_rulingIn_eq_some_iff :
    (rulingIn i tables).answer = .ok (some (id, ruling)) ↔
      ∃ before table after, tables = before ++ (id, table) :: after ∧
        (∀ t ∈ before, Ruling.resolve i.method i.args i.signature t.2.rules = .ok none) ∧
        Ruling.resolve i.method i.args i.signature table.rules = .ok (some ruling) := by
  rw [answer_rulingIn_eq_iff (by simp)]
  constructor
  · rintro ⟨before, ⟨found, table⟩, after, rfl, hbefore, hfound⟩
    cases hresolve : Ruling.resolve i.method i.args i.signature table.rules with
    | error cause => simp [hresolve, Except.map] at hfound
    | ok outcome =>
      obtain ⟨rfl, rfl⟩ : outcome = some ruling ∧ found = id := by
        cases outcome <;> simp_all [Except.map]
      exact ⟨before, table, after, rfl, hbefore, hresolve⟩
  · rintro ⟨before, table, after, htables, hbefore, hresolve⟩
    exact ⟨before, (id, table), after, htables, hbefore, by rw [hresolve]; rfl⟩

/-- Tables that stand behind others matter only if none of these has a ruling. -/
theorem answer_rulingIn_append (tables others : Snapshot) :
    (rulingIn i (tables ++ others)).answer =
      match (rulingIn i tables).answer with
      | .error cause => .error cause
      | .ok (some found) => .ok (some found)
      | .ok none => (rulingIn i others).answer := by
  induction tables with
  | nil => rfl
  | cons t tables ih =>
    rw [List.cons_append, answer_rulingIn_cons, answer_rulingIn_cons, ih]
    cases Ruling.resolve i.method i.args i.signature t.2.rules with
    | error cause => rfl
    | ok found => cases found <;> rfl

/-- Tables with the same outcomes decide alike. -/
theorem answer_rulingIn_map {change : Text × RuleTable → RuleTable}
    (h : ∀ t ∈ tables, Ruling.resolve i.method i.args i.signature (change t).rules =
      Ruling.resolve i.method i.args i.signature t.2.rules) :
    (rulingIn i (tables.map fun t => (t.1, change t))).answer = (rulingIn i tables).answer := by
  induction tables with
  | nil => rfl
  | cons t tables ih =>
    obtain ⟨ht, hrest⟩ := List.forall_mem_cons.1 h
    rw [List.map_cons, answer_rulingIn_cons, answer_rulingIn_cons, ht, ih hrest]

end

/-! ## Tables of a resource -/

theorem tablesOf_cons (source : Source) (id : Text) (ids : List Text) :
    tablesOf source (id :: ids) =
      match (source.table id).map (·.map RuleTable.normalize) with
      | .error cause => .error cause
      | .ok found => (tablesOf source ids).map ((found.map (id, ·)).toList ++ ·) := by
  rw [tablesOf]
  cases source.table id with
  | error cause => rfl
  | ok found => cases tablesOf source ids <;> cases found <;> rfl

/-- Tables are looked up together if they can be looked up one after the other. -/
theorem tablesOf_cons_eq_ok_iff {source : Source} {ids : List Text} :
    tablesOf source (id :: ids) = .ok tables ↔
      ∃ found others, source.table id = .ok found ∧ tablesOf source ids = .ok others ∧
        tables = (found.map fun t => (id, t.normalize)).toList ++ others := by
  rw [tablesOf_cons]
  cases source.table id with
  | error cause => simp [Except.map]
  | ok found =>
    cases tablesOf source ids with
    | error cause => simp [Except.map]
    | ok others => cases found <;> simp [Except.map, eq_comm]

theorem tablesOf_append_eq_ok_iff {source : Source} {ids others : List Text} :
    tablesOf source (ids ++ others) = .ok tables ↔
      ∃ front rest, tablesOf source ids = .ok front ∧ tablesOf source others = .ok rest ∧
        tables = front ++ rest := by
  induction ids generalizing tables with
  | nil => simp [tablesOf]
  | cons id ids ih =>
    simp only [List.cons_append, tablesOf_cons_eq_ok_iff, ih]
    constructor
    · rintro ⟨found, -, htable, ⟨front, rest, hfront, hrest, rfl⟩, rfl⟩
      exact ⟨_, rest, ⟨found, front, htable, hfront, rfl⟩, hrest, (List.append_assoc _ _ _).symm⟩
    · rintro ⟨-, rest, ⟨found, front, htable, hfront, rfl⟩, hrest, rfl⟩
      exact ⟨found, _, htable, ⟨front, rest, hfront, hrest, rfl⟩, List.append_assoc _ _ _⟩

theorem tablesOf_congr {s t : Source} {ids : List Text} (h : ∀ id ∈ ids, s.table id = t.table id) :
    tablesOf s ids = tablesOf t ids := by
  induction ids with
  | nil => rfl
  | cons id ids ih =>
    obtain ⟨hid, hrest⟩ := List.forall_mem_cons.1 h
    rw [tablesOf_cons, tablesOf_cons, hid, ih hrest]

/-- All look-ups succeed, or there are no tables at all. -/
theorem exists_tablesOf_iff {source : Source} {ids : List Text} :
    (∃ tables, tablesOf source ids = .ok tables) ↔
      ∀ id ∈ ids, ∃ found, source.table id = .ok found := by
  induction ids with
  | nil => simp [tablesOf]
  | cons id ids ih =>
    rw [tablesOf_cons, List.forall_mem_cons, ← ih]
    cases source.table id with
    | error cause => simp [Except.map]
    | ok found => cases tablesOf source ids <;> simp [Except.map]

/-- If the normal forms of tables are changed, they are changed where the tables are looked up. -/
theorem tablesOf_map {s t : Source} (change : Text × RuleTable → RuleTable)
    (htable : ∀ id, (t.table id).map (·.map RuleTable.normalize) =
      (s.table id).map (·.map fun u => change (id, u.normalize))) (ids : List Text) :
    tablesOf t ids = (tablesOf s ids).map (List.map fun u => (u.1, change u)) := by
  induction ids with
  | nil => rfl
  | cons id rest ih =>
    rw [tablesOf_cons, tablesOf_cons, htable, ih]
    cases s.table id with
    | error cause => rfl
    | ok found => cases tablesOf s rest <;> cases found <;> rfl

/-- The tables of a snapshot are found under their ids and put into normal form. -/
theorem of_mem_tablesOf {source : Source} {ids : List Text} {t : Text × RuleTable}
    (htables : tablesOf source ids = .ok tables) (ht : t ∈ tables) :
    t.1 ∈ ids ∧ ∃ written, source.table t.1 = .ok (some written) ∧ t.2 = written.normalize := by
  induction ids generalizing tables with
  | nil =>
    cases htables
    cases ht
  | cons id rest ih =>
    obtain ⟨found, others, htable, hrest, rfl⟩ := tablesOf_cons_eq_ok_iff.1 htables
    obtain hfound | hothers := List.mem_append.1 ht
    · obtain ⟨written, rfl, rfl⟩ := by simpa using hfound
      exact ⟨List.mem_cons_self, written, htable, rfl⟩
    · exact (ih hrest hothers).imp_left (List.mem_cons_of_mem _)

theorem snapshot_of_candidates {ids : List Text} (h : e.resolver.candidates resource = .ok ids) :
    e.snapshot resource = tablesOf e.source ids := by
  rw [snapshot, h]
  rfl

variable [Pattern.Machine]

/-! ## The decision -/

theorem answer_requiredRoles (e : Engine) (resource : Text) (i : Invocation) :
    (e.requiredRoles resource i).answer =
      match e.snapshot resource with
      | .error cause => .error cause
      | .ok tables => (rulingIn i tables).answer.map fun found => found.map fun t => t.2.roles := by
  rw [requiredRoles, Check.answer_bind, Check.answer_ofExcept]
  cases e.snapshot resource with
  | error cause => rfl
  | ok tables =>
    show (rulingIn i tables >>= _).answer = (rulingIn i tables).answer.map _
    rw [Check.answer_bind]
    cases (rulingIn i tables).answer <;> rfl

theorem answer_judge (e : Engine) (c : Caller) (resource : Text) (i : Invocation) :
    (e.judge c resource i).answer =
      match e.snapshot resource with
      | .error cause => .ok (failed resource cause)
      | .ok tables =>
        (rulingIn i tables).answer.map fun found =>
          match found with
          | none => e.undecided resource i.method (tables.map Prod.fst)
          | some (table, ruling) => e.ruled c i.method (tables.map Prod.fst) table ruling := by
  rw [judge]
  cases e.snapshot resource with
  | error cause => rfl
  | ok tables =>
    simp only [judgeIn, Check.answer_bind]
    cases (rulingIn i tables).answer with
    | error cause => rfl
    | ok found => cases found <;> rfl

/-- What a decision that rests on a ruling was made from. -/
theorem exists_of_judge_ruling {j : Judgement} (hj : (e.judge c resource i).answer = .ok j)
    (hbasis : j.basis = .ruling ruling id) :
    ∃ tables, e.snapshot resource = .ok tables ∧
      (rulingIn i tables).answer = .ok (some (id, ruling)) ∧
      j = e.ruled c i.method (tables.map Prod.fst) id ruling := by
  rw [answer_judge] at hj
  split at hj
  · cases hj
    cases hbasis
  · next tables hsnapshot =>
    cases hfound : (rulingIn i tables).answer with
    | error cause =>
      rw [hfound] at hj
      cases hj
    | ok found =>
      rw [hfound] at hj
      cases hj
      cases found with
      | none => cases hbasis
      | some found =>
        cases hbasis
        exact ⟨tables, hsnapshot, hfound, rfl⟩

theorem answer_canInvoke (e : Engine) (c : Caller) (resource : Text) (i : Invocation) :
    (e.canInvoke c resource i).answer =
      match e.snapshot resource with
      | .error _ => .ok false
      | .ok tables =>
        (rulingIn i tables).answer.map fun found =>
          match found with
          | none => e.settings.defaultAllow
          | some (_, ruling) => e.settings.admits c ruling.roles := by
  rw [canInvoke, Check.answer_bind, answer_judge]
  cases e.snapshot resource with
  | error cause => rfl
  | ok tables =>
    dsimp only
    cases (rulingIn i tables).answer with
    | error cause => rfl
    | ok found => cases found <;> rfl

/-- The decision is made from the roles that are required. -/
theorem answer_canInvoke_eq_allows (e : Engine) (c : Caller) (resource : Text) (i : Invocation) :
    (e.canInvoke c resource i).answer =
      match e.snapshot resource with
      | .error _ => .ok false
      | .ok tables =>
        (rulingIn i tables).answer.map fun found =>
          e.settings.allows c (found.map fun t => t.2.roles) := by
  have hallows : ∀ found : Option (Text × Ruling),
      (match found with
        | none => e.settings.defaultAllow
        | some (_, ruling) => e.settings.admits c ruling.roles) =
      e.settings.allows c (found.map fun t => t.2.roles) := by
    rintro (_ | _) <;> rfl
  simp only [answer_canInvoke, hallows]

/-- An invocation is allowed by the ruling of the deciding table, or by default if no table has a
ruling. -/
theorem answer_canInvoke_eq_true_iff :
    (e.canInvoke c resource i).answer = .ok true ↔
      ∃ tables, e.snapshot resource = .ok tables ∧
        ((rulingIn i tables).answer = .ok none ∧ e.settings.defaultAllow = true ∨
          ∃ id ruling, (rulingIn i tables).answer = .ok (some (id, ruling)) ∧
            e.settings.admits c ruling.roles = true) := by
  rw [answer_canInvoke]
  cases e.snapshot resource with
  | error cause => simp
  | ok tables =>
    cases hfound : (rulingIn i tables).answer with
    | error cause => simp [hfound, Except.map]
    | ok found =>
      cases found with
      | none => simp [hfound, Except.map]
      | some found =>
        obtain ⟨id, ruling⟩ := found
        simp [hfound, Except.map, and_assoc]

end Engine

end RoleGate
