import Mathlib.Data.List.Forall2
import RoleGate.Proofs.Engine.Access
import RoleGate.Proofs.Engine.Congruence
import RoleGate.Proofs.Ruling.Order

/-!
# Decisions and the order of rules

No answer of an engine depends on the order in which tables have their rules, provided that no two
keys of a table have one normal form. The order of the tables of a resource does matter, and so does
that of the operations in a catalog for what fails first; both stay as they are here.

## Main definitions

* `Snapshot.Reordered`, `Source.Reordered` — tables with the same rules in other orders.

## Main statements

* `Engine.answers_of_reordered_rules` — answers do not depend on the order of rules.
-/

namespace RoleGate

/-- The tables have the same rules in other orders. -/
def Snapshot.Reordered (tables others : Snapshot) : Prop :=
  List.Forall₂ (fun t u => t.1 = u.1 ∧ t.2.entries.Perm u.2.entries) tables others

/-- Two look-ups of a table have the same outcome, or find tables with the same rules in other
orders, of whose keys no two have one normal form. -/
inductive RuleTable.FoundReordered :
    Except Error (Option RuleTable) → Except Error (Option RuleTable) → Prop where
  | same (x : Except Error (Option RuleTable)) : FoundReordered x x
  | reordered {t u : RuleTable} (hperm : t.entries.Perm u.entries)
      (hkeys : (t.keys.map Key.normalize).Nodup) : FoundReordered (.ok (some t)) (.ok (some u))

/-- The sources have the same catalogs, and the same tables with rules in other orders. -/
structure Source.Reordered (s t : Source) : Prop where
  operations : s.operations = t.operations
  table : ∀ id, RuleTable.FoundReordered (s.table id) (t.table id)

namespace Settings

variable {g : Settings} {c : Caller}

theorem admits_of_perm {roles others : List Text} (hperm : roles.Perm others) :
    g.admits c roles = g.admits c others := by
  rw [Bool.eq_iff_iff]
  exact ⟨admits_of_subset hperm.subset, admits_of_subset hperm.symm.subset⟩

end Settings

namespace Engine

variable {e f : Engine} {c : Caller} {i : Invocation} {tables others : Snapshot}

/-! ## Snapshots -/

theorem tablesOf_reordered {s t : Source} (h : s.Reordered t) (ids : List Text) :
    (∃ cause, tablesOf s ids = .error cause ∧ tablesOf t ids = .error cause) ∨
      ∃ tables others, tablesOf s ids = .ok tables ∧ tablesOf t ids = .ok others ∧
        Snapshot.Reordered tables others := by
  induction ids with
  | nil => exact .inr ⟨[], [], rfl, rfl, .nil⟩
  | cons id rest ih =>
    have htable := h.table id
    rw [tablesOf, tablesOf]
    generalize s.table id = x at htable ⊢
    generalize t.table id = y at htable ⊢
    obtain ⟨cause, hs, ht⟩ | ⟨tables, others, hs, ht, hrest⟩ := ih
    · refine .inl ?_
      rw [hs, ht]
      cases htable with
      | same x => cases x <;> exact ⟨_, rfl, rfl⟩
      | reordered => exact ⟨cause, rfl, rfl⟩
    · rw [hs, ht]
      cases htable with
      | same x =>
        cases x with
        | error cause => exact .inl ⟨cause, rfl, rfl⟩
        | ok found =>
          cases found with
          | none => exact .inr ⟨tables, others, rfl, rfl, hrest⟩
          | some t => exact .inr ⟨_, _, rfl, rfl, .cons ⟨rfl, .refl _⟩ hrest⟩
      | reordered hperm hkeys =>
        exact .inr ⟨_, _, rfl, rfl, .cons ⟨rfl, RuleTable.normalize_perm hkeys hperm⟩ hrest⟩

section

variable [Pattern.Machine]

/-- The tables consulted have rulings that differ in order only. -/
theorem reordered_rulingIn (h : Snapshot.Reordered tables others) (i : Invocation) :
    Ruling.Reordered i.args ((rulingIn i tables).answer.map (·.map Prod.snd))
      ((rulingIn i others).answer.map (·.map Prod.snd)) := by
  induction h with
  | nil => exact .refl _
  | @cons t u tables others hhead hrest ih =>
    have hrules : t.2.rules.Perm u.2.rules := hhead.2.map _
    have hresolve := Ruling.reordered_resolve (Ruling.distinct_rules t.2) hrules i.method i.args
      i.signature
    rw [answer_rulingIn_cons, answer_rulingIn_cons]
    generalize Ruling.resolve i.method i.args i.signature t.2.rules = x at hresolve ⊢
    generalize Ruling.resolve i.method i.args i.signature u.2.rules = y at hresolve ⊢
    cases hresolve with
    | failed cause other => exact .failed cause other
    | ruled roles keys kind => exact .ruled roles keys kind
    | noRule => exact ih

/-! ## Answers -/

/-- The engines have the same settings and resolvers, and sources that differ in the order of rules
only. -/
structure Reordered (e f : Engine) : Prop where
  settings : e.settings = f.settings
  resolver : e.resolver = f.resolver
  source : e.source.Reordered f.source

/-- What is allowed by a ruling does not depend on the order of rules. -/
theorem toOption_rulingIn_allows (h : Snapshot.Reordered tables others) (i : Invocation)
    (g : Settings) (c : Caller) :
    ((rulingIn i tables).answer.map fun found =>
        g.allows c (found.map fun t => t.2.roles)).toOption =
      ((rulingIn i others).answer.map fun found =>
        g.allows c (found.map fun t => t.2.roles)).toOption := by
  have hreordered := reordered_rulingIn h i
  generalize (rulingIn i tables).answer = x at hreordered ⊢
  generalize (rulingIn i others).answer = y at hreordered ⊢
  match x, y, hreordered with
  | .error _, .error _, _ => rfl
  | .ok none, .ok none, _ => rfl
  | .ok (some _), .ok (some _), .ruled roles _ _ =>
    exact congrArg some (Settings.admits_of_perm roles)

end

/-- What is asked of all entries of tables does not depend on the order of rules. -/
theorem any_entries_of_reordered (h : Snapshot.Reordered tables others)
    (p : Text × Value → Bool) :
    (tables.any fun t => t.2.entries.any p) = others.any fun t => t.2.entries.any p := by
  induction h with
  | nil => rfl
  | cons hhead hrest ih => rw [List.any_cons, List.any_cons, hhead.2.any_eq, ih]

theorem answer?_mayByTables_of_reordered (h : Snapshot.Reordered tables others)
    (hsettings : e.settings = f.settings) :
    (e.mayByTables c tables).answer? = (f.mayByTables c others).answer? := by
  have hcatchAll := any_entries_of_reordered h fun entry => (RuleKey.parse entry.1).isCatchAll
  have hroles := any_entries_of_reordered h fun entry =>
    f.settings.admits c (Roles.ofValue entry.2)
  rw [Check.answer?, Check.answer?, answer_mayByTables, answer_mayByTables, hsettings]
  simp only [keysOf, List.any_flatMap, OrderedMap.keys, mayByAnyRule, OrderedMap.values,
    List.any_map, Function.comp_def, hsettings, hcatchAll, hroles]

namespace Reordered

variable [Pattern.Machine] (h : Reordered e f) (c : Caller) (resource : Text)
include h

omit [Pattern.Machine] in
theorem snapshot :
    (∃ cause, e.snapshot resource = .error cause ∧ f.snapshot resource = .error cause) ∨
      ∃ tables others, e.snapshot resource = .ok tables ∧ f.snapshot resource = .ok others ∧
        Snapshot.Reordered tables others := by
  rw [Engine.snapshot, Engine.snapshot, h.resolver]
  cases f.resolver.candidates resource with
  | error cause => exact .inl ⟨cause, rfl, rfl⟩
  | ok ids => exact tablesOf_reordered h.source ids

theorem answer?_canInvoke (i : Invocation) :
    (e.canInvoke c resource i).answer? = (f.canInvoke c resource i).answer? := by
  rw [Check.answer?, Check.answer?, answer_canInvoke_eq_allows, answer_canInvoke_eq_allows,
    h.settings]
  obtain ⟨cause, he, hf⟩ | ⟨tables, others, he, hf, htables⟩ := h.snapshot resource
  · rw [he, hf]
  · rw [he, hf]
    exact toOption_rulingIn_allows htables i f.settings c

theorem answer?_canAccess :
    (e.canAccess c resource).answer? = (f.canAccess c resource).answer? := by
  rw [canAccess, canAccess, grounds, grounds, h.source.operations]
  obtain ⟨cause, he, hf⟩ | ⟨tables, others, he, hf, htables⟩ := h.snapshot resource
  · rw [he, hf]
    rfl
  · rw [he, hf]
    cases f.source.operations resource with
    | error cause => rfl
    | ok catalog =>
      cases catalog with
      | none => exact answer?_mayByTables_of_reordered htables h.settings
      | some operations =>
        refine Check.congruence_answer?.mayOperateAny (fun operation => ?_) operations
        rw [Check.answer?, Check.answer?, answer_mayOperate, answer_mayOperate, h.settings]
        cases Invocation.ofQuery operation with
        | error cause => rfl
        | ok i => exact toOption_rulingIn_allows htables i f.settings c

end Reordered

section

variable [Pattern.Machine]

/-- The order of the rules of a table shows in a ruling only as the order of what it lists, and, if
rules with argument lists decide untried, as the kind under which they do. No decision depends on
it. -/
theorem answers_of_reordered_rules :
    (∀ t u : RuleTable, (t.keys.map Key.normalize).Nodup → t.entries.Perm u.entries →
      ∀ method args signature,
        Ruling.Reordered args (Ruling.resolve method args signature t.normalize.rules)
          (Ruling.resolve method args signature u.normalize.rules)) ∧
    ∀ e f : Engine, Reordered e f → ∀ c,
      (∀ resource i, (e.canInvoke c resource i).answer? = (f.canInvoke c resource i).answer?) ∧
      (∀ resource, (e.canAccess c resource).answer? = (f.canAccess c resource).answer?) ∧
      ∀ query, (e.bulk c query).answer? = (f.bulk c query).answer? := by
  refine ⟨fun t u hkeys hperm method args signature => ?_, fun e f h c => ?_⟩
  · have hrules : t.normalize.rules.Perm u.normalize.rules :=
      (RuleTable.normalize_perm hkeys hperm).map _
    exact Ruling.reordered_resolve (Ruling.distinct_rules _) hrules method args signature
  · have hbulk := Check.congruence_answer?.bulk h.source.operations (h.answer?_canInvoke c)
      (h.answer?_canAccess c)
    exact ⟨h.answer?_canInvoke c, h.answer?_canAccess c, hbulk⟩

end

/-- Rules for one argument that decide together, one that is malformed, and two wildcards. -/
def stock : RuleTable :=
  .ofList [("put [/a|b/]", .text "audit"), ("put[\"a\"]", .text "desk, stock"),
    ("put[/(/]", .text "none"), ("p*", .text "guest"), ("put*", .text "admin")]

/-- The same rules, the last first. -/
def stockReversed : RuleTable where
  entries := stock.entries.reverse
  nodup_keys := by
    rw [List.map_reverse, List.nodup_reverse]
    exact stock.nodup_keys

/-- One table for every resource. -/
def stockDesk (t : RuleTable) : Engine where
  settings := ⟨false, none⟩
  resolver := .fixed ["stock"]
  source := .ofMaps (.ofList [("stock", t)]) .empty

/-- Two rules decide together, whichever comes first. -/
theorem answers_of_reversed_stock :
    (stock.keys.map Key.normalize).Nodup ∧ stock.entries.Perm stockReversed.entries ∧
      Ruling.Reordered (some [.text "a"])
        (Ruling.resolve "put" (some [.text "a"]) none stock.normalize.rules)
        (Ruling.resolve "put" (some [.text "a"]) none stockReversed.normalize.rules) ∧
      (stockDesk stock).Reordered (stockDesk stockReversed) ∧
      ((stockDesk stock).canInvoke ⟨"ann", ["audit"], .empty⟩ "r"
          ⟨"put", none, some [.text "a"]⟩).answer? =
        ((stockDesk stockReversed).canInvoke ⟨"ann", ["audit"], .empty⟩ "r"
          ⟨"put", none, some [.text "a"]⟩).answer? := by
  have hkeys : (stock.keys.map Key.normalize).Nodup := by decide +kernel
  have hperm : stock.entries.Perm stockReversed.entries := (List.reverse_perm _).symm
  have htables : (stockDesk stock).Reordered (stockDesk stockReversed) := by
    refine ⟨rfl, rfl, rfl, fun id => ?_⟩
    by_cases hid : id = "stock".toList
    · subst hid
      exact .reordered hperm hkeys
    · have hnone : ∀ t, (stockDesk t).source.table id = .ok none := by
        intro t
        have hlookup : ((OrderedMap.empty : OrderedMap RuleTable).insert "stock" t).get? id =
            none := by
          rw [OrderedMap.get?_insert, if_neg hid, OrderedMap.get?_empty]
        exact congrArg Except.ok hlookup
      rw [hnone, hnone]
      exact .same _
  obtain ⟨hrulings, hanswers⟩ := answers_of_reordered_rules
  exact ⟨hkeys, hperm, hrulings stock stockReversed hkeys hperm _ _ _, htables,
    (hanswers _ _ htables _).1 _ _⟩

end Engine

end RoleGate
