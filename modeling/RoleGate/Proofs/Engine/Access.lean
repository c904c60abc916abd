import RoleGate.Engine.Access
import RoleGate.Proofs.Engine.Decision
import RoleGate.Proofs.Ruling.Stage

/-!
# Access to a resource

Without a catalog the check of a resource looks for a catch-all wildcard and at all roles that the
tables name. It allows whoever may make some invocation: where there is a catch-all no invocation is
decided by default, and whoever a ruling admits is admitted by the roles of one rule.

## Main statements

* `Engine.answer_mayByTables` — the check of a resource without a catalog.
* `Engine.canAccess_of_canInvoke` — the check allows whoever may make some invocation.
-/

namespace RoleGate.Engine

variable {e : Engine} {c : Caller} {resource : Text} {i : Invocation} {tables : Snapshot}

section

variable [Pattern.Machine]

/-- What an entry of a catalog stands for is decided from the roles that it requires. -/
theorem answer_mayOperate (e : Engine) (c : Caller) (resource : Text) (tables : Snapshot)
    (operation : Text) :
    (e.mayOperate c resource tables operation).answer =
      match Invocation.ofQuery operation with
      | .error _ => .ok false
      | .ok i =>
        (rulingIn i tables).answer.map fun found =>
          e.settings.allows c (found.map fun t => t.2.roles) := by
  rw [mayOperate]
  cases Invocation.ofQuery operation with
  | error cause => rfl
  | ok i =>
    simp only [Check.answer_bind]
    cases (rulingIn i tables).answer with
    | error cause => rfl
    | ok found => cases found <;> rfl

end

theorem searchCatchAll_eq (keys : List Text) :
    (searchCatchAll keys).2 = keys.any fun key => (RuleKey.parse key).isCatchAll := by
  induction keys with
  | nil => rfl
  | cons key keys ih =>
    rw [searchCatchAll, List.any_cons]
    split
    · next hfound => simp [hfound]
    · next hfound => simpa [hfound] using ih

theorem answer_hasCatchAll (tables : Snapshot) :
    (hasCatchAll tables).answer =
      .ok ((keysOf tables).any fun key => (RuleKey.parse key).isCatchAll) := by
  rw [← searchCatchAll_eq]
  rfl

/-- Without a catalog a caller may do something by default if some method may be without a rule, and
otherwise by a role of some rule. -/
theorem answer_mayByTables (e : Engine) (c : Caller) (tables : Snapshot) :
    (e.mayByTables c tables).answer = .ok (
      e.settings.defaultAllow && !((keysOf tables).any fun key => (RuleKey.parse key).isCatchAll) ||
        e.mayByAnyRule c tables) := by
  unfold mayByTables
  cases tables with
  | nil => simp [keysOf, mayByAnyRule]
  | cons t tables =>
    rw [if_neg (by simp), Check.answer_bind, answer_hasCatchAll, Bool.and_comm]
    simp only [bind, Except.bind]
    split
    · next h => rw [h, Bool.true_or, Check.answer_pure]
    · next h => rw [Bool.eq_false_iff.2 h, Bool.false_or, Check.answer_pure]

theorem grounds_eq_ok_iff {catalog : Option (List Text)} :
    e.grounds resource = .ok (tables, catalog) ↔
      e.snapshot resource = .ok tables ∧ e.source.operations resource = .ok catalog := by
  simp only [grounds, except_bind_eq_ok_iff]
  constructor
  · rintro ⟨found, htables, listed, hcatalog, ⟨⟩⟩
    exact ⟨htables, hcatalog⟩
  · rintro ⟨htables, hcatalog⟩
    exact ⟨tables, htables, catalog, hcatalog, rfl⟩

section

variable [Pattern.Machine]

/-- If some table has a catch-all wildcard, no invocation is decided by default. -/
theorem answer_rulingIn_ne_none
    (h : ((keysOf tables).any fun key => (RuleKey.parse key).isCatchAll) = true) :
    (rulingIn i tables).answer ≠ .ok none := by
  obtain ⟨key, hkey, hcatchAll⟩ := List.any_eq_true.1 h
  obtain ⟨t, ht, hkey⟩ := List.mem_flatMap.1 hkey
  obtain ⟨entry, hentry, rfl⟩ := List.mem_map.1 hkey
  intro hnone
  exact Ruling.resolve_ne_none_of_catchAll (List.mem_map_of_mem hentry) hcatchAll
    (answer_rulingIn_eq_none_iff.1 hnone t ht)

/-- Whoever a ruling admits is admitted by the roles of one of the rules of the tables. -/
theorem mayByAnyRule_of_admits {id : Text} {ruling : Ruling}
    (hruling : (rulingIn i tables).answer = .ok (some (id, ruling)))
    (hadmits : e.settings.admits c ruling.roles = true) : e.mayByAnyRule c tables = true := by
  obtain ⟨before, table, after, rfl, -, hresolve⟩ := answer_rulingIn_eq_some_iff.1 hruling
  obtain ⟨kind, chosen, hchosen, rfl⟩ := Ruling.madeOf_resolve hresolve
  obtain ⟨r, hr, hadmits⟩ := Settings.admits_flatMap_iff.1 hadmits
  obtain ⟨entry, hentry, rfl⟩ := List.mem_map.1 (hchosen hr)
  refine List.any_eq_true.2 ⟨(id, table), by simp, ?_⟩
  exact List.any_eq_true.2 ⟨entry.2, List.mem_map_of_mem hentry, hadmits⟩

/-- Without a catalog a resource is open to whoever may make some invocation on it, with whatever
method, arguments and overload. -/
theorem canAccess_of_canInvoke (hcatalog : e.source.operations resource = .ok none)
    (h : (e.canInvoke c resource i).answer = .ok true) :
    (e.canAccess c resource).answer = .ok true := by
  obtain ⟨tables, htables, hdecision⟩ := answer_canInvoke_eq_true_iff.1 h
  rw [canAccess, grounds_eq_ok_iff.2 ⟨htables, hcatalog⟩]
  show (e.mayByTables c tables).answer = .ok true
  rw [answer_mayByTables]
  obtain ⟨hnone, hdefault⟩ | ⟨id, ruling, hruling, hadmits⟩ := hdecision
  · rw [hdefault, Bool.eq_false_iff.2 fun hcatchAll =>
      answer_rulingIn_ne_none hcatchAll hnone]
    rfl
  · rw [mayByAnyRule_of_admits hruling hadmits, Bool.or_true]

end

/-- Orders of a shop have a table of their own beside that of the shop, whose wildcard covers every
method. -/
def shop : Engine where
  settings := ⟨true, some "everyone"⟩
  resolver := .management []
  source := .ofMaps
    (.ofList [
      ("shop.order", .ofList
        [("put [ \"a\" ]", .text "stock"), ("put[/a|b/]", .text "audit, desk")]),
      ("shop", .ofList [(" * ", .text "admin")])])
    .empty

/-- Two rules of the table of orders are merged, and one of them admits the caller. -/
theorem canAccess_of_merged_rules :
    shop.source.operations "shop:type=order" = .ok none ∧
      (shop.canInvoke ⟨"ann", ["desk"], .empty⟩ "shop:type=order"
        ⟨"put", none, some [.text "a"]⟩).answer = .ok true ∧
      (shop.canAccess ⟨"ann", ["desk"], .empty⟩ "shop:type=order").answer = .ok true := by
  have hcatalog : shop.source.operations "shop:type=order" = .ok none := rfl
  have hinvoke : (shop.canInvoke ⟨"ann", ["desk"], .empty⟩ "shop:type=order"
      ⟨"put", none, some [.text "a"]⟩).answer = .ok true := by decide +kernel
  exact ⟨hcatalog, hinvoke, canAccess_of_canInvoke hcatalog hinvoke⟩

end RoleGate.Engine
