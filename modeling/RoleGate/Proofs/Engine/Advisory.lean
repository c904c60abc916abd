import RoleGate.Proofs.Engine.Decision
import RoleGate.Proofs.Ruling.Advisory

/-!
# Advisory checks

A check without arguments answers for all arguments: where rules with argument lists stand beside
plain rules, it refuses no caller that some call admits.

## Main definitions

* `Engine.Covered` — the shapes consulted in the tables of a resource have plain rules.

## Main statements

* `Engine.advisory_dominates` — advisory rulings and checks against those with arguments.
-/

namespace RoleGate.Engine

section

variable [Pattern.Machine] {e : Engine} {c : Caller} {resource : Text} {i : Invocation}
  {tables : Snapshot} {values : List Value}

/-- In each table that is consulted without arguments, the shapes that are consulted have a plain
rule if they have rules with an argument list. -/
def Covered (i : Invocation) (tables : Snapshot) : Prop :=
  ∀ before t after, tables = before ++ t :: after →
    (∀ u ∈ before, Ruling.resolve i.method none i.signature u.2.rules = .ok none) →
      Ruling.Covered i.method i.signature t.2.rules

theorem Covered.head {t : Text × RuleTable} (h : Covered i (t :: tables)) :
    Ruling.Covered i.method i.signature t.2.rules :=
  h [] t tables rfl (by simp)

theorem Covered.tail {t : Text × RuleTable} (h : Covered i (t :: tables))
    (hnone : Ruling.resolve i.method none i.signature t.2.rules = .ok none) :
    Covered i tables := by
  intro before u after htables hbefore
  exact h (t :: before) u after (by rw [htables, List.cons_append])
    (List.forall_mem_cons.2 ⟨hnone, hbefore⟩)

/-- Over tables that are covered, a ruling is found without arguments exactly if one is found with
them, and it grants at least the same roles. -/
theorem exists_advisory_rulingIn (hcovered : Covered i tables) {found : Option (Text × Ruling)}
    (h : (rulingIn { i with args := some values } tables).answer = .ok found) :
    ∃ advisory, (rulingIn { i with args := none } tables).answer = .ok advisory ∧
      (advisory = none ↔ found = none) ∧
      Ruling.rolesOf (found.map Prod.snd) ⊆ Ruling.rolesOf (advisory.map Prod.snd) := by
  induction tables with
  | nil =>
    cases h
    exact ⟨none, rfl, Iff.rfl, fun _ hrole => hrole⟩
  | cons t tables ih =>
    rw [answer_rulingIn_cons] at h ⊢
    cases hresolve : Ruling.resolve i.method (some values) i.signature t.2.rules with
    | error cause => simp [hresolve] at h
    | ok concrete =>
      simp only [hresolve] at h
      obtain ⟨advisory, hadvisory, hnone, hroles⟩ := hcovered.head.exists_advisory hresolve
      simp only [hadvisory]
      cases concrete with
      | some ruling =>
        cases h
        cases advisory with
        | some other => exact ⟨_, rfl, by simp, hroles⟩
        | none => exact absurd (hnone.1 rfl) (by simp)
      | none =>
        obtain rfl := hnone.2 rfl
        exact ih (hcovered.tail hadvisory) h

/-- Over tables that are covered, whoever is admitted with some arguments is admitted without. -/
theorem canInvoke_of_covered
    (hcovered : ∀ tables, e.snapshot resource = .ok tables → Covered i tables)
    (h : (e.canInvoke c resource { i with args := some values }).answer = .ok true) :
    (e.canInvoke c resource { i with args := none }).answer = .ok true := by
  obtain ⟨tables, htables, hdecision⟩ := answer_canInvoke_eq_true_iff.1 h
  refine answer_canInvoke_eq_true_iff.2 ⟨tables, htables, ?_⟩
  obtain ⟨hnone, hdefault⟩ | ⟨id, ruling, hruling, hadmits⟩ := hdecision
  · obtain ⟨advisory, hadvisory, hiff, -⟩ :=
      exists_advisory_rulingIn (hcovered tables htables) hnone
    obtain rfl := hiff.2 rfl
    exact .inl ⟨hadvisory, hdefault⟩
  · obtain ⟨advisory, hadvisory, hiff, hroles⟩ :=
      exists_advisory_rulingIn (hcovered tables htables) hruling
    cases advisory with
    | none => exact absurd (hiff.1 rfl) (by simp)
    | some other =>
      exact .inr ⟨other.1, other.2, hadvisory, Settings.admits_of_subset hroles hadmits⟩

open Ruling in
/-- The ruling without arguments against the ruling on any arguments, stage by stage. It is found at
the same stage and grants at least the same roles, or it is found earlier, by rules with argument
lists for a shape that has no plain rule. So where there are such plain rules, a check without
arguments refuses nobody whom some call admits. -/
theorem advisory_dominates (method : Text) (signature : Option (List Text)) :
    (∀ (rules : List Rule) (values : List Value) (concrete : Option Ruling),
      resolve method (some values) signature rules = .ok concrete →
        ∃ c a advisory, DecidedAt method (some values) signature rules c concrete ∧
          resolve method none signature rules = .ok advisory ∧
          DecidedAt method none signature rules a advisory ∧
          a.number ≤ c.number ∧
          (a = c → (advisory = none ↔ concrete = none) ∧ rolesOf concrete ⊆ rolesOf advisory) ∧
          (a.number < c.number → (a = .overload ∨ a = .method) ∧
            ∃ s, a.shape? method signature = some s ∧
              HasBracketed s rules ∧ ¬ HasPlain s rules)) ∧
    ∀ (e : Engine) (c : Caller) (resource : Text) (values : List Value),
      (∀ tables, e.snapshot resource = .ok tables → Covered ⟨method, signature, none⟩ tables) →
        (e.canInvoke c resource ⟨method, signature, some values⟩).answer = .ok true →
          (e.canInvoke c resource ⟨method, signature, none⟩).answer = .ok true := by
  refine ⟨fun rules values concrete h => ?_, fun e c resource values hcovered h => ?_⟩
  · obtain ⟨c, hc⟩ := resolve_eq_ok_iff.1 h
    obtain ⟨a, advisory, ha, hle, hsame, hearlier⟩ := exists_advisory_stage hc
    refine ⟨c, a, advisory, hc, resolve_eq_ok_iff.2 ⟨a, ha⟩, ha, hle, hsame, fun hlt => ?_⟩
    obtain ⟨s, hshape, hrules⟩ := hearlier hlt
    refine ⟨?_, s, hshape, hrules⟩
    cases a with
    | overload => exact .inl rfl
    | method => exact .inr rfl
    | wildcard | noRule => cases hshape
  · exact canInvoke_of_covered hcovered h

end

/-- Orders with a rule for one argument, one for others that is malformed, and one for all. -/
def orders : RuleTable :=
  .ofList [("put[\"a\"]", .text "stock"), ("put[/b", .text "audit"), ("put", .text "desk")]

/-- The orders with a wildcard in place of the rule for all arguments. -/
def ordersWithoutPlain : RuleTable :=
  (orders.erase "put").insert "*" (.text "admin")

/-- One table of orders for every resource. -/
def orderDesk : Engine where
  settings := ⟨false, none⟩
  resolver := .fixed ["orders"]
  source := .ofMaps (.ofList [("orders", orders)]) .empty

open Ruling in
/-- Without the plain rule an argument that no rule accepts goes on to the wildcard. With it, who
may put one argument may put without arguments. -/
theorem advisory_dominates_of_orders :
    (∃ c a advisory,
      DecidedAt "put" (some [.text "c"]) none ordersWithoutPlain.rules c
          (some ⟨["admin"], .wildcard, ["*"]⟩) ∧
        DecidedAt "put" none none ordersWithoutPlain.rules a advisory ∧ a.number ≤ c.number) ∧
      (orderDesk.canInvoke ⟨"ann", ["stock"], .empty⟩ "r" ⟨"put", none, none⟩).answer =
        .ok true := by
  obtain ⟨hstages, hcheck⟩ := advisory_dominates "put" none
  refine ⟨?_, hcheck orderDesk _ _ [.text "a"] ?_ (by decide +kernel)⟩
  · obtain ⟨c, a, advisory, hc, -, ha, hle, -⟩ := hstages ordersWithoutPlain.rules [.text "c"]
      (some ⟨["admin"], .wildcard, ["*"]⟩) (by decide +kernel)
    exact ⟨c, a, advisory, hc, ha, hle⟩
  · intro tables htables before t after hsplit _ stage s _ hshape _
    have hplain : (orderDesk.snapshot "r").toOption.all (fun tables =>
        tables.all fun t => t.2.rules.any (isPlainFor ⟨"put", none⟩)) = true := by
      decide +kernel
    rw [htables, hsplit] at hplain
    have ht : t.2.rules.any (isPlainFor ⟨"put", none⟩) = true :=
      List.all_eq_true.1 hplain t (by simp)
    cases stage with
    | overload | wildcard | noRule => cases hshape
    | method =>
      cases hshape
      exact List.any_eq_true.1 ht

end RoleGate.Engine
