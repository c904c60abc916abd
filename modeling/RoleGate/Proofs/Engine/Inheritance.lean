import RoleGate.Proofs.Engine.Decision
import RoleGate.Proofs.Resource.Name

/-!
# Rules of the parent

An object name with one more key property is governed by one more table, which stands before those
of the name without the property. So what that table is silent about is decided as for the name
without the property, and what it has a rule for is decided by it alone.

## Main definitions

* `Engine.Silent` — no rule for an invocation under a table id.

## Main statements

* `Engine.rulings_of_silent` — a silent table does not matter.
* `Engine.inherits_rules` — what a name with one more key property inherits.
-/

namespace RoleGate.Engine

section

variable [Pattern.Machine] {e : Engine} {c : Caller} {resource other id : Text} {i : Invocation}
  {ids : List Text} {ruling : Ruling}

/-- The table with the id has no rule for the invocation, or there is no such table. -/
def Silent (e : Engine) (id : Text) (i : Invocation) : Prop :=
  ∃ found, e.source.table id = .ok found ∧ ∀ t ∈ found,
    Ruling.resolve i.method i.args i.signature t.normalize.rules = .ok none

/-- A silent table does not matter to those behind it. -/
theorem rulings_of_silent (h : e.Silent id i) (ids : List Text) :
    (tablesOf e.source (id :: ids)).map (fun tables => (rulingIn i tables).answer) =
      (tablesOf e.source ids).map fun tables => (rulingIn i tables).answer := by
  obtain ⟨found, htable, hsilent⟩ := h
  rw [tablesOf_cons, htable]
  cases tablesOf e.source ids with
  | error cause => rfl
  | ok tables =>
    cases found with
    | none => rfl
    | some t =>
      show Except.ok (rulingIn i ((id, t.normalize) :: tables)).answer = _
      rw [answer_rulingIn_cons, hsilent t rfl]
      rfl

/-- What is required and what is allowed depends on the rulings only. -/
theorem answers_of_rulings
    (h : (e.snapshot other).map (fun tables => (rulingIn i tables).answer) =
      (e.snapshot resource).map fun tables => (rulingIn i tables).answer) :
    (e.requiredRoles other i).answer = (e.requiredRoles resource i).answer ∧
      ∀ c, (e.canInvoke c other i).answer = (e.canInvoke c resource i).answer := by
  simp only [answer_requiredRoles, answer_canInvoke_eq_allows]
  cases hother : e.snapshot other <;> cases hresource : e.snapshot resource <;>
    simp_all [Except.map]

theorem answers_of_ruling {tables : Snapshot} (hsnapshot : e.snapshot resource = .ok tables)
    (hfound : (rulingIn i tables).answer = .ok (some (id, ruling))) :
    (e.requiredRoles resource i).answer = .ok (some ruling.roles) ∧
      ∀ c, (e.canInvoke c resource i).answer = .ok (e.settings.admits c ruling.roles) := by
  simp only [answer_requiredRoles, answer_canInvoke_eq_allows, hsnapshot, hfound]
  exact ⟨rfl, fun _ => rfl⟩

/-- A name with one more key property has the table ids of the name without it, and before them the
first of these extended by the value. If the table with this id is silent, the decision is the one
for the name without the property. If it has a ruling, this is the decision, whatever the other
tables say. -/
theorem inherits_rules (beginning name key value : Text)
    (hname : (Resolver.management beginning).candidates name = .ok ids)
    (hkey : Resolver.IsPropertyKey key) (hvalue : ',' ∉ value) :
    ∃ id rest, ids = id :: rest ∧
      (Resolver.management beginning).candidates (Resolver.withProperty name key value) =
        .ok ((id ++ '.' :: Text.trim value) :: ids) ∧
      ∀ e : Engine, e.resolver = .management beginning → ∀ i,
        (e.Silent (id ++ '.' :: Text.trim value) i →
          (e.requiredRoles (Resolver.withProperty name key value) i).answer =
            (e.requiredRoles name i).answer ∧
          ∀ c, (e.canInvoke c (Resolver.withProperty name key value) i).answer =
            (e.canInvoke c name i).answer) ∧
        ∀ t ruling, (∀ other ∈ ids, ∃ found, e.source.table other = .ok found) →
          e.source.table (id ++ '.' :: Text.trim value) = .ok (some t) →
          Ruling.resolve i.method i.args i.signature t.normalize.rules = .ok (some ruling) →
          (e.requiredRoles (Resolver.withProperty name key value) i).answer =
            .ok (some ruling.roles) ∧
          ∀ c, (e.canInvoke c (Resolver.withProperty name key value) i).answer =
            .ok (e.settings.admits c ruling.roles) := by
  obtain ⟨id, rest, hids, hcandidates⟩ := Resolver.candidates_withProperty hname hkey hvalue
  refine ⟨id, rest, hids, hcandidates, fun e hresolver i => ?_⟩
  rw [← hresolver] at hname hcandidates
  refine ⟨fun hsilent => ?_, ?_⟩
  · refine answers_of_rulings ?_
    rw [snapshot_of_candidates hname, snapshot_of_candidates hcandidates]
    exact rulings_of_silent hsilent ids
  · intro t ruling hfound htable hruling
    obtain ⟨tables, htables⟩ := exists_tablesOf_iff.2 hfound
    have hsnapshot : e.snapshot (Resolver.withProperty name key value) =
        .ok ((id ++ '.' :: Text.trim value, t.normalize) :: tables) := by
      rw [snapshot_of_candidates hcandidates, tablesOf_cons, htable, htables]
      rfl
    exact answers_of_ruling hsnapshot (by rw [answer_rulingIn_cons, hruling])

end

/-- A mill with a rule for its stones and another for the northern one. -/
def mill : Engine where
  settings := {}
  resolver := .management "acl"
  source := .ofMaps
    (.ofList [
      ("acl.mill.stone.north", .ofList [("lift", .text "smith")]),
      ("acl.mill.stone", .ofList [("*", .text "miller")])])
    .empty

/-- The northern stone is lifted by the smith and otherwise the miller's, as all stones. -/
theorem inherits_rules_of_mill :
    (Resolver.management "acl").candidates "mill:type=stone" =
        .ok ["acl.mill.stone", "acl.mill"] ∧
      Resolver.withProperty "mill:type=stone" "name" " north " =
        "mill:type=stone,name= north ".toList ∧
      (mill.requiredRoles "mill:type=stone,name= north " ⟨"turn", none, none⟩).answer =
        (mill.requiredRoles "mill:type=stone" ⟨"turn", none, none⟩).answer ∧
      (mill.requiredRoles "mill:type=stone,name= north " ⟨"lift", none, none⟩).answer =
        .ok (some ["smith"]) := by
  have hname : (Resolver.management "acl").candidates "mill:type=stone" =
      .ok ["acl.mill.stone", "acl.mill"] := by decide +kernel
  have hkey : Resolver.IsPropertyKey "name" := by constructor <;> decide
  obtain ⟨id, rest, hids, -, hmill⟩ :=
    inherits_rules "acl" "mill:type=stone" "name" " north " hname hkey (by decide)
  obtain ⟨rfl, rfl⟩ := List.cons.inj hids
  refine ⟨hname, rfl, ?_, ?_⟩
  · refine ((hmill mill rfl ⟨"turn", none, none⟩).1 ⟨_, rfl, ?_⟩).1
    rintro t ⟨⟩
    decide +kernel
  · exact ((hmill mill rfl ⟨"lift", none, none⟩).2 _ ⟨["smith"], .method, ["lift"]⟩
      (fun other _ => ⟨_, rfl⟩) rfl (by decide +kernel)).1

end RoleGate.Engine
