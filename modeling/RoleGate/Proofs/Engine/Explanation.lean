import RoleGate.Proofs.Engine.Decision
import RoleGate.Proofs.Engine.Stored
import RoleGate.Proofs.Ruling.Evidence

/-!
# Reported keys as explanations

The keys that a ruling reports explain it: they are keys of the table, the roles of the ruling are
the roles under them, and the table has the same ruling if it has no other keys. What a decision
rests on names such a ruling and the table that it comes from.

## Main definitions

* `RuleTable.restrict`, `RuleTable.pick` — a table with some of its keys, in the order of the table
  or in that of the keys.
* `Ruling.Explains` — the reported keys explain an outcome.
* `Engine.Grounded` — what a decision reports comes from the tables of the resource.

## Main statements

* `Ruling.explains_of_resolve` — every outcome is explained by the keys that it reports.
* `Engine.grounded_of_judge` — what a decision reports is grounded.
* `Engine.reported_keys_explain` — outcomes and decisions are explained.
-/

namespace RoleGate

namespace RuleTable

variable {t : RuleTable} {r : Rule}

/-- The table with these keys only, in its own order. -/
def restrict (t : RuleTable) (keys : List Text) : RuleTable :=
  t.filterKeys keys.contains

/-- The entries of the table under these keys, in the order of the keys. -/
def entriesUnder (t : RuleTable) (keys : List Text) : List (Text × Value) :=
  keys.filterMap fun key => (t.get? key).map (key, ·)

/-- The table with these keys only, in the order of the keys. -/
def pick (t : RuleTable) (keys : List Text) : RuleTable :=
  .ofList (t.entriesUnder keys)

/-- The roles that the table grants under a key. -/
def rolesUnder (t : RuleTable) (key : Text) : List Text :=
  ((t.get? key).map Roles.ofValue).getD []

/-- A rule is that of the entry under its text. -/
theorem exists_get?_of_mem_rules (h : r ∈ t.rules) :
    ∃ v, t.get? r.text = some v ∧ Rule.ofEntry (r.text, v) = r := by
  obtain ⟨e, he, rfl⟩ := List.mem_map.1 h
  exact ⟨e.2, t.get?_eq_some_iff.2 he, rfl⟩

/-- The entries under the texts of rules have these texts as keys, and are the entries that the
rules were read from. -/
theorem entriesUnder_texts {chosen : List Rule} (hsub : chosen ⊆ t.rules) :
    (t.entriesUnder (chosen.map Rule.text)).map Prod.fst = chosen.map Rule.text ∧
      (t.entriesUnder (chosen.map Rule.text)).map Rule.ofEntry = chosen := by
  induction chosen with
  | nil => exact ⟨rfl, rfl⟩
  | cons r rest ih =>
    obtain ⟨hr, hrest⟩ := List.cons_subset.1 hsub
    obtain ⟨v, hget, hentry⟩ := exists_get?_of_mem_rules hr
    obtain ⟨hkeys, hrules⟩ := ih hrest
    have hcons : t.entriesUnder (r.text :: rest.map Rule.text) =
        (r.text, v) :: t.entriesUnder (rest.map Rule.text) := by
      simp only [entriesUnder, List.filterMap_cons, hget, Option.map_some]
    simp only [List.map_cons, hcons, hkeys, hrules, hentry, and_self]

theorem rules_pick {chosen : List Rule} (hsub : chosen ⊆ t.rules)
    (hnodup : (chosen.map Rule.text).Nodup) : (t.pick (chosen.map Rule.text)).rules = chosen := by
  obtain ⟨hkeys, hrules⟩ := entriesUnder_texts hsub
  rw [rules, pick, OrderedMap.entries_ofList (by rw [hkeys]; exact hnodup), hrules]

end RuleTable

namespace Ruling

variable [Pattern.Machine] {method : Text} {args : Option (List Value)}
  {signature : Option (List Text)} {t : RuleTable} {outcome : Option Ruling}

/-- The reported keys explain the outcome of an invocation on a table. -/
structure Explains (t : RuleTable) (method : Text) (args : Option (List Value))
    (signature : Option (List Text)) (outcome : Option Ruling) : Prop where
  keys_subset : keysOf outcome ⊆ t.keys
  nodup_keys : (keysOf outcome).Nodup
  roles_eq : ∀ ruling ∈ outcome, ruling.roles = ruling.keys.flatMap t.rolesUnder
  eq_none_iff : outcome = none ↔ keysOf outcome = []
  kind_ne_invalid : args ≠ none → ∀ key ∈ keysOf outcome, (RuleKey.parse key).kind ≠ .invalid
  resolve_restrict : resolve method args signature (t.restrict (keysOf outcome)).rules = .ok outcome
  resolve_pick : resolve method args signature (t.pick (keysOf outcome)).rules = .ok outcome

theorem explains_none (h : resolve method args signature t.rules = .ok none) :
    Explains t method args signature none where
  keys_subset := List.nil_subset _
  nodup_keys := List.nodup_nil
  roles_eq := nofun
  eq_none_iff := by simp
  kind_ne_invalid := fun _ _ hkey => by cases hkey
  resolve_restrict := by
    rw [RuleTable.restrict, RuleTable.rules_filterKeys]
    exact (keeps_filter (by simp)).resolve_eq (distinct_rules t) ((distinct_rules t).filter _) h
  resolve_pick := by
    have hnil : (t.pick (keysOf none)).rules = t.rules.filter fun _ => false := by
      rw [List.filter_false]
      rfl
    rw [hnil]
    exact (keeps_filter (by simp)).resolve_eq (distinct_rules t) ((distinct_rules t).filter _) h

theorem RestsOn.explains {chosen : List Rule} {ruling : Ruling}
    (hrests : RestsOn args t.rules chosen ruling)
    (h : resolve method args signature t.rules = .ok (some ruling)) :
    Explains t method args signature (some ruling) := by
  have hdistinct := distinct_rules t
  have hsub := hrests.keeps.subset
  have hkeys : ruling.keys = chosen.map Rule.text := by rw [hrests.ruling_eq]; rfl
  have hnodup : (chosen.map Rule.text).Nodup :=
    hrests.nodup.map_on fun r hr q hq => hdistinct.eq_of_text_eq (hsub hr) (hsub hq)
  have hkey : ∀ key ∈ ruling.keys, ∃ r ∈ chosen, r.text = key := by simp [hkeys]
  refine ⟨?_, ?_, ?_, ?_, ?_, ?_, ?_⟩
  · intro key hreported
    obtain ⟨r, hr, rfl⟩ := hkey key hreported
    obtain ⟨e, he, rfl⟩ := List.mem_map.1 (hsub hr)
    exact List.mem_map_of_mem he
  · rw [keysOf_some, hkeys]
    exact hnodup
  · rintro _ ⟨⟩
    have hroles : ruling.roles = chosen.flatMap Rule.roles := by rw [hrests.ruling_eq]; rfl
    rw [hroles, hkeys, List.flatMap_map]
    refine List.flatMap_congr fun r hr => ?_
    obtain ⟨v, hget, hentry⟩ := RuleTable.exists_get?_of_mem_rules (hsub hr)
    rw [RuleTable.rolesUnder, hget, ← hentry]
    rfl
  · simp [hkeys, hrests.ne_nil]
  · intro hargs key hreported
    obtain ⟨r, hr, rfl⟩ := hkey key hreported
    rw [← hdistinct.key_eq r (hsub hr)]
    obtain ⟨values, hvalues⟩ := Option.ne_none_iff_exists'.1 hargs
    exact (hrests.applies values hvalues r hr).kind_ne_invalid
  · rw [RuleTable.restrict, RuleTable.rules_filterKeys]
    have hkeeps : Keeps args t.rules
        (t.rules.filter fun r => (keysOf (some ruling)).contains r.text) (keysOf (some ruling)) :=
      keeps_filter fun r _ hreported => by simpa using hreported
    exact hkeeps.resolve_eq hdistinct (hdistinct.filter _) h
  · have hrules : (t.pick (keysOf (some ruling))).rules = chosen := by
      rw [keysOf_some, hkeys]
      exact RuleTable.rules_pick hsub hnodup
    have hkeeps : Keeps args t.rules chosen (keysOf (some ruling)) := by
      rw [keysOf_some, hkeys]
      exact hrests.keeps
    have hchosen : Distinct chosen := ⟨fun r hr => hdistinct.key_eq r (hsub hr), hnodup⟩
    rw [hrules]
    exact hkeeps.resolve_eq hdistinct hchosen h

/-- Every outcome is explained by the keys that it reports. -/
theorem explains_of_resolve (h : resolve method args signature t.rules = .ok outcome) :
    Explains t method args signature outcome := by
  cases outcome with
  | none => exact explains_none h
  | some ruling =>
    obtain ⟨chosen, hrests⟩ := exists_restsOn (distinct_rules t) h
    exact hrests.explains h

end Ruling

namespace Engine

section

variable [Pattern.Machine] {e : Engine} {c : Caller} {resource : Text} {i : Invocation}
  {j : Judgement}

/-- What a decision reports is grounded in the tables of the resource: they could not be looked up,
or none has a ruling, or the keys that are reported explain the ruling of the table that is
named. -/
inductive Grounded (e : Engine) (resource : Text) (i : Invocation) : OrderedMap Value → Prop where
  | failure (cause : Error) (lookup : e.snapshot resource = .error cause) :
    Grounded e resource i (.ofList [("error", .text cause.kind)])
  | noRule (tables : Snapshot) (lookup : e.snapshot resource = .ok tables)
    (silent : ∀ t ∈ tables, Ruling.resolve i.method i.args i.signature t.2.rules = .ok none) :
    Grounded e resource i (.ofList [("required_roles", .absent)])
  | ruling (ids : List Text) (table : Text) (written : RuleTable) (r : Ruling)
    (candidates : e.resolver.candidates resource = .ok ids) (mem : table ∈ ids)
    (lookup : e.source.table table = .ok (some written))
    (resolves : Ruling.resolve i.method i.args i.signature written.normalize.rules = .ok (some r))
    (explains : Ruling.Explains written.normalize i.method i.args i.signature (some r)) :
    Grounded e resource i (.ofList
      [("required_roles", .texts r.roles), ("rule_kind", .text r.kind.label),
        ("matched_keys", .texts r.keys), ("table_id", .text table)])

theorem grounded_of_judge (h : (e.judge c resource i).answer = .ok j) :
    Grounded e resource i j.verdict.findings := by
  rw [answer_judge] at h
  split at h
  · next cause hlookup =>
    cases h
    exact .failure cause hlookup
  · next tables hlookup =>
    cases hfound : (rulingIn i tables).answer with
    | error cause => simp [hfound, Except.map] at h
    | ok found =>
      simp only [hfound, Except.map, Except.ok.injEq] at h
      subst h
      cases found with
      | none => exact .noRule tables hlookup (answer_rulingIn_eq_none_iff.1 hfound)
      | some found =>
        obtain ⟨table, r⟩ := found
        obtain ⟨before, t, after, rfl, -, hresolve⟩ := answer_rulingIn_eq_some_iff.1 hfound
        obtain ⟨ids, hids, htables⟩ := except_bind_eq_ok_iff.1 hlookup
        obtain ⟨hmem, written, htable, rfl⟩ :=
          of_mem_tablesOf htables (t := (table, t)) (by simp)
        exact .ruling ids table written r hids hmem htable hresolve
          (Ruling.explains_of_resolve hresolve)

/-- Every outcome on a table is explained by the keys that it reports. What a decision reports is
the outcome on the table that it names, in normal form, as stored tables are. -/
theorem reported_keys_explain :
    (∀ (t : RuleTable) (method : Text) (args : Option (List Value)) (signature : Option (List Text))
      (outcome : Option Ruling), Ruling.resolve method args signature t.rules = .ok outcome →
        Ruling.Explains t method args signature outcome) ∧
    (∀ (e : Engine) (c : Caller) (resource : Text) (i : Invocation) (j : Judgement),
      (e.judge c resource i).answer = .ok j → Grounded e resource i j.verdict.findings) ∧
    ∀ (history : List Store.Change) (id : Text) (t : RuleTable),
      (Store.empty.run history).source.table id = .ok (some t) → t.normalize = t := by
  refine ⟨fun t method args signature outcome h => Ruling.explains_of_resolve h,
    fun e c resource i j h => grounded_of_judge h, fun history id t h => ?_⟩
  exact Store.isNormal_empty.run history id t (Except.ok.inj h)

end

/-- A shelf with a rule for one article, one for articles of some names, and one for all. -/
def shelf : RuleTable :=
  .ofList [("put [\"a\"]", .text "stock"), ("put[ /a|b/ ]", .text "audit"), ("put", .text "desk")]

/-- The history in which the shelf is stored. -/
def shelving : List Store.Change :=
  Store.puts (.ofList [("shelf", shelf)]) .empty

/-- The stored shelf for every resource. -/
def shelfDesk : Engine where
  settings := ⟨false, none⟩
  resolver := .fixed ["shelf"]
  source := (Store.empty.run shelving).source

/-- An exact value and a pattern explain together why an auditor may put. -/
theorem reported_keys_explain_of_shelf :
    Ruling.Explains shelf.normalize "put" (some [.text "a"]) none
        (some ⟨["stock", "audit"], .exact, ["put[\"a\"]", "put[/a|b/]"]⟩) ∧
      (∃ j : Judgement, j.allowed = true ∧
        Grounded shelfDesk "r" ⟨"put", none, some [.text "a"]⟩ j.verdict.findings) ∧
      shelf.normalize.normalize = shelf.normalize := by
  obtain ⟨hexplains, hgrounded, hnormal⟩ := reported_keys_explain
  refine ⟨hexplains _ _ _ _ _ (by decide +kernel), ?_, hnormal shelving "shelf" _ ?_⟩
  · have hallowed : (shelfDesk.judge ⟨"ann", ["audit"], .empty⟩ "r"
        ⟨"put", none, some [.text "a"]⟩).answer.toOption.any Judgement.allowed = true := by
      decide +kernel
    cases hjudge : (shelfDesk.judge ⟨"ann", ["audit"], .empty⟩ "r"
        ⟨"put", none, some [.text "a"]⟩).answer with
    | error cause =>
      rw [hjudge] at hallowed
      cases hallowed
    | ok j =>
      rw [hjudge] at hallowed
      exact ⟨j, hallowed, hgrounded shelfDesk _ "r" _ j hjudge⟩
  · rw [shelving, Store.run_puts]
    rfl

end Engine

end RoleGate
