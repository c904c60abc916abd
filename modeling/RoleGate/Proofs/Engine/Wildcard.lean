import RoleGate.Proofs.Engine.Explanation
import RoleGate.Proofs.Roles.Layout

/-!
# The role entry that admits everyone

A configuration may name a role entry that admits every caller. Any text is accepted for it that is
not blank. What is read from the right-hand sides of rules are roles, without blanks at their ends,
commas and number signs. So an entry that is no such role is accepted but never met.

## Main definitions

* `Engine.DecidedBy` — one rule alone decides an invocation.

## Main statements

* `Roles.isRole_iff_exists_value` — the roles are what right-hand sides name.
* `Engine.DecidedBy.answer_canInvoke` — whoever the right-hand side admits may make the invocation.
* `Engine.admits_by_own_entry` — whom the entry admits where it is the right-hand side.
-/

namespace RoleGate

/-! ## Entries as roles -/

namespace Roles

variable {t role : Text}

/-- A role by itself is a layout of the list of this role. -/
theorem parse_of_isRole (h : IsRole role) : parse role = [role] := by
  have hself := (Entries.self [role]).parse_join (by simpa using h)
  rwa [Text.join_singleton] at hself

/-- A text names itself if it is a role, and only then. -/
theorem mem_parse_self_iff : t ∈ parse t ↔ IsRole t := by
  constructor
  · intro h
    exact isRole_of_mem_parse h
  · intro h
    rw [parse_of_isRole h]
    exact List.mem_singleton_self t

/-- The roles are what the right-hand sides of rules name. -/
theorem isRole_iff_exists_value : IsRole role ↔ ∃ v, role ∈ ofValue v := by
  constructor
  · intro h
    exact ⟨.text role, mem_parse_self_iff.2 h⟩
  · rintro ⟨v, hv⟩
    cases v with
    | text t => exact isRole_of_mem_parse hv
    | _ => cases hv

end Roles

/-! ## Configured entries -/

namespace Settings

variable {config : OrderedMap Value} {settings : Settings} {w : Text}

/-- A text is accepted for the entry if it is not blank, and is taken as it is. -/
theorem of_ofConfig (hconfig : ofConfig config = .ok settings)
    (hw : config.get? "role_wildcard" = some (.text w)) :
    Text.isBlankText w = false ∧ settings.roleWildcard = some w := by
  rw [ofConfig, hw] at hconfig
  generalize readDefaultAllow (config.get? "default_allow") = allow at hconfig
  cases allow with
  | error cause => cases hconfig
  | ok allow =>
    simp only [bind, Except.bind, readRoleWildcard] at hconfig
    by_cases hblank : Text.isBlankText w = true
    · rw [if_pos hblank] at hconfig
      cases hconfig
    · rw [if_neg hblank] at hconfig
      cases hconfig
      exact ⟨Bool.eq_false_iff.2 hblank, rfl⟩

end Settings

namespace Engine

section

variable [Pattern.Machine]

/-- One rule alone decides the invocation, be it for a method, for calls with certain arguments or
for all methods that begin in some way: the tables before its own have no ruling, and that of its
table reports the key of the rule only. -/
inductive DecidedBy (e : Engine) (resource : Text) (i : Invocation) (key : Text) (v : Value) :
    Prop where
  | alone (before : Snapshot) (id : Text) (table : RuleTable) (after : Snapshot) (ruling : Ruling)
    (lookup : e.snapshot resource = .ok (before ++ (id, table) :: after))
    (silent : ∀ t ∈ before, Ruling.resolve i.method i.args i.signature t.2.rules = .ok none)
    (resolves : Ruling.resolve i.method i.args i.signature table.rules = .ok (some ruling))
    (keys : ruling.keys = [key]) (value : table.get? key = some v) : DecidedBy e resource i key v

variable {e : Engine} {resource key : Text} {i : Invocation} {v : Value}

/-- Who may make the invocation is decided by the roles of the rule. -/
theorem DecidedBy.answer_canInvoke (h : e.DecidedBy resource i key v) (c : Caller) :
    (e.canInvoke c resource i).answer = .ok (e.settings.admits c (Roles.ofValue v)) := by
  obtain ⟨before, id, table, after, ruling, htables, hsilent, hruling, hkeys, hvalue⟩ := h
  have hroles : ruling.roles = Roles.ofValue v := by
    have hexplains := Ruling.explains_of_resolve hruling
    rw [hexplains.roles_eq ruling rfl, hkeys, List.flatMap_singleton, RuleTable.rolesUnder, hvalue]
    rfl
  have hfound : (rulingIn i (before ++ (id, table) :: after)).answer = .ok (some (id, ruling)) :=
    answer_rulingIn_eq_some_iff.2 ⟨before, table, after, rfl, hsilent, hruling⟩
  rw [Engine.answer_canInvoke, htables]
  simp only [hfound, hroles, Except.map]

/-- Where the entry itself is the right-hand side of the rule that decides, whoever has one of the
roles that it names may make the invocation, and everyone may if it is a role. -/
theorem admits_by_own_entry (config : OrderedMap Value) (settings : Settings) (w : Text)
    (hconfig : Settings.ofConfig config = .ok settings)
    (hw : config.get? "role_wildcard" = some (.text w)) :
    (∀ (resolver : Resolver) (source : Source) (c : Caller) (resource : Text) (i : Invocation)
      (key : Text), DecidedBy ⟨settings, resolver, source⟩ resource i key (.text w) →
        ∃ b, (canInvoke ⟨settings, resolver, source⟩ c resource i).answer = .ok b ∧
          (b = true ↔ Roles.IsRole w ∨ ∃ role ∈ Roles.parse w, role ∈ c.roles)) ∧
    (Roles.IsRole w ↔ ∃ v, w ∈ Roles.ofValue v) ∧
    (Roles.IsRole w ↔ Text.trim w = w ∧ ',' ∉ w ∧ '#' ∉ w) := by
  obtain ⟨hblank, hwildcard⟩ := Settings.of_ofConfig hconfig hw
  refine ⟨?_, Roles.isRole_iff_exists_value, ?_⟩
  · intro resolver source c resource i key hdecided
    refine ⟨_, hdecided.answer_canInvoke c, ?_⟩
    simp only [Settings.admits_iff, hwildcard, Option.some.injEq, Roles.ofValue,
      ← Roles.mem_parse_self_iff, Caller.hasRole, List.contains_iff_mem]
    grind
  · constructor
    · intro h
      exact ⟨h.trim_eq, h.comma_notMem, h.sign_notMem⟩
    · rintro ⟨htrim, hcomma, hsign⟩
      have hne : w ≠ [] := fun hnil => by simp [hnil, Text.isBlankText] at hblank
      exact ⟨hne, htrim, hcomma, hsign⟩

end

/-- A gate with one rule for all methods that begin in some way, whose right-hand side is the entry
that admits everyone. -/
def gate (w : Text) : Engine where
  settings := ⟨false, some w⟩
  resolver := .flat []
  source := (Store.empty.run [.putTable "gate" (.mapping [(.text "op*", .text w)])]).source

/-- The configuration with the entry. -/
def gateConfig (w : Text) : OrderedMap Value :=
  .ofList [("default_allow", .bool false), ("role_wildcard", .text w)]

/-- An entry of two words is a role, so everyone may open the gate. -/
theorem admits_by_own_entry_of_all_staff :
    Settings.ofConfig (gateConfig "all staff") = .ok (gate "all staff").settings ∧
      (gateConfig "all staff").get? "role_wildcard" = some (.text "all staff") ∧
      (gate "all staff").DecidedBy "gate" ⟨"open", none, some []⟩ "op*" (.text "all staff") ∧
      ((gate "all staff").canInvoke ⟨"ann", [], .empty⟩ "gate" ⟨"open", none, some []⟩).answer =
        .ok true := by
  have hdecided : (gate "all staff").DecidedBy "gate" ⟨"open", none, some []⟩ "op*"
      (.text "all staff") :=
    .alone [] "gate" (.ofList [("op*", .text "all staff")]) [] _ rfl nofun rfl rfl rfl
  obtain ⟨hadmits, -, hrole⟩ :=
    admits_by_own_entry (gateConfig "all staff") (gate "all staff").settings "all staff" rfl rfl
  obtain ⟨b, hb, hiff⟩ := hadmits _ _ ⟨"ann", [], .empty⟩ _ _ _ hdecided
  obtain rfl := hiff.2 (.inl (hrole.2 (by decide)))
  exact ⟨rfl, rfl, hdecided, hb⟩

/-- With blanks around it the entry is accepted, and admits nobody without roles. -/
theorem not_admits_by_own_entry :
    Settings.ofConfig (gateConfig " * ") = .ok (gate " * ").settings ∧
      (gateConfig " * ").get? "role_wildcard" = some (.text " * ") ∧
      (gate " * ").DecidedBy "gate" ⟨"open", none, some []⟩ "op*" (.text " * ") ∧
      ((gate " * ").canInvoke ⟨"ann", [], .empty⟩ "gate" ⟨"open", none, some []⟩).answer =
        .ok false := by
  exact ⟨rfl, rfl, .alone [] "gate" (.ofList [("op*", .text " * ")]) [] _ rfl nofun rfl rfl rfl,
    by decide +kernel⟩

end Engine

end RoleGate
