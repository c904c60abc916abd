import Mathlib.Data.List.Forall2
import RoleGate.Proofs.Engine.Bulk

/-!
# Privileges

A caller may do more with more roles, where more is allowed by default, and where some role entry
admits everyone. Whatever is allowed stays allowed then, by every kind of check. Nothing else about
a caller matters, nor how the roles are listed.

## Main definitions

* `Settings.AtMost`, `Engine.AtMost` — settings and engines that allow no more than others.
* `Row.AtMost` — a row of a bulk check that allows no more than another.

## Main statements

* `Engine.AtMost.canInvoke`, `Engine.AtMost.canAccess`, `Engine.AtMost.bulk` — what is allowed stays
  allowed.
* `Engine.allowed_of_more_privileges` — so it is for every check, and callers with the same roles
  get the same answers.
-/

namespace RoleGate

namespace Settings

/-- The second settings allow what the first do, by default or because a role entry admits
everyone. -/
structure AtMost (g h : Settings) : Prop where
  defaultAllow : g.defaultAllow = true → h.defaultAllow = true
  roleWildcard : g.roleWildcard = none ∨ g.roleWildcard = h.roleWildcard

theorem AtMost.refl (g : Settings) : g.AtMost g :=
  ⟨id, .inr rfl⟩

variable {g h : Settings} {c d : Caller}

theorem AtMost.admits (hle : g.AtMost h) (hroles : c.roles ⊆ d.roles) {roles : List Text}
    (hadmits : g.admits c roles = true) : h.admits d roles = true := by
  obtain ⟨role, hrole, hwildcard | hhas⟩ := admits_iff.1 hadmits
  · obtain hnone | hsame := hle.roleWildcard
    · rw [hnone] at hwildcard
      cases hwildcard
    · exact admits_iff.2 ⟨role, hrole, .inl (hsame ▸ hwildcard)⟩
  · have hheld : role ∈ d.roles := hroles (List.contains_iff_mem.1 hhas)
    exact admits_iff.2 ⟨role, hrole, .inr (List.contains_iff_mem.2 hheld)⟩

theorem AtMost.allows (hle : g.AtMost h) (hroles : c.roles ⊆ d.roles)
    {required : Option (List Text)} (hallows : g.allows c required = true) :
    h.allows d required = true := by
  cases required with
  | none => exact hle.defaultAllow hallows
  | some roles => exact hle.admits hroles hallows

/-- Of a caller only the set of roles matters. -/
theorem allows_congr (hroles : ∀ role, role ∈ c.roles ↔ role ∈ d.roles) :
    g.allows c = g.allows d := by
  funext required
  rw [Bool.eq_iff_iff]
  exact ⟨(AtMost.refl g).allows fun role => (hroles role).1,
    (AtMost.refl g).allows fun role => (hroles role).2⟩

end Settings

/-- The rows answer the same, and the second is allowed if the first is. -/
structure Row.AtMost (r s : Row) : Prop where
  resource : r.resource = s.resource
  method : r.method = s.method
  allowed : r.allowed = true → s.allowed = true

namespace Engine

/-- The engines find the same tables and catalogs, and the second allows what the first does by its
settings. -/
structure AtMost (e f : Engine) : Prop where
  settings : e.settings.AtMost f.settings
  resolver : e.resolver = f.resolver
  source : e.source = f.source

theorem AtMost.refl (e : Engine) : e.AtMost e :=
  ⟨.refl _, rfl, rfl⟩

namespace AtMost

variable {e f : Engine} {c d : Caller} {resource : Text} {i : Invocation}
  (hle : e.AtMost f) (hroles : c.roles ⊆ d.roles)
include hle

theorem snapshot_eq (resource : Text) : e.snapshot resource = f.snapshot resource := by
  rw [snapshot, snapshot, hle.resolver, hle.source]

theorem grounds_eq (resource : Text) : e.grounds resource = f.grounds resource := by
  rw [grounds, grounds, hle.snapshot_eq, hle.source]

theorem overloads_eq (resource method : Text) :
    e.overloads resource method = f.overloads resource method := by
  rw [overloads, overloads, hle.source]

include hroles

/-- What a ruling allows, or its absence, is allowed with more privileges. -/
theorem map_allows {found : Except Error (Option (Text × Ruling))}
    (h : found.map (fun t => e.settings.allows c (t.map fun t => t.2.roles)) = .ok true) :
    found.map (fun t => f.settings.allows d (t.map fun t => t.2.roles)) = .ok true := by
  cases found with
  | error cause => cases h
  | ok t => exact congrArg Except.ok (hle.settings.allows hroles (Except.ok.inj h))

variable [Pattern.Machine]

theorem canInvoke (h : (e.canInvoke c resource i).answer = .ok true) :
    (f.canInvoke d resource i).answer = .ok true := by
  rw [answer_canInvoke_eq_allows] at h ⊢
  rw [← hle.snapshot_eq]
  cases hlookup : e.snapshot resource with
  | error cause =>
    rw [hlookup] at h
    cases h
  | ok tables =>
    rw [hlookup] at h
    exact hle.map_allows hroles h

theorem mayOperate {tables : Snapshot} {operation : Text}
    (h : (e.mayOperate c resource tables operation).holds = true) :
    (f.mayOperate d resource tables operation).holds = true := by
  rw [Check.holds_iff, answer_mayOperate] at h ⊢
  cases hquery : Invocation.ofQuery operation with
  | error cause =>
    rw [hquery] at h
    cases h
  | ok i =>
    rw [hquery] at h
    exact hle.map_allows hroles h

omit [Pattern.Machine] in
theorem mayByTables {tables : Snapshot} (h : (e.mayByTables c tables).holds = true) :
    (f.mayByTables d tables).holds = true := by
  rw [Check.holds_of_answer (answer_mayByTables _ _ _), Bool.or_eq_true, Bool.and_eq_true] at h ⊢
  refine h.imp (.imp_left hle.settings.defaultAllow) fun hrule => ?_
  obtain ⟨t, ht, hvalue⟩ := List.any_eq_true.1 hrule
  obtain ⟨v, hv, hadmits⟩ := List.any_eq_true.1 hvalue
  exact List.any_eq_true.2 ⟨t, ht, List.any_eq_true.2 ⟨v, hv, hle.settings.admits hroles hadmits⟩⟩

theorem canAccess (h : (e.canAccess c resource).holds = true) :
    (f.canAccess d resource).holds = true := by
  rw [Check.holds_of_answer (answer_canAccess _ _ _)] at h ⊢
  rw [← hle.grounds_eq]
  split at h
  · cases h
  · obtain ⟨operation, hoperation, hmay⟩ := List.any_eq_true.1 h
    exact List.any_eq_true.2 ⟨operation, hoperation, hle.mayOperate hroles hmay⟩
  · exact hle.mayByTables hroles h

theorem canQuery (hargs : i.args = none) (h : (e.canQuery c resource i).holds = true) :
    (f.canQuery d resource i).holds = true := by
  have hinvoke : ∀ j, (e.canInvoke c resource j).holds = true →
      (f.canInvoke d resource j).holds = true := by
    intro j hj
    exact Check.holds_iff.2 (hle.canInvoke hroles (Check.holds_iff.1 hj))
  rw [Check.holds_of_answer (answer_canQuery hargs)] at h ⊢
  rw [← hle.overloads_eq]
  split at h
  · next hsignature => simpa only [hsignature, if_true] using hinvoke i h
  · next hsignature =>
    rw [if_neg hsignature]
    split at h
    · cases h
    · exact hinvoke i h
    · obtain ⟨o, ho, hallowed⟩ := List.any_eq_true.1 h
      exact List.any_eq_true.2 ⟨o, ho, hinvoke o hallowed⟩

theorem grants {item : Text × Option Text} (h : e.grants c item = true) :
    f.grants d item = true := by
  obtain ⟨resource, _ | query⟩ := item
  · exact hle.canAccess hroles h
  · unfold Engine.grants at h ⊢
    cases hquery : Invocation.ofQuery query with
    | error cause => simp [hquery] at h
    | ok i =>
      simp only [hquery] at h ⊢
      exact hle.canQuery hroles (Invocation.args_of_ofQuery hquery) h

/-- Each row of a bulk check stays allowed. -/
theorem bulk (query : OrderedMap (List Text)) :
    ∃ rows others, (e.bulk c query).answer = .ok rows ∧ (f.bulk d query).answer = .ok others ∧
      List.Forall₂ Row.AtMost rows others := by
  refine ⟨_, _, answer_bulk e c query, answer_bulk f d query, ?_⟩
  rw [List.forall₂_map_left_iff, List.forall₂_map_right_iff, List.forall₂_same]
  exact fun item _ => ⟨rfl, rfl, hle.grants hroles⟩

end AtMost

section

variable [Pattern.Machine] {e : Engine} {c d : Caller}

/-! ## Callers with the same roles -/

theorem answer_canInvoke_congr (hroles : ∀ role, role ∈ c.roles ↔ role ∈ d.roles) (resource : Text)
    (i : Invocation) : (e.canInvoke c resource i).answer = (e.canInvoke d resource i).answer := by
  rw [answer_canInvoke_eq_allows, answer_canInvoke_eq_allows, Settings.allows_congr hroles]

theorem answer_canAccess_congr (hroles : ∀ role, role ∈ c.roles ↔ role ∈ d.roles)
    (resource : Text) : (e.canAccess c resource).answer = (e.canAccess d resource).answer := by
  have hanswers : ∀ c, (e.canAccess c resource).Answers := fun c =>
    ⟨_, answer_canAccess e c resource⟩
  have hholds : (e.canAccess c resource).holds = (e.canAccess d resource).holds := by
    rw [Bool.eq_iff_iff]
    exact ⟨(AtMost.refl e).canAccess fun role => (hroles role).1,
      (AtMost.refl e).canAccess fun role => (hroles role).2⟩
  rw [(hanswers c).answer_eq, (hanswers d).answer_eq, hholds]

theorem answer_bulk_congr (hroles : ∀ role, role ∈ c.roles ↔ role ∈ d.roles)
    (query : OrderedMap (List Text)) : (e.bulk c query).answer = (e.bulk d query).answer := by
  have hgrants : ∀ item, e.grants c item = e.grants d item := by
    intro item
    rw [Bool.eq_iff_iff]
    exact ⟨(AtMost.refl e).grants fun role => (hroles role).1,
      (AtMost.refl e).grants fun role => (hroles role).2⟩
  rw [answer_bulk, answer_bulk]
  exact congrArg Except.ok (List.map_congr_left fun item _ => by rw [rowOf, rowOf, hgrants])

/-- Whatever is allowed stays allowed to a caller with at least the same roles, by an engine that
decides by the same tables and catalogs, allows by default if the first does, and has the same role
entry for everyone unless the first has none. Callers with the same roles get the same answers. -/
theorem allowed_of_more_privileges :
    (∀ e f : Engine, e.AtMost f → ∀ c d : Caller, c.roles ⊆ d.roles →
      (∀ resource i, (e.canInvokeOrAccess c resource i).answer = .ok true →
        (f.canInvokeOrAccess d resource i).answer = .ok true) ∧
      (∀ resource, (e.canAccess c resource).answer = .ok true →
        (f.canAccess d resource).answer = .ok true) ∧
      ∀ query, ∃ rows others,
        (e.bulk c query).answer = .ok rows ∧ (f.bulk d query).answer = .ok others ∧
          List.Forall₂ Row.AtMost rows others) ∧
    ∀ (e : Engine) (c d : Caller), (∀ role, role ∈ c.roles ↔ role ∈ d.roles) →
      (∀ resource i,
        (e.canInvokeOrAccess c resource i).answer = (e.canInvokeOrAccess d resource i).answer) ∧
      (∀ resource, (e.canAccess c resource).answer = (e.canAccess d resource).answer) ∧
      ∀ query, (e.bulk c query).answer = (e.bulk d query).answer := by
  refine ⟨fun e f hle c d hroles => ?_, fun e c d hroles => ?_⟩
  · have haccess : ∀ resource, (e.canAccess c resource).answer = .ok true →
        (f.canAccess d resource).answer = .ok true := by
      intro resource h
      exact Check.holds_iff.1 (hle.canAccess hroles (Check.holds_iff.2 h))
    refine ⟨fun resource i h => ?_, haccess, hle.bulk hroles⟩
    cases i with
    | none => exact haccess resource h
    | some i => exact hle.canInvoke hroles h
  · refine ⟨fun resource i => ?_, answer_canAccess_congr hroles, answer_bulk_congr hroles⟩
    cases i with
    | none => exact answer_canAccess_congr hroles resource
    | some i => exact answer_canInvoke_congr hroles resource i

end

/-- A desk where tickets are sold and the day is closed, with given settings. -/
def ticketDesk (g : Settings) : Engine where
  settings := g
  resolver := .fixed ["tickets"]
  source := .ofMaps
    (.ofList [("tickets", .ofList
      [("sell[\"a\"]", .text "stock"), ("sell", .text "desk"), ("close", .text "everyone")])])
    (.ofList [("r", ["sell(int)", "close()"])])

/-- Who may sell may sell with a second role where more is allowed, however often the roles are
listed. -/
theorem allowed_of_more_privileges_of_tickets :
    (ticketDesk ⟨false, none⟩).AtMost (ticketDesk ⟨true, some "everyone"⟩) ∧
      (["desk"] : List Text) ⊆ ["audit", "desk", "desk"] ∧
      ((ticketDesk ⟨true, some "everyone"⟩).canInvokeOrAccess
        ⟨"bob", ["audit", "desk", "desk"], .empty⟩ "r" none).answer = .ok true ∧
      (∃ rows others,
        ((ticketDesk ⟨false, none⟩).bulk ⟨"ann", ["desk"], .empty⟩
          (.ofList [("r", ["sell", "close", "(", "open"])])).answer = .ok rows ∧
        ((ticketDesk ⟨true, some "everyone"⟩).bulk ⟨"bob", ["audit", "desk", "desk"], .empty⟩
          (.ofList [("r", ["sell", "close", "(", "open"])])).answer = .ok others ∧
        List.Forall₂ Row.AtMost rows others) ∧
      ((ticketDesk ⟨false, none⟩).canAccess ⟨"ann", ["desk", "audit"], .empty⟩ "r").answer =
        ((ticketDesk ⟨false, none⟩).canAccess
          ⟨"bob", ["audit", "desk", "desk"], .empty⟩ "r").answer := by
  have hle : (ticketDesk ⟨false, none⟩).AtMost (ticketDesk ⟨true, some "everyone"⟩) :=
    ⟨⟨nofun, .inl rfl⟩, rfl, rfl⟩
  have hroles : (["desk"] : List Text) ⊆ ["audit", "desk", "desk"] := by simp
  obtain ⟨hmore, hsame⟩ := allowed_of_more_privileges
  obtain ⟨hinvoke, -, hbulk⟩ := hmore _ _ hle ⟨"ann", ["desk"], .empty⟩
    ⟨"bob", ["audit", "desk", "desk"], .empty⟩ hroles
  refine ⟨hle, hroles, hinvoke "r" none (by decide +kernel), hbulk _, ?_⟩
  exact (hsame _ _ _ (by simp [or_comm])).2.1 "r"

end Engine

end RoleGate
