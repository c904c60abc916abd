import RoleGate.Ruling

/-!
# Chosen rules

Which rules of a list decide for a shape, and which wildcard decides for a method.

## Main definitions

* `Ruling.accepted` — trying a rule on arguments succeeds and finds that it accepts them.
* `Ruling.firstFailure?` — why rules cannot be tried on arguments.
* `Ruling.deciding` — the rules for a shape that accept some arguments.
* `Ruling.MadeOf` — a ruling is made of rules of a list.
-/

namespace RoleGate

namespace Ruling

variable {kind : RuleKey.Kind} {s : Shape} {method : Text} {values : List Value}
  {rules : List Rule} {r : Rule}

section

variable [Pattern.Machine]

/-! ## Trying rules -/

/-- The rule is tried without failure and accepts the arguments. -/
def accepted (kind : RuleKey.Kind) (s : Shape) (args : List Value) (r : Rule) : Bool :=
  match tries kind s args r with
  | .ok b => b
  | .error _ => false

/-- Why trying the rule fails. -/
def failure? (kind : RuleKey.Kind) (s : Shape) (args : List Value) (r : Rule) : Option Error :=
  match tries kind s args r with
  | .ok _ => none
  | .error e => some e

/-- The first failure stops the search. Otherwise the accepted rules are kept. -/
theorem accepting_eq (kind : RuleKey.Kind) (s : Shape) (args : List Value) (rules : List Rule) :
    accepting kind s args rules =
      match rules.findSome? (failure? kind s args) with
      | some e => .error e
      | none => .ok (rules.filter (accepted kind s args)) := by
  induction rules with
  | nil => rfl
  | cons r rest ih =>
    rw [accepting, ih, List.findSome?_cons, List.filter_cons]
    cases htried : tries kind s args r with
    | error e => simp [failure?, htried, bind, Except.bind]
    | ok b =>
      simp only [failure?, accepted, htried, bind, Except.bind]
      cases rest.findSome? (failure? kind s args) with
      | some e => rfl
      | none => cases b <;> rfl

/-- Only a rule of the kind and for the shape is tried at all. -/
theorem of_tries {x : Except Error Bool} (h : tries kind s values r = x) (hx : x ≠ .ok false) :
    r.key.kind = kind ∧ r.key.shape = s ∧
      Matcher.acceptAll (r.key.matchers?.getD []) values = x := by
  unfold tries at h
  split at h
  · next hfor =>
    obtain ⟨hkind, hshape⟩ := Bool.and_eq_true_iff.1 hfor
    exact ⟨by simpa using hkind, by simpa [RuleKey.appliesTo] using hshape, h⟩
  · exact absurd h.symm hx

theorem accepted_iff : accepted kind s values r = true ↔
    r.key.kind = kind ∧ r.key.shape = s ∧
      Matcher.acceptAll (r.key.matchers?.getD []) values = .ok true := by
  constructor
  · intro h
    unfold accepted at h
    split at h
    · next b htried =>
      subst h
      exact of_tries htried nofun
    · cases h
  · rintro ⟨hkind, hshape, haccepts⟩
    have hfor : (r.key.kind == kind && r.key.appliesTo s) = true := by
      simp [hkind, RuleKey.appliesTo, hshape]
    rw [accepted, tries, if_pos hfor, haccepts]

/-- A rule that accepts arguments has an argument list. -/
theorem isBracketedFor_of_accepted (h : accepted kind s values r = true)
    (hkind : kind = .exact ∨ kind = .regex) : isBracketedFor s r = true := by
  obtain ⟨rfl, rfl, -⟩ := accepted_iff.1 h
  have hbracketed : r.key.isBracketed = true := by
    obtain hexact | hregex := hkind
    · obtain ⟨t, texts, hkey⟩ := RuleKey.kind_eq_exact_iff.1 hexact
      rw [hkey]
      rfl
    · obtain ⟨t, sources, hkey⟩ := RuleKey.kind_eq_regex_iff.1 hregex
      rw [hkey]
      rfl
  simp [isBracketedFor, hbracketed, RuleKey.appliesTo]

/-- Why the rules for a shape cannot be tried on arguments: those with exact values are tried
first. -/
def firstFailure? (s : Shape) (args : List Value) (rules : List Rule) : Option Error :=
  (rules.findSome? (failure? .exact s args)).or (rules.findSome? (failure? .regex s args))

theorem firstFailure?_eq_none_iff :
    firstFailure? s values rules = none ↔
      ∀ r ∈ rules, failure? .exact s values r = none ∧ failure? .regex s values r = none := by
  rw [firstFailure?, Option.or_eq_none_iff, List.findSome?_eq_none_iff,
    List.findSome?_eq_none_iff]
  exact ⟨fun ⟨hexact, hpatterns⟩ r hr => ⟨hexact r hr, hpatterns r hr⟩,
    fun h => ⟨fun r hr => (h r hr).1, fun r hr => (h r hr).2⟩⟩

/-! ## One shape -/

omit [Pattern.Machine] in
theorem isPlainFor_iff : isPlainFor s r = true ↔ r.key = .plain s := by
  unfold isPlainFor
  split
  · next t hkey => simp [hkey]
  · next hnot => simpa using hnot s

/-- The rules for a shape that accept the arguments, exact values before patterns. -/
def deciding (s : Shape) (args : List Value) (rules : List Rule) : List Rule :=
  rules.filter (accepted .exact s args) ++ rules.filter (accepted .regex s args)

/-- The kind under which rules that accept the arguments decide. -/
def decidingKind (s : Shape) (args : List Value) (rules : List Rule) : RuleKey.Kind :=
  if rules.filter (accepted .exact s args) = [] then .regex else .exact

theorem of_mem_deciding (h : r ∈ deciding s values rules) :
    r ∈ rules ∧ isBracketedFor s r = true := by
  simp only [deciding, List.mem_append, List.mem_filter] at h
  obtain ⟨hr, haccepted⟩ | ⟨hr, haccepted⟩ := h
  · exact ⟨hr, isBracketedFor_of_accepted haccepted (.inl rfl)⟩
  · exact ⟨hr, isBracketedFor_of_accepted haccepted (.inr rfl)⟩

/-- With known arguments the first rule that fails stops the search. Otherwise the rules that
accept the arguments decide, or the plain rule if there are none. -/
theorem concrete?_eq (s : Shape) (args : List Value) (rules : List Rule) :
    concrete? s args rules =
      match firstFailure? s args rules with
      | some e => .error e
      | none => .ok (
          if deciding s args rules = [] then plain? s rules
          else some (ofRules (decidingKind s args rules) (deciding s args rules))) := by
  rw [concrete?, accepting_eq, accepting_eq, firstFailure?]
  rcases rules.findSome? (failure? .exact s args) with _ | cause
  case some => rfl
  rcases rules.findSome? (failure? .regex s args) with _ | cause
  case some => rfl
  case none.none =>
    rw [Option.none_or]
    simp only [bind, Except.bind, pure, Except.pure, Except.ok.injEq]
    split
    · next hexact hpatterns =>
      rw [if_pos (by rw [deciding, hexact, hpatterns, List.append_nil])]
    · next hexact hpatterns =>
      have hdeciding : deciding s args rules = rules.filter (accepted .regex s args) := by
        rw [deciding, hexact, List.nil_append]
      rw [if_neg fun h => hpatterns (hdeciding ▸ h), hdeciding, decidingKind, if_pos hexact]
    · next hexact _ =>
      have hdeciding : deciding s args rules ≠ [] := fun h => hexact (List.append_eq_nil_iff.1 h).1
      rw [if_neg hdeciding, decidingKind, if_neg hexact, deciding]

/-- What is found for known arguments. -/
theorem eq_of_concrete? {found : Option Ruling} (h : concrete? s values rules = .ok found) :
    found = if deciding s values rules = [] then plain? s rules
      else some (ofRules (decidingKind s values rules) (deciding s values rules)) := by
  rw [concrete?_eq] at h
  split at h
  · cases h
  · exact (Except.ok.inj h).symm

omit [Pattern.Machine] in
/-- With unknown arguments all rules with an argument list decide, and with them the plain rule. -/
theorem advisory?_eq (s : Shape) (rules : List Rule) :
    advisory? s rules =
      match rules.find? (isPlainFor s) with
      | some r => some (ofRules (.ofShape s) (rules.filter (isBracketedFor s) ++ [r]))
      | none => (rules.filter (isBracketedFor s)).head?.map fun first =>
          ofRules first.key.kind (rules.filter (isBracketedFor s)) := by
  unfold advisory?
  cases rules.find? (isPlainFor s) with
  | some r => rfl
  | none => cases rules.filter (isBracketedFor s) <;> rfl

/-- The ruling is made of rules of the list. -/
def MadeOf (rules : List Rule) (ruling : Ruling) : Prop :=
  ∃ kind chosen, chosen ⊆ rules ∧ ruling = ofRules kind chosen

omit [Pattern.Machine] in
theorem madeOf_plain? {ruling : Ruling} (h : plain? s rules = some ruling) :
    MadeOf rules ruling := by
  obtain ⟨r, hr, rfl⟩ := Option.map_eq_some_iff.1 h
  exact ⟨_, [r], by simpa using List.mem_of_find?_eq_some hr, rfl⟩

theorem madeOf_concrete? {ruling : Ruling} (h : concrete? s values rules = .ok (some ruling)) :
    MadeOf rules ruling := by
  rw [concrete?_eq] at h
  split at h
  · cases h
  · split at h
    · exact madeOf_plain? (Except.ok.inj h)
    · cases h
      exact ⟨_, _, fun r hr => (of_mem_deciding hr).1, rfl⟩

end

theorem madeOf_advisory? {ruling : Ruling} (h : advisory? s rules = some ruling) :
    MadeOf rules ruling := by
  rw [advisory?_eq] at h
  have hbracketed : rules.filter (isBracketedFor s) ⊆ rules := List.filter_sublist.subset
  split at h
  · next r hr =>
    cases h
    have hplain : [r] ⊆ rules := by simpa using List.mem_of_find?_eq_some hr
    exact ⟨_, _, List.append_subset.2 ⟨hbracketed, hplain⟩, rfl⟩
  · obtain ⟨first, -, rfl⟩ := Option.map_eq_some_iff.1 h
    exact ⟨_, _, hbracketed, rfl⟩

/-! ## Wildcards -/

theorem isWildcardFor_iff :
    isWildcardFor method r = true ↔ ∃ beginning, r.key = .wildcard beginning ∧
      beginning <+: method := by
  unfold isWildcardFor
  split
  · next beginning hkey => simp [hkey]
  · next hnot => simpa using fun beginning hkey => absurd hkey (hnot beginning)

/-- Of the wildcards and the best so far, one with the longest beginning is chosen. -/
theorem foldl_moreSpecific (best : Rule) (rules : List Rule) :
    ∃ chosen ∈ best :: rules, rules.foldl moreSpecific (some best) = some chosen ∧
      ∀ r ∈ best :: rules, r.key.beginning.length ≤ chosen.key.beginning.length := by
  induction rules generalizing best with
  | nil => exact ⟨best, by simp⟩
  | cons r rest ih =>
    rw [List.foldl_cons, moreSpecific]
    split
    · next hlonger =>
      obtain ⟨chosen, hmem, hfold, hmax⟩ := ih r
      refine ⟨chosen, List.mem_cons_of_mem _ hmem, hfold, ?_⟩
      rintro q (_ | ⟨_, hq⟩)
      · exact Nat.le_trans (Nat.le_of_lt hlonger) (hmax r List.mem_cons_self)
      · exact hmax q hq
    · next hshorter =>
      obtain ⟨chosen, hmem, hfold, hmax⟩ := ih best
      have hsub : best :: rest ⊆ best :: r :: rest :=
        ((List.sublist_cons_self r rest).cons_cons best).subset
      refine ⟨chosen, hsub hmem, hfold, ?_⟩
      intro q hq
      obtain rfl | rfl | hq : q = best ∨ q = r ∨ q ∈ rest := by simpa using hq
      · exact hmax q List.mem_cons_self
      · exact Nat.le_trans (Nat.le_of_not_lt hshorter) (hmax best List.mem_cons_self)
      · exact hmax q (List.mem_cons_of_mem _ hq)

theorem wildcard?_eq_none_iff :
    wildcard? method rules = none ↔ ∀ r ∈ rules, isWildcardFor method r = false := by
  have hnone : wildcard? method rules = none ↔ rules.filter (isWildcardFor method) = [] := by
    unfold wildcard?
    cases rules.filter (isWildcardFor method) with
    | nil => simp
    | cons best others =>
      obtain ⟨chosen, -, hfold, -⟩ := foldl_moreSpecific best others
      simp [moreSpecific, hfold]
  simp [hnone, List.filter_eq_nil_iff]

/-- The wildcard that decides is for the method, and no wildcard for it has a longer beginning. -/
theorem exists_of_wildcard?_eq_some {ruling : Ruling} (h : wildcard? method rules = some ruling) :
    ∃ chosen ∈ rules, isWildcardFor method chosen = true ∧ ruling = ofRules .wildcard [chosen] ∧
      ∀ r ∈ rules, isWildcardFor method r = true →
        r.key.beginning.length ≤ chosen.key.beginning.length := by
  unfold wildcard? at h
  cases hfor : rules.filter (isWildcardFor method) with
  | nil => simp [hfor] at h
  | cons best others =>
    obtain ⟨chosen, hmem, hfold, hmax⟩ := foldl_moreSpecific best others
    have hiff : ∀ r, r ∈ best :: others ↔ r ∈ rules ∧ isWildcardFor method r = true :=
      fun r => by rw [← hfor, List.mem_filter]
    obtain ⟨hchosen, hwildcard⟩ := (hiff chosen).1 hmem
    refine ⟨chosen, hchosen, hwildcard, ?_, fun r hr hr' => hmax r ((hiff r).2 ⟨hr, hr'⟩)⟩
    simpa [hfor, moreSpecific, hfold] using h.symm

end Ruling

end RoleGate
