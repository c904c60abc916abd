import RoleGate.Proofs.Ruling.Distinct
import RoleGate.Proofs.Ruling.Stage

/-!
# What a ruling rests on

A ruling rests on the rules whose keys it reports: it has their roles, and rules that are not
reported may be dropped without changing it.

## Main definitions

* `Ruling.keysOf` — the keys that an outcome reports.
* `Ruling.Keeps` — a list of rules keeps the rules with some keys.
* `Ruling.Applies` — a rule is valid and accepts the arguments.
* `Ruling.RestsOn` — the rules that a ruling is made of.

## Main statements

* `Ruling.exists_restsOn` — every ruling rests on rules of the list.
* `Ruling.Keeps.resolve_eq` — the ruling stays if the rules are kept that it reports.
-/

namespace RoleGate

namespace Ruling

variable {s : Shape} {method : Text} {values : List Value} {args : Option (List Value)}
  {signature : Option (List Text)} {rules kept : List Rule} {keys : List Text} {r : Rule}

/-- The keys that an outcome reports. -/
def keysOf (outcome : Option Ruling) : List Text :=
  (outcome.map Ruling.keys).getD []

@[simp] theorem keysOf_none : keysOf none = [] := rfl

@[simp] theorem keysOf_some (ruling : Ruling) : keysOf (some ruling) = ruling.keys := rfl

theorem text_mem_keys_ofRules {kind : RuleKey.Kind} {chosen : List Rule} (h : r ∈ chosen) :
    r.text ∈ keysOf (some (ofRules kind chosen)) :=
  List.mem_map_of_mem h

theorem isBracketed_of_isPlainFor (h : isPlainFor s r = true) : r.key.isBracketed = false := by
  rw [isPlainFor_iff.1 h]
  rfl

theorem isBracketed_of_isWildcardFor (h : isWildcardFor method r = true) :
    r.key.isBracketed = false := by
  obtain ⟨beginning, hkey, -⟩ := isWildcardFor_iff.1 h
  rw [hkey]
  rfl

variable [Pattern.Machine]

/-! ## Rules that decide together -/

/-- The sorts of rules with an argument list that decide together for a shape: those with exact
values and those with patterns that accept the arguments, or all if the arguments are unknown. -/
inductive Together : Option (List Value) → (Rule → Bool) → Prop where
  | exact (s : Shape) (values : List Value) : Together (some values) (accepted .exact s values)
  | patterns (s : Shape) (values : List Value) : Together (some values) (accepted .regex s values)
  | untried (s : Shape) : Together none (isBracketedFor s)

theorem Together.isBracketed {sort : Rule → Bool} (h : Together args sort) (hr : sort r = true) :
    r.key.isBracketed = true := by
  have hbracketedFor : ∃ s, isBracketedFor s r = true := by
    cases h with
    | exact s values => exact ⟨s, isBracketedFor_of_accepted hr (.inl rfl)⟩
    | patterns s values => exact ⟨s, isBracketedFor_of_accepted hr (.inr rfl)⟩
    | untried s => exact ⟨s, hr⟩
  obtain ⟨s, hs⟩ := hbracketedFor
  exact (Bool.and_eq_true_iff.1 hs).1

/-- The list keeps the rules with the given keys, and keeps rules that decide together in order. -/
structure Keeps (args : Option (List Value)) (rules kept : List Rule) (keys : List Text) :
    Prop where
  subset : kept ⊆ rules
  mem : ∀ r ∈ rules, r.text ∈ keys → r ∈ kept
  filter_eq : ∀ sort, Together args sort → (∀ r ∈ rules, sort r = true → r.text ∈ keys) →
    kept.filter sort = rules.filter sort

theorem keeps_filter {p : Rule → Bool} (h : ∀ r ∈ rules, r.text ∈ keys → p r = true) :
    Keeps args rules (rules.filter p) keys where
  subset := List.filter_sublist.subset
  mem := fun r hr hkey => List.mem_filter.2 ⟨hr, h r hr hkey⟩
  filter_eq := by
    intro sort _ hsort
    rw [List.filter_filter]
    refine List.filter_congr fun r hr => ?_
    cases hr' : sort r with
    | false => rfl
    | true => rw [h r hr (hsort r hr hr'), Bool.and_self]

/-! ## Dropping rules -/

namespace Keeps

variable {found : Option Ruling}

theorem find?_isPlainFor (hk : Keeps args rules kept keys) (h : Distinct rules)
    (hkept : Distinct kept)
    (hplain : ∀ r, rules.find? (isPlainFor s) = some r → r.text ∈ keys) :
    kept.find? (isPlainFor s) = rules.find? (isPlainFor s) := by
  refine Option.ext fun r => ?_
  rw [hkept.find?_isPlainFor_eq_some_iff, h.find?_isPlainFor_eq_some_iff]
  constructor
  · rintro ⟨hr, hr'⟩
    exact ⟨hk.subset hr, hr'⟩
  · rintro ⟨hr, hr'⟩
    exact ⟨hk.mem r hr (hplain r (h.find?_isPlainFor_eq_some_iff.2 ⟨hr, hr'⟩)), hr'⟩

theorem concrete?_eq (hk : Keeps (some values) rules kept keys) (h : Distinct rules)
    (hkept : Distinct kept) (hfound : concrete? s values rules = .ok found)
    (hkeys : keysOf found ⊆ keys) : concrete? s values kept = .ok found := by
  rw [Ruling.concrete?_eq] at hfound ⊢
  cases hfails : firstFailure? s values rules with
  | some cause => simp [hfails] at hfound
  | none =>
    have hfails' : firstFailure? s values kept = none :=
      firstFailure?_eq_none_iff.2 fun r hr => firstFailure?_eq_none_iff.1 hfails r (hk.subset hr)
    simp only [hfails, Except.ok.injEq] at hfound
    simp only [hfails', Except.ok.injEq]
    have hreported : ∀ r ∈ deciding s values rules, r.text ∈ keys := by
      intro r hr
      rw [if_neg (List.ne_nil_of_mem hr)] at hfound
      exact hkeys (hfound ▸ text_mem_keys_ofRules hr)
    have hexact := hk.filter_eq _ (.exact s values) fun r hr haccepted =>
      hreported r (List.mem_append_left _ (List.mem_filter.2 ⟨hr, haccepted⟩))
    have hpatterns := hk.filter_eq _ (.patterns s values) fun r hr haccepted =>
      hreported r (List.mem_append_right _ (List.mem_filter.2 ⟨hr, haccepted⟩))
    have hdeciding : deciding s values kept = deciding s values rules := by
      rw [deciding, deciding, hexact, hpatterns]
    have hkind : decidingKind s values kept = decidingKind s values rules := by
      rw [decidingKind, decidingKind, hexact]
    rw [hdeciding, hkind, ← hfound]
    by_cases hnil : deciding s values rules = []
    · rw [if_pos hnil] at hfound
      have hplain := hk.find?_isPlainFor (s := s) h hkept fun r hr =>
        hkeys (by simp [← hfound, plain?, hr, ofRules])
      rw [if_pos hnil, if_pos hnil, plain?, plain?, hplain]
    · rw [if_neg hnil, if_neg hnil]

theorem advisory?_eq (hk : Keeps none rules kept keys) (h : Distinct rules) (hkept : Distinct kept)
    (hkeys : keysOf (advisory? s rules) ⊆ keys) : advisory? s kept = advisory? s rules := by
  rw [Ruling.advisory?_eq] at hkeys
  have hbracketed : kept.filter (isBracketedFor s) = rules.filter (isBracketedFor s) := by
    refine hk.filter_eq _ (.untried s) fun r hr hr' => hkeys ?_
    have hmem : r ∈ rules.filter (isBracketedFor s) := List.mem_filter.2 ⟨hr, hr'⟩
    cases rules.find? (isPlainFor s) with
    | some p => exact text_mem_keys_ofRules (List.mem_append_left _ hmem)
    | none =>
      obtain ⟨first, rest, hcons⟩ := List.exists_cons_of_ne_nil (List.ne_nil_of_mem hmem)
      rw [hcons] at hmem ⊢
      exact text_mem_keys_ofRules hmem
  have hplain := hk.find?_isPlainFor (s := s) h hkept fun r hr =>
    hkeys (by simp [hr, ofRules])
  rw [Ruling.advisory?_eq, Ruling.advisory?_eq, hbracketed, hplain]

theorem wildcard?_eq (hk : Keeps args rules kept keys) (h : Distinct rules) (hkept : Distinct kept)
    (hkeys : keysOf (wildcard? method rules) ⊆ keys) :
    wildcard? method kept = wildcard? method rules := by
  cases hfound : wildcard? method rules with
  | none =>
    exact wildcard?_eq_none_iff.2 fun r hr => wildcard?_eq_none_iff.1 hfound r (hk.subset hr)
  | some ruling =>
    obtain ⟨chosen, hchosen, hwildcard, rfl, hmax⟩ := h.wildcard?_eq_some_iff.1 hfound
    have hmem : chosen ∈ kept :=
      hk.mem chosen hchosen (hkeys (hfound ▸ text_mem_keys_ofRules List.mem_cons_self))
    exact hkept.wildcard?_eq_some_iff.2
      ⟨chosen, hmem, hwildcard, rfl, fun r hr => hmax r (hk.subset hr)⟩

theorem ruling?_eq (hk : Keeps args rules kept keys) (h : Distinct rules) (hkept : Distinct kept)
    {stage : Stage} (hfound : stage.ruling? method args signature rules = .ok found)
    (hkeys : keysOf found ⊆ keys) : stage.ruling? method args signature kept = .ok found := by
  unfold Stage.ruling? at hfound ⊢
  cases hshape : stage.shape? method signature with
  | some s =>
    simp only [hshape] at hfound ⊢
    cases args with
    | some values => exact hk.concrete?_eq h hkept hfound hkeys
    | none =>
      cases hfound
      exact congrArg Except.ok (hk.advisory?_eq h hkept hkeys)
  | none =>
    simp only [hshape] at hfound ⊢
    by_cases hwildcard : stage = .wildcard
    · rw [if_pos hwildcard] at hfound ⊢
      cases hfound
      exact congrArg Except.ok (hk.wildcard?_eq h hkept hkeys)
    · rw [if_neg hwildcard] at hfound ⊢
      exact hfound

/-- If the rules are kept that an outcome reports, others may be dropped. -/
theorem resolve_eq (h : Distinct rules) (hkept : Distinct kept) {outcome : Option Ruling}
    (hk : Keeps args rules kept (keysOf outcome))
    (houtcome : resolve method args signature rules = .ok outcome) :
    resolve method args signature kept = .ok outcome := by
  obtain ⟨stage, hdecided⟩ := resolve_eq_ok_iff.1 houtcome
  refine resolve_eq_ok_iff.2 ⟨stage, fun earlier hearlier => ?_, ?_, hdecided.eq_none_iff⟩
  · exact hk.ruling?_eq h hkept (hdecided.reached earlier hearlier) (List.nil_subset _)
  · exact hk.ruling?_eq h hkept hdecided.ruling fun _ hkey => hkey

end Keeps

/-! ## The rules that decide -/

/-- The rule is valid, and its argument list accepts the arguments if it has one. -/
structure Applies (values : List Value) (r : Rule) : Prop where
  kind_ne_invalid : r.key.kind ≠ .invalid
  accepts : ∀ ms ∈ r.key.matchers?, Matcher.acceptAll ms values = .ok true

/-- The ruling is made of different rules of the list, in an order in which they decide again, and
all of them apply to the arguments if those are known. -/
structure RestsOn (args : Option (List Value)) (rules chosen : List Rule) (ruling : Ruling) :
    Prop where
  ruling_eq : ruling = ofRules ruling.kind chosen
  ne_nil : chosen ≠ []
  nodup : chosen.Nodup
  keeps : Keeps args rules chosen (chosen.map Rule.text)
  applies : ∀ values ∈ args, ∀ r ∈ chosen, Applies values r

theorem applies_of_isPlainFor (h : isPlainFor s r = true) : Applies values r := by
  have hkey := isPlainFor_iff.1 h
  refine ⟨?_, by simp [hkey, RuleKey.matchers?]⟩
  rw [hkey, RuleKey.kind, RuleKey.Kind.ofShape]
  split <;> simp

theorem applies_of_isWildcardFor (h : isWildcardFor method r = true) : Applies values r := by
  obtain ⟨beginning, hkey, -⟩ := isWildcardFor_iff.1 h
  exact ⟨by simp [hkey, RuleKey.kind], by simp [hkey, RuleKey.matchers?]⟩

theorem applies_of_accepted {kind : RuleKey.Kind} (hkind : kind = .exact ∨ kind = .regex)
    (h : accepted kind s values r = true) : Applies values r := by
  obtain ⟨rfl, -, haccepts⟩ := accepted_iff.1 h
  refine ⟨?_, fun ms hms => ?_⟩
  · obtain hexact | hregex := hkind
    · simp [hexact]
    · simp [hregex]
  · rwa [Option.mem_def.1 hms] at haccepts

omit [Pattern.Machine] in
theorem Distinct.nodup (h : Distinct rules) : rules.Nodup :=
  h.nodup_texts.of_map

omit [Pattern.Machine] in
theorem Distinct.mem_of_text_mem (h : Distinct rules) {chosen : List Rule}
    (hsub : chosen ⊆ rules) (hr : r ∈ rules) (htext : r.text ∈ chosen.map Rule.text) :
    r ∈ chosen := by
  obtain ⟨q, hq, hqr⟩ := List.mem_map.1 htext
  exact h.eq_of_text_eq (hsub hq) hr hqr ▸ hq

/-- A ruling may rest on one rule for all arguments. -/
theorem restsOn_single (h : Distinct rules) {chosen : Rule} (hchosen : chosen ∈ rules)
    (hbracketed : chosen.key.isBracketed = false) (happlies : ∀ values, Applies values chosen)
    (kind : RuleKey.Kind) : RestsOn args rules [chosen] (ofRules kind [chosen]) where
  ruling_eq := rfl
  ne_nil := List.cons_ne_nil _ _
  nodup := List.nodup_singleton _
  keeps := by
    have hsub : [chosen] ⊆ rules := by simpa using hchosen
    refine ⟨hsub, fun r hr => h.mem_of_text_mem hsub hr, fun sort htogether hsort => ?_⟩
    -- Rules of the sort would be reported, but none is: they have argument lists.
    have hnone : ∀ r ∈ rules, sort r = false := by
      intro r hr
      refine Bool.eq_false_iff.2 fun hr' => ?_
      obtain rfl : r = chosen := by
        simpa using h.mem_of_text_mem hsub hr (hsort r hr hr')
      rw [htogether.isBracketed hr'] at hbracketed
      cases hbracketed
    rw [List.filter_eq_nil_iff.2 fun r hr => by simp [hnone r (hsub hr)],
      List.filter_eq_nil_iff.2 fun r hr => by simp [hnone r hr]]
  applies := fun values _ r hr => by
    obtain rfl : r = chosen := by simpa using hr
    exact happlies values

omit [Pattern.Machine] in
/-- Among rules of other sorts, the rules of a sort are found in their order. -/
theorem filter_append_filter_append (front back : List Rule) {sort mine : Rule → Bool}
    (hmine : ∀ r ∈ rules, sort r = true → mine r = true)
    (hothers : ∀ r ∈ front ++ back, sort r = false) :
    (front ++ rules.filter mine ++ back).filter sort = rules.filter sort := by
  have hfront : front.filter sort = [] :=
    List.filter_eq_nil_iff.2 fun r hr => by simp [hothers r (List.mem_append_left _ hr)]
  have hback : back.filter sort = [] :=
    List.filter_eq_nil_iff.2 fun r hr => by simp [hothers r (List.mem_append_right _ hr)]
  rw [List.filter_append, List.filter_append, hfront, hback, List.nil_append, List.append_nil,
    List.filter_filter]
  refine List.filter_congr fun r hr => ?_
  cases hr' : sort r with
  | false => rfl
  | true => rw [hmine r hr hr', Bool.and_self]

/-- A rule accepts arguments under one kind only, such as exact values or patterns. -/
theorem accepted_eq_false_of_ne {kind other : RuleKey.Kind} {t : Shape} (hne : kind ≠ other)
    (h : accepted kind s values r = true) : accepted other t values r = false :=
  Bool.eq_false_iff.2 fun h' => hne ((accepted_iff.1 h).1.symm.trans (accepted_iff.1 h').1)

/-- A ruling may rest on rules that accept the arguments. -/
theorem restsOn_deciding (h : Distinct rules) (hne : deciding s values rules ≠ [])
    (kind : RuleKey.Kind) : RestsOn (some values) rules (deciding s values rules)
      (ofRules kind (deciding s values rules)) where
  ruling_eq := rfl
  ne_nil := hne
  nodup := by
    refine List.nodup_append.2 ⟨h.nodup.filter _, h.nodup.filter _, ?_⟩
    rintro r hr _ hr' rfl
    have hpatterns := (List.mem_filter.1 hr').2
    rw [accepted_eq_false_of_ne (by decide) (List.mem_filter.1 hr).2] at hpatterns
    cases hpatterns
  keeps := by
    have hsub : deciding s values rules ⊆ rules := fun r hr => (of_mem_deciding hr).1
    refine ⟨hsub, fun r hr => h.mem_of_text_mem hsub hr, fun sort htogether hsort => ?_⟩
    have hmem : ∀ r ∈ rules, sort r = true →
        accepted .exact s values r = true ∨ accepted .regex s values r = true := by
      intro r hr hr'
      have hreported := h.mem_of_text_mem hsub hr (hsort r hr hr')
      exact (List.mem_append.1 hreported).imp (fun h => (List.mem_filter.1 h).2)
        fun h => (List.mem_filter.1 h).2
    cases htogether with
    | exact t values =>
      have hfilter : (rules.filter (accepted .exact s values) ++
          rules.filter (accepted .regex s values)).filter (accepted .exact t values) =
            rules.filter (accepted .exact t values) := by
        refine filter_append_filter_append [] _ (fun r hr hr' => ?_) fun r hr => ?_
        · refine (hmem r hr hr').resolve_right fun hpatterns => ?_
          rw [accepted_eq_false_of_ne (by decide) hpatterns] at hr'
          cases hr'
        · exact accepted_eq_false_of_ne (by decide) (List.mem_filter.1 hr).2
      exact hfilter
    | patterns t values =>
      have hfilter : (rules.filter (accepted .exact s values) ++
          rules.filter (accepted .regex s values) ++ []).filter (accepted .regex t values) =
            rules.filter (accepted .regex t values) := by
        refine filter_append_filter_append _ [] (fun r hr hr' => ?_) fun r hr => ?_
        · refine (hmem r hr hr').resolve_left fun hexact => ?_
          rw [accepted_eq_false_of_ne (by decide) hexact] at hr'
          cases hr'
        · rw [List.append_nil] at hr
          exact accepted_eq_false_of_ne (by decide) (List.mem_filter.1 hr).2
      rwa [List.append_nil] at hfilter
  applies := by
    rintro _ ⟨⟩ r hr
    obtain hr | hr := List.mem_append.1 hr
    · exact applies_of_accepted (.inl rfl) (List.mem_filter.1 hr).2
    · exact applies_of_accepted (.inr rfl) (List.mem_filter.1 hr).2

/-- An advisory ruling rests on all rules with an argument list and the plain rule. -/
theorem restsOn_untried (h : Distinct rules) {plain : List Rule} (hplain : plain ⊆ rules)
    (hnodup : plain.Nodup) (hbracketed : ∀ r ∈ plain, r.key.isBracketed = false)
    (hne : rules.filter (isBracketedFor s) ++ plain ≠ []) (kind : RuleKey.Kind) :
    RestsOn none rules (rules.filter (isBracketedFor s) ++ plain)
      (ofRules kind (rules.filter (isBracketedFor s) ++ plain)) where
  ruling_eq := rfl
  ne_nil := hne
  nodup := by
    refine List.nodup_append.2 ⟨h.nodup.filter _, hnodup, ?_⟩
    rintro r hr _ hr' rfl
    have hbracket := (Bool.and_eq_true_iff.1 (List.mem_filter.1 hr).2).1
    rw [hbracketed r hr'] at hbracket
    cases hbracket
  keeps := by
    have hsub : rules.filter (isBracketedFor s) ++ plain ⊆ rules :=
      List.append_subset.2 ⟨List.filter_sublist.subset, hplain⟩
    refine ⟨hsub, fun r hr => h.mem_of_text_mem hsub hr, fun sort htogether hsort => ?_⟩
    have hunbracketed : ∀ r ∈ plain, sort r = false := by
      intro r hr
      refine Bool.eq_false_iff.2 fun hr' => ?_
      have hbracket := htogether.isBracketed hr'
      rw [hbracketed r hr] at hbracket
      cases hbracket
    refine filter_append_filter_append [] plain ?_ ?_
    · intro r hr hr'
      have hreported := h.mem_of_text_mem hsub hr (hsort r hr hr')
      obtain hmem | hmem := List.mem_append.1 hreported
      · exact (List.mem_filter.1 hmem).2
      · rw [hunbracketed r hmem] at hr'
        cases hr'
    · exact hunbracketed
  applies := nofun

theorem exists_restsOn_of_concrete? (h : Distinct rules) {ruling : Ruling}
    (hruling : concrete? s values rules = .ok (some ruling)) :
    ∃ chosen, RestsOn (some values) rules chosen ruling := by
  have hfound := eq_of_concrete? hruling
  split at hfound
  · obtain ⟨r, hr, rfl⟩ := Option.map_eq_some_iff.1 hfound.symm
    obtain ⟨hmem, hplain⟩ := h.find?_isPlainFor_eq_some_iff.1 hr
    exact ⟨[r], restsOn_single h hmem (isBracketed_of_isPlainFor hplain)
      (fun _ => applies_of_isPlainFor hplain) _⟩
  · next hne =>
    cases hfound
    exact ⟨_, restsOn_deciding h hne _⟩

theorem exists_restsOn_of_advisory? (h : Distinct rules) {ruling : Ruling}
    (hruling : advisory? s rules = some ruling) :
    ∃ chosen, RestsOn none rules chosen ruling := by
  rw [advisory?_eq] at hruling
  split at hruling
  · next r hr =>
    cases hruling
    obtain ⟨hmem, hplain⟩ := h.find?_isPlainFor_eq_some_iff.1 hr
    have hbracketed : ∀ q ∈ [r], q.key.isBracketed = false := by
      simpa using isBracketed_of_isPlainFor hplain
    exact ⟨_, restsOn_untried h (by simpa using hmem) (List.nodup_singleton r) hbracketed
      (by simp) _⟩
  · obtain ⟨first, hfirst, rfl⟩ := Option.map_eq_some_iff.1 hruling
    have hne : rules.filter (isBracketedFor s) ++ [] ≠ [] := by
      rw [List.append_nil]
      exact List.ne_nil_of_mem (List.mem_of_mem_head? hfirst)
    have hrests := restsOn_untried h (List.nil_subset _) List.nodup_nil (by simp) hne first.key.kind
    rw [List.append_nil] at hrests
    exact ⟨_, hrests⟩

/-- Every ruling rests on rules of the list. -/
theorem exists_restsOn (h : Distinct rules) {ruling : Ruling}
    (hruling : resolve method args signature rules = .ok (some ruling)) :
    ∃ chosen, RestsOn args rules chosen ruling := by
  obtain ⟨stage, hdecided⟩ := resolve_eq_ok_iff.1 hruling
  have hfound := hdecided.ruling
  unfold Stage.ruling? at hfound
  split at hfound
  · cases args with
    | some values => exact exists_restsOn_of_concrete? h hfound
    | none => exact exists_restsOn_of_advisory? h (Except.ok.inj hfound)
  · split at hfound
    · obtain ⟨chosen, hmem, hwildcard, rfl, -⟩ :=
        exists_of_wildcard?_eq_some (Except.ok.inj hfound)
      exact ⟨[chosen], restsOn_single h hmem (isBracketed_of_isWildcardFor hwildcard)
        (fun _ => applies_of_isWildcardFor hwildcard) _⟩
    · cases hfound

end Ruling

end RoleGate
