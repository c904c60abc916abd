import RoleGate.Proofs.Ruling.Stage

/-!
# Advisory rulings

Without arguments, rules with argument lists decide untried. Such a ruling is never found later than
the ruling on any arguments, and grants at least the same roles if both are found at one stage. It
is found earlier only where rules with argument lists stand without a plain rule for their shape:
then arguments that none of them accepts go on to the next stage.

## Main definitions

* `Ruling.HasBracketed`, `Ruling.HasPlain` — there are rules of a sort for a shape.
* `Ruling.rolesOf` — the roles that an outcome grants.
* `Ruling.Covered` — rules with argument lists stand beside plain rules.
-/

namespace RoleGate

namespace Ruling

variable {s : Shape} {method : Text} {values : List Value} {signature : Option (List Text)}
  {rules : List Rule} {concrete advisory : Option Ruling}

/-- There is a rule with an argument list, read or not, for the shape. -/
def HasBracketed (s : Shape) (rules : List Rule) : Prop :=
  ∃ r ∈ rules, isBracketedFor s r = true

/-- There is a plain rule for the shape. -/
def HasPlain (s : Shape) (rules : List Rule) : Prop :=
  ∃ r ∈ rules, isPlainFor s r = true

/-- The roles that an outcome grants. -/
def rolesOf (outcome : Option Ruling) : List Text :=
  (outcome.map Ruling.roles).getD []

/-! ## One shape -/

theorem plain?_eq_none_iff : plain? s rules = none ↔ ¬ HasPlain s rules := by
  simp [plain?, HasPlain]

theorem advisory?_eq_none_iff :
    advisory? s rules = none ↔ ¬ HasBracketed s rules ∧ ¬ HasPlain s rules := by
  have hplain : rules.find? (isPlainFor s) = none ↔ ¬ HasPlain s rules := by simp [HasPlain]
  have hbracketed : rules.filter (isBracketedFor s) = [] ↔ ¬ HasBracketed s rules := by
    simp [HasBracketed, List.filter_eq_nil_iff]
  rw [← hplain, ← hbracketed, advisory?_eq]
  cases rules.find? (isPlainFor s) with
  | some r => simp
  | none => cases rules.filter (isBracketedFor s) <;> simp

/-- The rules of an advisory ruling are those with an argument list and the plain rule. -/
theorem mem_rolesOf_advisory? {r : Rule} {role : Text}
    (hr : r ∈ rules.filter (isBracketedFor s) ∨ rules.find? (isPlainFor s) = some r)
    (hrole : role ∈ r.roles) : role ∈ rolesOf (advisory? s rules) := by
  rw [advisory?_eq]
  obtain hr | hr := hr
  · have hmem : role ∈ (rules.filter (isBracketedFor s)).flatMap Rule.roles :=
      List.mem_flatMap.2 ⟨r, hr, hrole⟩
    cases rules.find? (isPlainFor s) with
    | some p =>
      simp only [rolesOf, ofRules, Option.map_some, Option.getD_some, List.flatMap_append,
        List.mem_append]
      exact .inl hmem
    | none =>
      obtain ⟨first, others, hfirst⟩ := List.exists_cons_of_ne_nil (List.ne_nil_of_mem hr)
      rw [hfirst] at hmem ⊢
      exact hmem
  · rw [hr]
    simp only [rolesOf, ofRules, Option.map_some, Option.getD_some, List.flatMap_append,
      List.mem_append]
    exact .inr (by simpa using hrole)

variable [Pattern.Machine]

theorem rolesOf_concrete?_subset (h : concrete? s values rules = .ok concrete) :
    rolesOf concrete ⊆ rolesOf (advisory? s rules) := by
  intro role hrole
  rw [eq_of_concrete? h] at hrole
  split at hrole
  · cases hplain : rules.find? (isPlainFor s) with
    | none => simp [rolesOf, plain?, hplain] at hrole
    | some r =>
      refine mem_rolesOf_advisory? (.inr hplain) ?_
      simpa [rolesOf, plain?, hplain, ofRules] using hrole
  · obtain ⟨r, hr, hrole⟩ := List.mem_flatMap.1 hrole
    exact mem_rolesOf_advisory? (.inl (List.mem_filter.2 (of_mem_deciding hr))) hrole

/-- What decides for some arguments decides without arguments, too. -/
theorem concrete?_eq_none (h : concrete? s values rules = .ok concrete)
    (hadvisory : advisory? s rules = none) : concrete = none := by
  obtain ⟨hbracketed, hplain⟩ := advisory?_eq_none_iff.1 hadvisory
  have hdeciding : deciding s values rules = [] :=
    List.eq_nil_iff_forall_not_mem.2 fun r hr => hbracketed ⟨r, of_mem_deciding hr⟩
  rw [eq_of_concrete? h, if_pos hdeciding, plain?_eq_none_iff]
  exact hplain

/-- Arguments are left undecided only by rules with argument lists that have no plain rule beside
them. -/
theorem hasBracketed_of_concrete?_eq_none (h : concrete? s values rules = .ok none)
    (hadvisory : advisory? s rules ≠ none) : HasBracketed s rules ∧ ¬ HasPlain s rules := by
  have hplain : ¬ HasPlain s rules := by
    have hnone := eq_of_concrete? h
    split at hnone
    · exact plain?_eq_none_iff.1 hnone.symm
    · cases hnone
  refine ⟨Classical.byContradiction fun hbracketed => ?_, hplain⟩
  exact hadvisory (advisory?_eq_none_iff.2 ⟨hbracketed, hplain⟩)

/-! ## All stages -/

/-- At each stage without arguments the rules have an answer, and it stands for the answers on all
arguments. -/
theorem exists_advisory_ruling (stage : Stage)
    (h : stage.ruling? method (some values) signature rules = .ok concrete) :
    ∃ advisory, stage.ruling? method none signature rules = .ok advisory ∧
      rolesOf concrete ⊆ rolesOf advisory ∧ (advisory = none → concrete = none) ∧
      (concrete = none → advisory ≠ none →
        ∃ s, stage.shape? method signature = some s ∧
          HasBracketed s rules ∧ ¬ HasPlain s rules) := by
  unfold Stage.ruling? at h ⊢
  cases hshape : stage.shape? method signature with
  | some s =>
    simp only [hshape] at h
    refine ⟨advisory? s rules, rfl, rolesOf_concrete?_subset h, concrete?_eq_none h, ?_⟩
    rintro rfl hadvisory
    exact ⟨s, rfl, hasBracketed_of_concrete?_eq_none h hadvisory⟩
  | none =>
    simp only [hshape] at h
    exact ⟨concrete, h, fun _ hrole => hrole, id, fun hnone hsome => absurd hnone hsome⟩

theorem exists_resolve_advisory (method : Text) (signature : Option (List Text))
    (rules : List Rule) : ∃ advisory, resolve method none signature rules = .ok advisory := by
  have hanswers : ∀ stage : Stage,
      ∃ found, stage.ruling? method none signature rules = .ok found := by
    intro stage
    unfold Stage.ruling?
    cases stage.shape? method signature <;> exact ⟨_, rfl⟩
  obtain ⟨overload, hoverload⟩ := hanswers .overload
  obtain ⟨any, hany⟩ := hanswers .method
  rw [resolve_eq, hoverload, hany]
  cases overload <;> cases any <;> exact ⟨_, rfl⟩

/-- What is decided at a stage for some arguments is decided without arguments there or earlier. -/
theorem exists_advisory_stage {c : Stage}
    (h : DecidedAt method (some values) signature rules c concrete) :
    ∃ a advisory, DecidedAt method none signature rules a advisory ∧ a.number ≤ c.number ∧
      (a = c → (advisory = none ↔ concrete = none) ∧ rolesOf concrete ⊆ rolesOf advisory) ∧
      (a.number < c.number →
        ∃ s, a.shape? method signature = some s ∧ HasBracketed s rules ∧ ¬ HasPlain s rules) := by
  obtain ⟨advisory, hadvisory⟩ := exists_resolve_advisory method signature rules
  obtain ⟨a, ha⟩ := resolve_eq_ok_iff.1 hadvisory
  refine ⟨a, advisory, ha, ?_, ?_, ?_⟩
  · refine Nat.le_of_not_lt fun hlater => ?_
    -- The deciding stage would have been passed without arguments.
    have hpassed := ha.reached c hlater
    obtain ⟨found, hfound, -, hnone, -⟩ := exists_advisory_ruling c h.ruling
    obtain rfl := Except.ok.inj (hfound.symm.trans hpassed)
    have hc : c = .noRule := h.eq_none_iff.1 (hnone rfl)
    have hbound := a.number_le_noRule
    rw [hc] at hlater
    omega
  · rintro rfl
    obtain ⟨found, hfound, hroles, -, -⟩ := exists_advisory_ruling a h.ruling
    obtain rfl := Except.ok.inj (hfound.symm.trans ha.ruling)
    exact ⟨ha.eq_none_iff.trans h.eq_none_iff.symm, hroles⟩
  · intro hearlier
    obtain ⟨found, hfound, -, -, hbracketed⟩ := exists_advisory_ruling a (h.reached a hearlier)
    obtain rfl := Except.ok.inj (hfound.symm.trans ha.ruling)
    refine hbracketed rfl fun hnone => ?_
    have hbound := c.number_le_noRule
    rw [ha.eq_none_iff.1 hnone] at hearlier
    omega

/-! ## Covered shapes -/

/-- Every shape that is consulted without arguments has a plain rule if it has rules with an
argument list. -/
def Covered (method : Text) (signature : Option (List Text)) (rules : List Rule) : Prop :=
  ∀ (stage : Stage) (s : Shape), stage.Reached method none signature rules →
    stage.shape? method signature = some s → HasBracketed s rules → HasPlain s rules

/-- Where all shapes are covered, rules decide without arguments exactly if they decide for any, and
grant at least the same roles. -/
theorem Covered.exists_advisory (hcovered : Covered method signature rules)
    (h : resolve method (some values) signature rules = .ok concrete) :
    ∃ advisory, resolve method none signature rules = .ok advisory ∧
      (advisory = none ↔ concrete = none) ∧ rolesOf concrete ⊆ rolesOf advisory := by
  obtain ⟨c, hc⟩ := resolve_eq_ok_iff.1 h
  obtain ⟨a, advisory, ha, hle, hsame, hearlier⟩ := exists_advisory_stage hc
  have heq : a = c := by
    refine Stage.number_injective (Nat.le_antisymm hle (Nat.le_of_not_lt fun hlt => ?_))
    obtain ⟨s, hshape, hbracketed, hplain⟩ := hearlier hlt
    exact hplain (hcovered a s ha.reached hshape hbracketed)
  exact ⟨advisory, resolve_eq_ok_iff.2 ⟨a, ha⟩, hsame heq⟩

end Ruling

end RoleGate
