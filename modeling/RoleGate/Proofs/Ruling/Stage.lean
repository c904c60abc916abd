import RoleGate.Proofs.Outcome
import RoleGate.Proofs.Ruling.Choice

/-!
# Stages of a ruling

A ruling is looked for in stages: for the overload that is asked for, for the method, among the
wildcards. The first stage that has a ruling decides, and every ruling is made of rules of the list.

## Main definitions

* `Stage` — the stages, and the absence of a rule as the last.
* `Stage.ruling?` — what the rules say at a stage.
* `Ruling.DecidedAt` — the stage at which the rules decide, and the outcome.
-/

namespace RoleGate

/-- The stages at which a ruling is looked for, the most specific first. The last one is reached
where no rule decides. -/
inductive Stage where
  | overload
  | method
  | wildcard
  | noRule
  deriving DecidableEq

namespace Stage

/-- The place of a stage among the stages. -/
def number : Stage → Nat
  | overload => 1
  | method => 2
  | wildcard => 3
  | noRule => 4

/-- The shape that rules are looked for at a stage. -/
def shape? (method : Text) (signature : Option (List Text)) : Stage → Option Shape
  | overload => signature.map fun types => ⟨method, some (types.map Text.trim)⟩
  | .method => some ⟨method, none⟩
  | wildcard | noRule => none

section

variable [Pattern.Machine]

/-- What the rules say at a stage. -/
def ruling? (method : Text) (args : Option (List Value)) (signature : Option (List Text))
    (rules : List Rule) (stage : Stage) : Except Error (Option Ruling) :=
  match stage.shape? method signature with
  | some s => Ruling.ofShape? s args rules
  | none => .ok (if stage = wildcard then Ruling.wildcard? method rules else none)

/-- The stage is reached: no stage before it has a ruling. -/
def Reached (method : Text) (args : Option (List Value)) (signature : Option (List Text))
    (rules : List Rule) (stage : Stage) : Prop :=
  ∀ earlier : Stage, earlier.number < stage.number →
    earlier.ruling? method args signature rules = .ok none

variable {method : Text} {args : Option (List Value)} {signature : Option (List Text)}
  {rules : List Rule}

theorem reached_overload : overload.Reached method args signature rules := by
  intro earlier hearlier
  cases earlier <;> simp [number] at hearlier

theorem reached_method :
    Stage.method.Reached method args signature rules ↔
      overload.ruling? method args signature rules = .ok none := by
  constructor
  · intro h
    exact h overload (by decide)
  · intro h earlier hearlier
    cases earlier with
    | overload => exact h
    | method | wildcard | noRule => simp [number] at hearlier

theorem reached_wildcard :
    wildcard.Reached method args signature rules ↔
      overload.ruling? method args signature rules = .ok none ∧
        Stage.method.ruling? method args signature rules = .ok none := by
  constructor
  · intro h
    exact ⟨h overload (by decide), h .method (by decide)⟩
  · rintro ⟨hoverload, hmethod⟩ earlier hearlier
    cases earlier with
    | overload => exact hoverload
    | method => exact hmethod
    | wildcard | noRule => simp [number] at hearlier

theorem reached_noRule :
    noRule.Reached method args signature rules ↔
      wildcard.Reached method args signature rules ∧ Ruling.wildcard? method rules = none := by
  constructor
  · intro h
    refine ⟨fun earlier hearlier => h earlier (Nat.lt_succ_of_lt hearlier), ?_⟩
    simpa [ruling?, shape?] using h wildcard (by decide)
  · rintro ⟨hreached, hwildcard⟩ earlier hearlier
    cases earlier with
    | overload => exact hreached overload (by decide)
    | method => exact hreached .method (by decide)
    | wildcard => simp [ruling?, shape?, hwildcard]
    | noRule => simp [number] at hearlier

end

theorem number_injective {a b : Stage} (h : a.number = b.number) : a = b := by
  cases a <;> cases b <;> first | rfl | cases h

theorem number_le_noRule (stage : Stage) : stage.number ≤ noRule.number := by
  cases stage <;> decide

end Stage

namespace Ruling

variable [Pattern.Machine] {method : Text} {args : Option (List Value)}
  {signature : Option (List Text)} {rules : List Rule} {outcome : Option Ruling}

/-- The rules decide at the stage, with the outcome. -/
structure DecidedAt (method : Text) (args : Option (List Value)) (signature : Option (List Text))
    (rules : List Rule) (stage : Stage) (outcome : Option Ruling) : Prop where
  reached : stage.Reached method args signature rules
  ruling : stage.ruling? method args signature rules = .ok outcome
  eq_none_iff : outcome = none ↔ stage = .noRule

theorem resolve_eq (method : Text) (args : Option (List Value)) (signature : Option (List Text))
    (rules : List Rule) :
    resolve method args signature rules = do
      match ← Stage.overload.ruling? method args signature rules with
      | some r => return some r
      | none =>
        match ← Stage.method.ruling? method args signature rules with
        | some r => return some r
        | none => return wildcard? method rules := by
  cases signature <;> rfl

/-- The rules have an outcome exactly if they decide at some stage. -/
theorem resolve_eq_ok_iff :
    resolve method args signature rules = .ok outcome ↔
      ∃ stage, DecidedAt method args signature rules stage outcome := by
  constructor
  · intro h
    rw [resolve_eq] at h
    obtain ⟨overload, hoverload, h⟩ := except_bind_eq_ok_iff.1 h
    cases overload with
    | some r =>
      cases h
      exact ⟨.overload, Stage.reached_overload, hoverload, by simp⟩
    | none =>
      obtain ⟨general, hmethod, h⟩ := except_bind_eq_ok_iff.1 h
      cases general with
      | some r =>
        cases h
        exact ⟨.method, Stage.reached_method.2 hoverload, hmethod, by simp⟩
      | none =>
        cases h
        have hreached := Stage.reached_wildcard.2 ⟨hoverload, hmethod⟩
        cases hwildcard : wildcard? method rules with
        | some r => exact ⟨.wildcard, hreached, congrArg Except.ok hwildcard, by simp⟩
        | none => exact ⟨.noRule, Stage.reached_noRule.2 ⟨hreached, hwildcard⟩, rfl, by simp⟩
  · rintro ⟨stage, hreached, hruling, hnone⟩
    rw [resolve_eq]
    cases stage with
    | overload =>
      obtain ⟨r, rfl⟩ : ∃ r, outcome = some r := by simpa [Option.ne_none_iff_exists'] using hnone
      rw [hruling]
      rfl
    | method =>
      obtain ⟨r, rfl⟩ : ∃ r, outcome = some r := by simpa [Option.ne_none_iff_exists'] using hnone
      rw [Stage.reached_method.1 hreached, hruling]
      rfl
    | wildcard =>
      obtain ⟨hoverload, hmethod⟩ := Stage.reached_wildcard.1 hreached
      rw [hoverload, hmethod]
      exact hruling
    | noRule =>
      obtain ⟨hreached, hwildcard⟩ := Stage.reached_noRule.1 hreached
      obtain ⟨hoverload, hmethod⟩ := Stage.reached_wildcard.1 hreached
      obtain rfl := hnone.2 rfl
      rw [hoverload, hmethod]
      exact congrArg Except.ok hwildcard

/-- The rules decide at one stage and with one outcome. -/
theorem DecidedAt.unique {a b : Stage} {other : Option Ruling}
    (ha : DecidedAt method args signature rules a outcome)
    (hb : DecidedAt method args signature rules b other) : a = b ∧ outcome = other := by
  have houtcome : outcome = other :=
    Except.ok.inj ((resolve_eq_ok_iff.2 ⟨a, ha⟩).symm.trans (resolve_eq_ok_iff.2 ⟨b, hb⟩))
  subst houtcome
  have hnot : ∀ {first second : Stage}, DecidedAt method args signature rules first outcome →
      DecidedAt method args signature rules second outcome → ¬ first.number < second.number := by
    intro first second hfirst hsecond hlt
    have hnone : outcome = none :=
      Except.ok.inj (hfirst.ruling.symm.trans (hsecond.reached first hlt))
    have hbound := second.number_le_noRule
    rw [hfirst.eq_none_iff.1 hnone] at hlt
    omega
  have ha' := hnot ha hb
  have hb' := hnot hb ha
  exact ⟨Stage.number_injective (by omega), rfl⟩

/-- Every ruling is made of rules of the list. -/
theorem madeOf_resolve {ruling : Ruling}
    (h : resolve method args signature rules = .ok (some ruling)) : MadeOf rules ruling := by
  obtain ⟨stage, hdecided⟩ := resolve_eq_ok_iff.1 h
  have hruling := hdecided.ruling
  unfold Stage.ruling? at hruling
  split at hruling
  · cases args with
    | some values => exact madeOf_concrete? hruling
    | none => exact madeOf_advisory? (Except.ok.inj hruling)
  · split at hruling
    · obtain ⟨chosen, hmem, -, rfl, -⟩ := exists_of_wildcard?_eq_some (Except.ok.inj hruling)
      exact ⟨_, [chosen], by simpa using hmem, rfl⟩
    · cases hruling

/-- A catch-all wildcard leaves no invocation without a ruling. -/
theorem resolve_ne_none_of_catchAll {r : Rule} (hr : r ∈ rules)
    (hcatchAll : r.key.isCatchAll = true) : resolve method args signature rules ≠ .ok none := by
  intro h
  obtain ⟨stage, hdecided⟩ := resolve_eq_ok_iff.1 h
  obtain rfl := hdecided.eq_none_iff.1 rfl
  have hnone := wildcard?_eq_none_iff.1 (Stage.reached_noRule.1 hdecided.reached).2 r hr
  have hkey : r.key = .wildcard [] := by
    unfold RuleKey.isCatchAll at hcatchAll
    split at hcatchAll
    · assumption
    · cases hcatchAll
  simp [isWildcardFor, hkey] at hnone

end Ruling

end RoleGate
