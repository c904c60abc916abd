import RoleGate.Proofs.Key.Idempotence
import RoleGate.Proofs.Ruling.Distinct
import RoleGate.Proofs.Ruling.Stage

/-!
# The order of rules

Which rules decide does not depend on the order in which a table has its rules. The order shows only
in the order of the roles and keys of a ruling, and, where rules with argument lists decide untried,
in the kind under which they do.

## Main definitions

* `RuleKey.Kind.isGeneral` — rules of a kind are for all arguments.
* `Ruling.Reordered` — two outcomes differ in order only.

## Main statements

* `Ruling.reordered_resolve` — reordered rules have reordered rulings.
-/

namespace RoleGate

/-- Rules of this kind are for all arguments: plain rules and wildcards. -/
def RuleKey.Kind.isGeneral : Kind → Bool
  | method | signature | wildcard => true
  | exact | regex | invalid => false

theorem RuleKey.isGeneral_kind_of_isBracketed {k : RuleKey} (h : k.isBracketed = true) :
    k.kind.isGeneral = false := by
  cases k with
  | plain | wildcard => cases h
  | exact | pattern | invalid => rfl

namespace Ruling

variable {s : Shape} {method : Text} {values : List Value} {args : Option (List Value)}
  {signature : Option (List Text)} {rules others : List Rule}

/-- Both searches fail, or neither finds a ruling, or both find rulings with the same roles and keys
in some order. The kind is the same if the arguments are known or if a rule for all arguments
decides. -/
inductive Reordered (args : Option (List Value)) :
    Except Error (Option Ruling) → Except Error (Option Ruling) → Prop where
  | failed (cause other : Error) : Reordered args (.error cause) (.error other)
  | noRule : Reordered args (.ok none) (.ok none)
  | ruled {r q : Ruling} (roles : r.roles.Perm q.roles) (keys : r.keys.Perm q.keys)
      (kind : args ≠ none ∨ r.kind.isGeneral = true → r.kind = q.kind) :
      Reordered args (.ok (some r)) (.ok (some q))

theorem Reordered.refl (x : Except Error (Option Ruling)) : Reordered args x x := by
  match x with
  | .error cause => exact .failed cause cause
  | .ok none => exact .noRule
  | .ok (some r) => exact .ruled (.refl _) (.refl _) fun _ => rfl

theorem reordered_ofRules {chosen reordered : List Rule} (hperm : chosen.Perm reordered)
    {kind other : RuleKey.Kind} (hkind : args ≠ none ∨ kind.isGeneral = true → kind = other) :
    Reordered args (.ok (some (ofRules kind chosen))) (.ok (some (ofRules other reordered))) :=
  .ruled (hperm.flatMap_right _) (hperm.map _) hkind

variable [Pattern.Machine]

/-! ## One shape -/

theorem firstFailure?_eq_none_iff_of_perm (hperm : rules.Perm others) :
    firstFailure? s values rules = none ↔ firstFailure? s values others = none := by
  simp only [firstFailure?_eq_none_iff, hperm.mem_iff]

omit [Pattern.Machine] in
theorem find?_isPlainFor_of_perm (h : Distinct rules) (hperm : rules.Perm others) :
    rules.find? (isPlainFor s) = others.find? (isPlainFor s) := by
  refine Option.ext fun r => ?_
  rw [h.find?_isPlainFor_eq_some_iff, (h.perm hperm).find?_isPlainFor_eq_some_iff, hperm.mem_iff]

theorem deciding_perm (s : Shape) (values : List Value) (hperm : rules.Perm others) :
    (deciding s values rules).Perm (deciding s values others) :=
  (hperm.filter _).append (hperm.filter _)

theorem decidingKind_of_perm (s : Shape) (values : List Value) (hperm : rules.Perm others) :
    decidingKind s values rules = decidingKind s values others := by
  have hexact := hperm.filter (accepted .exact s values)
  have hnil : rules.filter (accepted .exact s values) = [] ↔
      others.filter (accepted .exact s values) = [] := by
    rw [← List.length_eq_zero_iff, hexact.length_eq, List.length_eq_zero_iff]
  simp only [decidingKind, hnil]

theorem reordered_concrete? (h : Distinct rules) (hperm : rules.Perm others) (s : Shape)
    (values : List Value) :
    Reordered (some values) (concrete? s values rules) (concrete? s values others) := by
  have hfails : firstFailure? s values rules = none ↔ firstFailure? s values others = none :=
    firstFailure?_eq_none_iff_of_perm hperm
  have hdeciding := deciding_perm s values hperm
  rw [concrete?_eq, concrete?_eq]
  cases hx : firstFailure? s values rules with
  | some cause =>
    obtain ⟨other, hother⟩ :=
      Option.ne_none_iff_exists'.1 fun h => Option.some_ne_none cause (hx ▸ hfails.2 h)
    rw [hother]
    exact .failed cause other
  | none =>
    rw [hfails.1 hx]
    by_cases hnil : deciding s values rules = []
    · have hnil' : deciding s values others = [] := by
        rw [hnil] at hdeciding
        exact hdeciding.nil_eq.symm
      have hplain : plain? s rules = plain? s others := by
        rw [plain?, plain?, find?_isPlainFor_of_perm h hperm]
      simp only [hnil, hnil', if_true, hplain]
      exact .refl _
    · have hnil' : deciding s values others ≠ [] := by
        intro heq
        rw [heq] at hdeciding
        exact hnil hdeciding.eq_nil
      simp only [hnil, hnil', if_false]
      exact reordered_ofRules hdeciding fun _ => decidingKind_of_perm s values hperm

omit [Pattern.Machine] in
theorem reordered_advisory? (h : Distinct rules) (hperm : rules.Perm others) (s : Shape) :
    Reordered none (.ok (advisory? s rules)) (.ok (advisory? s others)) := by
  have hbracketed := hperm.filter (isBracketedFor s)
  rw [advisory?_eq, advisory?_eq, find?_isPlainFor_of_perm h hperm]
  cases others.find? (isPlainFor s) with
  | some r => exact reordered_ofRules (hbracketed.append_right [r]) fun _ => rfl
  | none =>
    cases hx : rules.filter (isBracketedFor s) with
    | nil =>
      rw [hx] at hbracketed
      rw [← hbracketed.nil_eq]
      exact .noRule
    | cons first rest =>
      obtain ⟨other, rest', hy⟩ :
          ∃ other rest', others.filter (isBracketedFor s) = other :: rest' :=
        List.exists_cons_of_ne_nil fun hnil => by simp [hx, hnil] at hbracketed
      rw [hx, hy] at hbracketed
      rw [hy]
      refine reordered_ofRules hbracketed ?_
      -- Rules with an argument list never decide under the kind of a general rule.
      rintro (habsurd | hgeneral)
      · exact absurd rfl habsurd
      · have hfirst : isBracketedFor s first = true :=
          (List.mem_filter.1 (hx ▸ List.mem_cons_self)).2
        have hkey := RuleKey.isGeneral_kind_of_isBracketed (Bool.and_eq_true_iff.1 hfirst).1
        rw [hkey] at hgeneral
        cases hgeneral

theorem reordered_ofShape? (h : Distinct rules) (hperm : rules.Perm others) (s : Shape)
    (args : Option (List Value)) :
    Reordered args (ofShape? s args rules) (ofShape? s args others) := by
  cases args with
  | some values => exact reordered_concrete? h hperm s values
  | none => exact reordered_advisory? h hperm s

/-! ## All stages -/

omit [Pattern.Machine] in
theorem wildcard?_of_perm (h : Distinct rules) (hperm : rules.Perm others) (method : Text) :
    wildcard? method rules = wildcard? method others := by
  refine Option.ext fun ruling => ?_
  rw [h.wildcard?_eq_some_iff, (h.perm hperm).wildcard?_eq_some_iff]
  simp only [hperm.mem_iff]

theorem reordered_ruling? (h : Distinct rules) (hperm : rules.Perm others) (stage : Stage) :
    Reordered args (stage.ruling? method args signature rules)
      (stage.ruling? method args signature others) := by
  unfold Stage.ruling?
  cases stage.shape? method signature with
  | some s => exact reordered_ofShape? h hperm s args
  | none =>
    rw [wildcard?_of_perm h hperm]
    exact .refl _

/-- Rules in another order have the same rulings up to order. -/
theorem reordered_resolve (h : Distinct rules) (hperm : rules.Perm others) (method : Text)
    (args : Option (List Value)) (signature : Option (List Text)) :
    Reordered args (resolve method args signature rules)
      (resolve method args signature others) := by
  have hoverload : Reordered args (Stage.overload.ruling? method args signature rules)
      (Stage.overload.ruling? method args signature others) := reordered_ruling? h hperm _
  have hmethod : Reordered args (Stage.method.ruling? method args signature rules)
      (Stage.method.ruling? method args signature others) := reordered_ruling? h hperm _
  rw [resolve_eq, resolve_eq, wildcard?_of_perm h hperm]
  generalize Stage.overload.ruling? method args signature rules = x at hoverload ⊢
  generalize Stage.overload.ruling? method args signature others = x' at hoverload ⊢
  generalize Stage.method.ruling? method args signature rules = y at hmethod ⊢
  generalize Stage.method.ruling? method args signature others = y' at hmethod ⊢
  cases hoverload with
  | failed cause other => exact .failed cause other
  | ruled roles keys kind => exact .ruled roles keys kind
  | noRule =>
    cases hmethod with
    | failed cause other => exact .failed cause other
    | ruled roles keys kind => exact .ruled roles keys kind
    | noRule => exact .refl _

end Ruling

namespace RuleTable

/-- Tables with the same entries in other orders have normal forms with the same entries in other
orders, if no two keys have one normal form. -/
theorem normalize_perm {t u : RuleTable} (hkeys : (t.keys.map Key.normalize).Nodup)
    (hperm : t.entries.Perm u.entries) : t.normalize.entries.Perm u.normalize.entries := by
  have hkeys' : (u.keys.map Key.normalize).Nodup :=
    ((hperm.map Prod.fst).map Key.normalize).nodup_iff.1 hkeys
  rw [normalize, normalize, OrderedMap.entries_mapKeys hkeys, OrderedMap.entries_mapKeys hkeys']
  exact hperm.map _

end RuleTable

end RoleGate
