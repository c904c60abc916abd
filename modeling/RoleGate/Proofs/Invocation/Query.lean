import RoleGate.Invocation.Query
import RoleGate.Proofs.Text.Blank

/-!
# What queries ask for

A query asks for a method with a name, or for one overload of it. Neither the name nor the types
have blanks at their ends, and the arguments are left unknown.

## Main statements

* `Invocation.queryShape_cases` — the two forms of queries.
* `Invocation.method_ne_nil_of_ofQuery` — a query asks for a method with a name.
* `Invocation.create_of_ofQuery` — a query asks for the invocation of its method and types.
-/

namespace RoleGate

namespace Invocation

variable {t query : Text} {types : List Text} {s : Shape} {i : Invocation}

/-- A text asks for a method if it is not empty and has no parentheses. It asks for an overload if
it has one pair of parentheses, which ends it, with a name before and types between. -/
theorem queryShape_cases (h : queryShape t = .ok s) :
    (t ≠ [] ∧ '(' ∉ t ∧ ')' ∉ t ∧ s = ⟨t, none⟩) ∨
      ∃ before behind types, Text.cutAt? '(' t = some (before, behind) ∧
        Text.trim before ≠ [] ∧ Text.endsWith ')' t = true ∧ '(' ∉ behind ∧ t.count ')' = 1 ∧
        queryTypes behind.dropLast = .ok types ∧ s = ⟨Text.trim before, some types⟩ := by
  unfold queryShape at h
  split at h
  · cases h
  next hnonempty =>
  have hne : t ≠ [] := by simpa using hnonempty
  split at h
  · next hcut =>
    split at h
    · cases h
    · next hclosing =>
      cases h
      exact .inl ⟨hne, Text.cutAt?_eq_none_iff.1 hcut, by simpa using hclosing, rfl⟩
  · next before behind hcut =>
    dsimp only at h
    split at h
    · cases h
    next hname =>
    split at h
    · cases h
    next hbalanced =>
    simp only [Bool.or_eq_true, Bool.not_eq_true', bne_iff_ne, ne_eq, not_or, Bool.not_eq_false,
      not_not, List.contains_iff_mem] at hbalanced
    obtain ⟨⟨hends, hopening⟩, hcount⟩ := hbalanced
    cases htypes : queryTypes behind.dropLast with
    | error fault => simp [htypes, Except.map] at h
    | ok types =>
      simp only [htypes, Except.map, Except.ok.injEq] at h
      exact .inr ⟨before, behind, types, hcut, by simpa using hname, hends, hopening, hcount,
        htypes, h.symm⟩

theorem map_trim_of_queryTypes (h : queryTypes t = .ok types) : types.map Text.trim = types := by
  unfold queryTypes at h
  split at h
  · cases h
    rfl
  · dsimp only at h
    split at h
    · cases h
    · cases h
      simp [Function.comp_def, Text.trim_trim]

theorem signature_of_queryShape (h : queryShape t = .ok s) :
    s.signature.map (·.map Text.trim) = s.signature := by
  obtain ⟨-, -, -, rfl⟩ | ⟨before, behind, types, -, -, -, -, -, htypes, rfl⟩ := queryShape_cases h
  · rfl
  · exact congrArg some (map_trim_of_queryTypes htypes)

theorem method_of_queryShape (h : queryShape t = .ok s) : s.method ≠ [] := by
  obtain ⟨hne, -, -, rfl⟩ | ⟨before, behind, types, -, hname, -, -, -, -, rfl⟩ := queryShape_cases h
  · exact hne
  · exact hname

/-- What is asked for is the shape of the query, with unknown arguments. -/
theorem exists_queryShape_of_ofQuery (h : ofQuery query = .ok i) :
    ∃ s, queryShape (Text.trim query) = .ok s ∧ i = ⟨s.method, s.signature, none⟩ := by
  unfold ofQuery at h
  split at h
  · next s hshape =>
    cases h
    exact ⟨s, hshape, rfl⟩
  · cases h

theorem args_of_ofQuery (h : ofQuery query = .ok i) : i.args = none := by
  obtain ⟨s, -, rfl⟩ := exists_queryShape_of_ofQuery h
  rfl

/-- A query asks for a method with a name. -/
theorem method_ne_nil_of_ofQuery (h : ofQuery query = .ok i) : i.method ≠ [] := by
  obtain ⟨s, hshape, rfl⟩ := exists_queryShape_of_ofQuery h
  exact method_of_queryShape hshape

/-- A query asks for the invocation of its method and types as they are. -/
theorem create_of_ofQuery (h : ofQuery query = .ok i) : create i.method none i.signature = i := by
  obtain ⟨s, hshape, rfl⟩ := exists_queryShape_of_ofQuery h
  rw [create, signature_of_queryShape hshape]

end Invocation

end RoleGate
