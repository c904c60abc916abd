import Mathlib.Data.List.Forall2
import RoleGate.Text.Basic

/-!
# Outcomes

What may fail, done step by step or for each element of a list. What is done element by element is
often settled by the first element of some kind, behind others that let it go on.

## Main statements

* `exists_first_cons_iff` — where the first element of a kind stands.
* `mapM_eq_ok_iff` — when everything succeeds that is done for each element.
-/

namespace RoleGate

variable {ε α β : Type} {x : Except ε α} {cause : ε}

/-- What is done in two steps succeeds if both succeed. -/
theorem except_bind_eq_ok_iff {f : α → Except ε β} {b : β} :
    (x >>= f) = .ok b ↔ ∃ a, x = .ok a ∧ f a = .ok b := by
  cases x <;> simp [bind, Except.bind]

/-- It fails if one of the steps does. -/
theorem except_bind_eq_error_iff {f : α → Except ε β} :
    (x >>= f) = .error cause ↔ x = .error cause ∨ ∃ a, x = .ok a ∧ f a = .error cause := by
  cases x <;> simp [bind, Except.bind]

theorem except_map_eq_error_iff {f : α → β} : x.map f = .error cause ↔ x = .error cause := by
  cases x <;> simp [Except.map]

variable {f : α → Except ε β} {xs : List α}

/-- The first element of a kind is the head of a list, or else the head lets the search go on and it
stands in the rest. -/
theorem exists_first_cons_iff {LetsPass Settles : α → Prop} {x : α} :
    (∃ before y after, x :: xs = before ++ y :: after ∧ (∀ z ∈ before, LetsPass z) ∧ Settles y) ↔
      Settles x ∨ LetsPass x ∧
        ∃ before y after, xs = before ++ y :: after ∧ (∀ z ∈ before, LetsPass z) ∧ Settles y := by
  constructor
  · rintro ⟨before, y, after, hxs, hbefore, hy⟩
    cases before with
    | nil =>
      obtain ⟨rfl, rfl⟩ := List.cons.inj hxs
      exact .inl hy
    | cons first before =>
      obtain ⟨rfl, rfl⟩ := List.cons.inj hxs
      obtain ⟨hfirst, hbefore⟩ := List.forall_mem_cons.1 hbefore
      exact .inr ⟨hfirst, before, y, after, rfl, hbefore, hy⟩
  · rintro (hx | ⟨hx, before, y, after, rfl, hbefore, hy⟩)
    · exact ⟨[], x, xs, rfl, nofun, hx⟩
    · exact ⟨x :: before, y, after, rfl, List.forall_mem_cons.2 ⟨hx, hbefore⟩, hy⟩

/-- What is done for each element succeeds with the results of all elements. -/
theorem mapM_eq_ok_iff {ys : List β} :
    xs.mapM f = .ok ys ↔ List.Forall₂ (fun x y => f x = .ok y) xs ys := by
  induction xs generalizing ys with
  | nil => simp [pure, Except.pure, eq_comm]
  | cons x xs ih =>
    simp only [List.mapM_cons, except_bind_eq_ok_iff, List.forall₂_cons_left_iff, ← ih]
    constructor
    · rintro ⟨y, hy, rest, hrest, ⟨⟩⟩
      exact ⟨y, rest, hy, hrest, rfl⟩
    · rintro ⟨y, rest, hy, hrest, rfl⟩
      exact ⟨y, hy, rest, hrest, rfl⟩

/-- If it fails, then for one of the elements. -/
theorem exists_mem_of_mapM_eq_error (h : xs.mapM f = .error cause) :
    ∃ x ∈ xs, f x = .error cause := by
  induction xs with
  | nil => cases h
  | cons x xs ih =>
    rw [List.mapM_cons, except_bind_eq_error_iff] at h
    obtain hx | ⟨y, -, h⟩ := h
    · exact ⟨x, List.mem_cons_self, hx⟩
    · obtain hrest | ⟨ys, -, ⟨⟩⟩ := except_bind_eq_error_iff.1 h
      obtain ⟨z, hz, hfails⟩ := ih hrest
      exact ⟨z, List.mem_cons_of_mem _ hz, hfails⟩

end RoleGate
