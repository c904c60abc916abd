import Mathlib.Data.List.Induction
import RoleGate.OrderedMap

/-!
# Ordered maps and their edits

What a map holds after edits, and in which order, can be told from the edits alone. The value under
a key is that of the last edit that says anything about the key. The keys stand in the order in
which they came, where a key comes when it is set and has no value; setting it again does not move
it.

## Main definitions

* `OrderedMap.Edit`, `OrderedMap.edited` — edits, and the map after edits in a row.
* `OrderedMap.LastSet` — the value that edits leave under a key.
* `OrderedMap.ArrivedAt` — the edit with which a key came that has stayed since.
* `OrderedMap.LeftBy` — a map holds what edits leave, in the order of arrival.

## Main statements

* `OrderedMap.LeftBy.edit` — one more edit.
* `OrderedMap.LeftBy.edited` — edits in a row.
-/

namespace RoleGate.OrderedMap

variable {α : Type} {key : Text} {value : α} {place : Nat}

/-- An edit of a map. -/
inductive Edit (α : Type) where
  | set (key : Text) (value : α)
  | unset (key : Text)
  | reset
  | skip

namespace Edit

/-- The edit takes the value under a key away, if there is one. -/
def Removes (key : Text) : Edit α → Prop
  | unset other => other = key
  | reset => True
  | _ => False

/-- The edit says what is under a key. -/
def Settles (key : Text) : Edit α → Prop
  | set other _ => other = key
  | e => e.Removes key

theorem settles_iff {e : Edit α} :
    e.Settles key ↔ (∃ value, e = .set key value) ∨ e.Removes key := by
  cases e <;> simp [Settles, Removes]

end Edit

variable {m : OrderedMap α} {edits : List (Edit α)} {e : Edit α}

/-- The map after an edit. -/
def edit (m : OrderedMap α) : Edit α → OrderedMap α
  | .set key value => m.insert key value
  | .unset key => m.erase key
  | .reset => .empty
  | .skip => m

/-- The map after edits made one after the other. -/
def edited (m : OrderedMap α) (edits : List (Edit α)) : OrderedMap α :=
  edits.foldl edit m

/-! ## What edits leave -/

/-- The last edit that says what is under the key sets it to the value. -/
def LastSet (key : Text) (value : α) (edits : List (Edit α)) : Prop :=
  ∃ before after, edits = before ++ .set key value :: after ∧ ∀ e ∈ after, ¬ e.Settles key

/-- The edit at the place sets the key, which has no value there, and no edit behind takes the value
away again. -/
def ArrivedAt (key : Text) (place : Nat) (edits : List (Edit α)) : Prop :=
  ∃ before value after, edits = before ++ .set key value :: after ∧ before.length = place ∧
    (∀ value, ¬ LastSet key value before) ∧ ∀ e ∈ after, ¬ e.Removes key

/-- Where a list is split that has one more element: at that element, or before it. -/
theorem append_singleton_eq_append_cons_iff {β : Type} {xs before after : List β} {x y : β} :
    xs ++ [x] = before ++ y :: after ↔
      (after = [] ∧ before = xs ∧ x = y) ∨
        ∃ rest, after = rest ++ [x] ∧ xs = before ++ y :: rest := by
  constructor
  · intro h
    obtain rfl | ⟨rest, last, rfl⟩ := List.eq_nil_or_concat after
    · obtain ⟨rfl, hlast⟩ := List.append_inj' h rfl
      exact .inl ⟨rfl, rfl, by simpa using hlast⟩
    · rw [List.concat_eq_append, ← List.cons_append, ← List.append_assoc] at h
      obtain ⟨rfl, hlast⟩ := List.append_inj' h rfl
      exact .inr ⟨rest, by simpa using hlast.symm, rfl⟩
  · rintro (⟨rfl, rfl, rfl⟩ | ⟨rest, rfl, rfl⟩) <;> simp

theorem not_lastSet_nil : ¬ LastSet key value [] := by
  rintro ⟨before, after, h, -⟩
  simp at h

theorem lastSet_append_singleton :
    LastSet key value (edits ++ [e]) ↔
      e = .set key value ∨ LastSet key value edits ∧ ¬ e.Settles key := by
  simp only [LastSet, append_singleton_eq_append_cons_iff]
  constructor
  · rintro ⟨before, after, ⟨rfl, rfl, rfl⟩ | ⟨rest, rfl, rfl⟩, hafter⟩
    · exact .inl rfl
    · exact .inr ⟨⟨before, rest, rfl, fun e he => hafter e (by simp [he])⟩, hafter e (by simp)⟩
  · rintro (rfl | ⟨⟨before, rest, rfl, hrest⟩, he⟩)
    · exact ⟨edits, [], .inl ⟨rfl, rfl, rfl⟩, by simp⟩
    · exact ⟨before, rest ++ [e], .inr ⟨rest, rfl, rfl⟩,
        List.forall_mem_append.2 ⟨hrest, by simpa using he⟩⟩

theorem not_arrivedAt_nil : ¬ ArrivedAt key place ([] : List (Edit α)) := by
  rintro ⟨before, value, after, h, -⟩
  simp at h

theorem arrivedAt_append_singleton :
    ArrivedAt key place (edits ++ [e]) ↔
      ((∃ value, e = .set key value) ∧ edits.length = place ∧ ∀ value, ¬ LastSet key value edits) ∨
        ArrivedAt key place edits ∧ ¬ e.Removes key := by
  simp only [ArrivedAt, append_singleton_eq_append_cons_iff]
  constructor
  · rintro ⟨before, value, after, ⟨rfl, rfl, rfl⟩ | ⟨rest, rfl, rfl⟩, hplace, hnew, hafter⟩
    · exact .inl ⟨⟨value, rfl⟩, hplace, hnew⟩
    · exact .inr ⟨⟨before, value, rest, rfl, hplace, hnew, fun e he => hafter e (by simp [he])⟩,
        hafter e (by simp)⟩
  · rintro (⟨⟨value, rfl⟩, hplace, hnew⟩ | ⟨⟨before, value, rest, rfl, hplace, hnew, hrest⟩, he⟩)
    · exact ⟨edits, value, [], .inl ⟨rfl, rfl, rfl⟩, hplace, hnew, by simp⟩
    · exact ⟨before, value, rest ++ [e], .inr ⟨rest, rfl, rfl⟩, hplace, hnew,
        List.forall_mem_append.2 ⟨hrest, by simpa using he⟩⟩

theorem ArrivedAt.lt_length (h : ArrivedAt key place edits) : place < edits.length := by
  obtain ⟨before, value, after, rfl, rfl, -⟩ := h
  simp

/-- A key has a value exactly if it came and has stayed since. -/
theorem exists_arrivedAt_iff :
    (∃ place, ArrivedAt key place edits) ↔ ∃ value, LastSet key value edits := by
  -- from the last edit back, since both sides are settled by the last edit that matters
  induction edits using List.reverseRecOn with
  | nil => simp [not_arrivedAt_nil, not_lastSet_nil]
  | append_singleton edits e ih =>
    simp only [arrivedAt_append_singleton, lastSet_append_singleton, Edit.settles_iff]
    constructor
    · rintro ⟨place, ⟨⟨value, rfl⟩, -, -⟩ | ⟨harrived, hkept⟩⟩
      · exact ⟨value, .inl rfl⟩
      · obtain ⟨value, hvalue⟩ := ih.1 ⟨place, harrived⟩
        by_cases hset : ∃ value, e = .set key value
        · obtain ⟨value, rfl⟩ := hset
          exact ⟨value, .inl rfl⟩
        · exact ⟨value, .inr ⟨hvalue, not_or.2 ⟨hset, hkept⟩⟩⟩
    · rintro ⟨value, rfl | ⟨hvalue, hkept⟩⟩
      · -- setting a key again does not make it come again
        by_cases hheld : ∃ value, LastSet key value edits
        · obtain ⟨place, harrived⟩ := ih.2 hheld
          exact ⟨place, .inr ⟨harrived, id⟩⟩
        · exact ⟨_, .inl ⟨⟨value, rfl⟩, rfl, not_exists.1 hheld⟩⟩
      · obtain ⟨place, harrived⟩ := ih.2 ⟨value, hvalue⟩
        exact ⟨place, .inr ⟨harrived, fun hremoves => hkept (.inr hremoves)⟩⟩

/-- A key that has stayed came once only. -/
theorem ArrivedAt.unique {other : Nat} (h : ArrivedAt key place edits)
    (hother : ArrivedAt key other edits) : place = other := by
  induction edits using List.reverseRecOn with
  | nil => exact absurd h not_arrivedAt_nil
  | append_singleton edits e ih =>
    obtain ⟨-, hplace, hnew⟩ | ⟨hold, -⟩ := arrivedAt_append_singleton.1 h <;>
      obtain ⟨-, hplace', hnew'⟩ | ⟨hold', -⟩ := arrivedAt_append_singleton.1 hother
    · exact hplace.symm.trans hplace'
    · obtain ⟨value, hvalue⟩ := exists_arrivedAt_iff.1 ⟨other, hold'⟩
      exact absurd hvalue (hnew value)
    · obtain ⟨value, hvalue⟩ := exists_arrivedAt_iff.1 ⟨place, hold⟩
      exact absurd hvalue (hnew' value)
    · exact ih hold hold'

/-! ## What maps hold after edits -/

/-- The map holds what the edits leave, in the order of arrival. -/
structure LeftBy (m : OrderedMap α) (edits : List (Edit α)) : Prop where
  get? : ∀ key value, m.get? key = some value ↔ LastSet key value edits
  order : m.keys.Pairwise fun a b =>
    ∃ n n', ArrivedAt a n edits ∧ ArrivedAt b n' edits ∧ n < n'

theorem leftBy_empty : (empty : OrderedMap α).LeftBy [] where
  get? key value := by simp [not_lastSet_nil]
  order := by simp

theorem get?_edit_eq_some_iff :
    (m.edit e).get? key = some value ↔
      e = .set key value ∨ m.get? key = some value ∧ ¬ e.Settles key := by
  cases e with
  | set other v =>
    simp only [edit, get?_insert, Edit.set.injEq, Edit.Settles]
    grind
  | unset other =>
    simp only [edit, get?_erase, Edit.Settles, Edit.Removes]
    grind
  | reset => simp [edit, Edit.Settles, Edit.Removes]
  | skip => simp [edit, Edit.Settles, Edit.Removes]

/-- An edit that says nothing about a key leaves what is under it. -/
theorem get?_edit_of_not_settles (h : ¬ e.Settles key) : (m.edit e).get? key = m.get? key := by
  refine Option.ext fun value => get?_edit_eq_some_iff.trans ⟨?_, fun hget => .inr ⟨hget, h⟩⟩
  rintro (rfl | ⟨hget, -⟩)
  · exact absurd rfl h
  · exact hget

theorem get?_edited_of_not_settles (h : ∀ e ∈ edits, ¬ e.Settles key) :
    (m.edited edits).get? key = m.get? key := by
  induction edits generalizing m with
  | nil => rfl
  | cons e edits ih =>
    obtain ⟨he, hrest⟩ := List.forall_mem_cons.1 h
    exact (ih hrest).trans (get?_edit_of_not_settles he)

namespace LeftBy

theorem mem_keys_iff (h : m.LeftBy edits) : key ∈ m.keys ↔ ∃ place, ArrivedAt key place edits := by
  rw [exists_arrivedAt_iff, ← get?_isSome, Option.isSome_iff_exists]
  exact exists_congr (h.get? key)

/-- Keys that an edit does not take away stay in order. -/
theorem order_of_kept (h : m.LeftBy edits) {keys : List Text} (hkeys : keys.Sublist m.keys)
    (hkept : ∀ key ∈ keys, ¬ e.Removes key) :
    keys.Pairwise fun a b =>
      ∃ n n', ArrivedAt a n (edits ++ [e]) ∧ ArrivedAt b n' (edits ++ [e]) ∧ n < n' := by
  refine (h.order.sublist hkeys).imp_of_mem fun {a b} ha hb => ?_
  rintro ⟨n, n', harrived, harrived', hlt⟩
  exact ⟨n, n', arrivedAt_append_singleton.2 (.inr ⟨harrived, hkept a ha⟩),
    arrivedAt_append_singleton.2 (.inr ⟨harrived', hkept b hb⟩), hlt⟩

theorem order_edit (h : m.LeftBy edits) (e : Edit α) :
    (m.edit e).keys.Pairwise fun a b =>
      ∃ n n', ArrivedAt a n (edits ++ [e]) ∧ ArrivedAt b n' (edits ++ [e]) ∧ n < n' := by
  cases e with
  | set key value =>
    have hold := h.order_of_kept (e := .set key value) (List.Sublist.refl _) fun _ _ => id
    rw [edit, keys_insert]
    split
    · exact hold
    · next hnew =>
      have hfresh : ∀ value, ¬ LastSet key value edits := fun value hvalue =>
        hnew (h.mem_keys_iff.2 (exists_arrivedAt_iff.2 ⟨value, hvalue⟩))
      refine List.pairwise_append.2 ⟨hold, List.pairwise_singleton _ _, fun a ha b hb => ?_⟩
      obtain rfl := List.mem_singleton.1 hb
      obtain ⟨n, harrived⟩ := h.mem_keys_iff.1 ha
      exact ⟨n, edits.length, arrivedAt_append_singleton.2 (.inr ⟨harrived, id⟩),
        arrivedAt_append_singleton.2 (.inl ⟨⟨value, rfl⟩, rfl, hfresh⟩), harrived.lt_length⟩
  | unset key =>
    rw [edit, keys_erase]
    refine h.order_of_kept List.filter_sublist fun other hother => ?_
    have hne : other ≠ key := by simpa using (List.mem_filter.1 hother).2
    exact fun heq => hne heq.symm
  | reset => exact .nil
  | skip => exact h.order_of_kept (List.Sublist.refl _) fun _ _ => id

/-- One more edit. -/
protected theorem edit (h : m.LeftBy edits) (e : Edit α) : (m.edit e).LeftBy (edits ++ [e]) where
  get? key value := by rw [get?_edit_eq_some_iff, lastSet_append_singleton, h.get?]
  order := h.order_edit e

/-- Edits in a row. -/
protected theorem edited (h : m.LeftBy edits) (more : List (Edit α)) :
    (m.edited more).LeftBy (edits ++ more) := by
  induction more generalizing m edits with
  | nil => simpa [OrderedMap.edited] using h
  | cons e more ih => simpa [OrderedMap.edited] using ih (h.edit e)

/-- Each key comes behind those that came before. -/
theorem order_of_arrival (h : m.LeftBy edits) :
    m.keys.Pairwise fun a b =>
      ∀ n n', ArrivedAt a n edits → ArrivedAt b n' edits → n < n' := by
  refine h.order.imp ?_
  rintro a b ⟨n, n', harrived, harrived', hlt⟩ k k' hk hk'
  rw [hk.unique harrived, hk'.unique harrived']
  exact hlt

end LeftBy

end RoleGate.OrderedMap
