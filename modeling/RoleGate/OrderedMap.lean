import RoleGate.Text.Basic

/-!
# Ordered maps

Finite maps from texts that remember the order in which their keys first came. Setting a key anew
keeps its place; erasing it and setting it again moves it to the end.

## Main definitions

* `OrderedMap` — entries in order, no key twice.
* `OrderedMap.insert`, `OrderedMap.erase`, `OrderedMap.get?` — the operations.
* `OrderedMap.ofList` — the map that a sequence of assignments leaves behind.
* `OrderedMap.update` — a map with the entries of another one set.

The operations are known by what they do to `OrderedMap.keys` and `OrderedMap.get?`.
-/

namespace RoleGate

/-- Entries in the order of their keys' first appearance. -/
structure OrderedMap (α : Type) where
  entries : List (Text × α)
  nodup_keys : (entries.map Prod.fst).Nodup := by simp

namespace OrderedMap

variable {α β : Type}

/-- The map without entries. -/
def empty : OrderedMap α where
  entries := []

instance : EmptyCollection (OrderedMap α) := ⟨empty⟩

/-- The keys in order. -/
def keys (m : OrderedMap α) : List Text :=
  m.entries.map Prod.fst

/-- The values in the order of their keys. -/
def values (m : OrderedMap α) : List α :=
  m.entries.map Prod.snd

/-- The value under a key. -/
def get? (m : OrderedMap α) (key : Text) : Option α :=
  m.entries.lookup key

/-- The map has a value under the key. -/
def contains (m : OrderedMap α) (key : Text) : Bool :=
  (m.get? key).isSome

/-! ## Setting and erasing keys -/

/-- The entries with `key` set to `value`: in its old place, or at the end if it is new. -/
def setEntry (key : Text) (value : α) : List (Text × α) → List (Text × α)
  | [] => [(key, value)]
  | entry :: rest =>
    if entry.1 == key then (key, value) :: rest else entry :: setEntry key value rest

theorem map_fst_setEntry (key : Text) (value : α) (es : List (Text × α)) :
    (setEntry key value es).map Prod.fst =
      if key ∈ es.map Prod.fst then es.map Prod.fst else es.map Prod.fst ++ [key] := by
  induction es with
  | nil => rfl
  | cons e rest ih =>
    unfold setEntry
    by_cases h : e.1 = key
    · simp [h]
    · rw [if_neg (by simpa using h), List.map_cons, ih]
      by_cases hm : key ∈ rest.map Prod.fst
      · simp [hm]
      · have hne : ¬ key = e.1 := fun he => h he.symm
        simp only [List.map_cons, List.mem_cons, hm, hne, or_false, if_false, List.cons_append]

theorem nodup_setEntry (key : Text) (value : α) {es : List (Text × α)}
    (h : (es.map Prod.fst).Nodup) : ((setEntry key value es).map Prod.fst).Nodup := by
  rw [map_fst_setEntry]
  split
  · exact h
  · next hk =>
    rw [List.nodup_append]
    refine ⟨h, by simp, ?_⟩
    intro a ha b hb
    simp only [List.mem_cons, List.not_mem_nil, or_false] at hb
    subst hb
    exact fun hab => hk (hab ▸ ha)

/-- The map with `key` set to `value`. -/
def insert (m : OrderedMap α) (key : Text) (value : α) : OrderedMap α where
  entries := setEntry key value m.entries
  nodup_keys := nodup_setEntry key value m.nodup_keys

/-- The map without `key`. -/
def erase (m : OrderedMap α) (key : Text) : OrderedMap α where
  entries := m.entries.filter fun e => e.1 != key
  nodup_keys := m.nodup_keys.sublist (List.filter_sublist.map _)

/-! ## The view through keys -/

@[simp] theorem keys_empty : (empty : OrderedMap α).keys = [] := rfl

@[simp] theorem get?_empty (key : Text) : (empty : OrderedMap α).get? key = none := rfl

/-- A key keeps its place; a new one comes last. -/
theorem keys_insert (m : OrderedMap α) (key : Text) (value : α) :
    (m.insert key value).keys = if key ∈ m.keys then m.keys else m.keys ++ [key] :=
  map_fst_setEntry key value m.entries

@[simp] theorem keys_erase (m : OrderedMap α) (key : Text) :
    (m.erase key).keys = m.keys.filter (· != key) := by
  simp only [keys, erase, List.filter_map]
  rfl

theorem lookup_setEntry (key other : Text) (value : α) (es : List (Text × α)) :
    (setEntry key value es).lookup other =
      if other = key then some value else es.lookup other := by
  induction es with
  | nil => grind [setEntry]
  | cons e rest ih => grind [setEntry]

@[simp] theorem get?_insert (m : OrderedMap α) (key other : Text) (value : α) :
    (m.insert key value).get? other = if other = key then some value else m.get? other :=
  lookup_setEntry key other value m.entries

@[simp] theorem get?_erase (m : OrderedMap α) (key other : Text) :
    (m.erase key).get? other = if other = key then none else m.get? other := by
  show (m.entries.filter fun e => e.1 != key).lookup other = _
  show _ = if other = key then none else m.entries.lookup other
  induction m.entries with
  | nil => grind
  | cons e rest ih => grind

/-- A map has values under its keys and under no other text. -/
theorem get?_isSome (m : OrderedMap α) (key : Text) : (m.get? key).isSome ↔ key ∈ m.keys := by
  show (m.entries.lookup key).isSome ↔ key ∈ m.entries.map Prod.fst
  induction m.entries with
  | nil => simp
  | cons e rest ih => grind

/-- The value under a key is the one of the entry with that key. -/
theorem get?_eq_some_iff (m : OrderedMap α) {key : Text} {value : α} :
    m.get? key = some value ↔ (key, value) ∈ m.entries := by
  rw [get?, List.lookup_eq_some_iff]
  constructor
  · rintro ⟨before, after, hentries, -⟩
    simp [hentries]
  · intro h
    obtain ⟨before, after, hentries⟩ := List.append_of_mem h
    refine ⟨before, after, hentries, fun e he => ?_⟩
    have hnodup := m.nodup_keys
    rw [hentries, List.map_append, List.nodup_append] at hnodup
    have hne := hnodup.2.2 e.1 (List.mem_map_of_mem he) key (by simp)
    simpa using hne.symm

/-! ## Maps from assignments -/

/-- The map left behind by the assignments, made in order. -/
def ofList (assignments : List (Text × α)) : OrderedMap α :=
  assignments.foldl (fun m e => m.insert e.1 e.2) empty

/-- The map with every key renamed by `f`, entry by entry: of keys that become the same text the
last gives the value and the first the place. -/
def mapKeys (f : Text → Text) (m : OrderedMap α) : OrderedMap α :=
  ofList (m.entries.map fun e => (f e.1, e.2))

theorem ext {m n : OrderedMap α} (h : m.entries = n.entries) : m = n := by
  cases m
  cases n
  congr

theorem setEntry_of_not_mem {key : Text} (value : α) {es : List (Text × α)}
    (h : key ∉ es.map Prod.fst) : setEntry key value es = es ++ [(key, value)] := by
  induction es with
  | nil => rfl
  | cons e rest ih =>
    have hne : (e.1 == key) = false := by
      simp only [beq_eq_false_iff_ne]
      exact fun heq => h (heq ▸ by simp)
    have hrest : key ∉ rest.map Prod.fst := fun hmem => h (List.mem_cons_of_mem _ hmem)
    rw [setEntry, hne, ih hrest]
    rfl

theorem entries_foldl_insert {m : OrderedMap α} {es : List (Text × α)}
    (h : ((m.entries ++ es).map Prod.fst).Nodup) :
    (es.foldl (fun m e => m.insert e.1 e.2) m).entries = m.entries ++ es := by
  induction es generalizing m with
  | nil => simp
  | cons e rest ih =>
    have hnew : e.1 ∉ m.entries.map Prod.fst := by
      rw [List.map_append, List.nodup_append] at h
      exact fun hmem => h.2.2 e.1 hmem e.1 (by simp) rfl
    have hinsert : (m.insert e.1 e.2).entries = m.entries ++ [e] :=
      setEntry_of_not_mem e.2 hnew
    have hrest : (((m.insert e.1 e.2).entries ++ rest).map Prod.fst).Nodup := by
      rw [hinsert, List.append_assoc]
      exact h
    rw [List.foldl_cons, ih hrest, hinsert, List.append_assoc]
    rfl

/-- Assignments to different keys are the entries of the map they leave behind. -/
theorem entries_ofList {es : List (Text × α)} (h : (es.map Prod.fst).Nodup) :
    (ofList es).entries = es :=
  entries_foldl_insert h

/-- The map has exactly the keys that were assigned to. -/
theorem mem_keys_ofList {es : List (Text × α)} {key : Text} :
    key ∈ (ofList es).keys ↔ key ∈ es.map Prod.fst := by
  have hfold : ∀ m : OrderedMap α,
      key ∈ (es.foldl (fun m e => m.insert e.1 e.2) m).keys ↔
        key ∈ m.keys ∨ key ∈ es.map Prod.fst := by
    induction es with
    | nil => simp
    | cons e rest ih =>
      intro m
      have hinsert : key ∈ (m.insert e.1 e.2).keys ↔ key ∈ m.keys ∨ key = e.1 := by
        rw [keys_insert]
        split <;> grind
      rw [List.foldl_cons, ih, hinsert, List.map_cons, List.mem_cons, or_assoc]
  rw [ofList, hfold empty, keys_empty]
  simp only [List.not_mem_nil, false_or]

/-- Keys that stay different under a renaming keep their places and values. -/
theorem entries_mapKeys {f : Text → Text} {m : OrderedMap α} (h : (m.keys.map f).Nodup) :
    (m.mapKeys f).entries = m.entries.map fun e => (f e.1, e.2) :=
  entries_ofList (by simpa [keys, Function.comp_def] using h)

/-- A renaming that changes no key changes nothing. -/
theorem mapKeys_eq_self {f : Text → Text} {m : OrderedMap α} (h : ∀ key ∈ m.keys, f key = key) :
    m.mapKeys f = m := by
  have hkeys : m.keys.map f = m.keys := (List.map_congr_left h).trans (List.map_id m.keys)
  refine ext ?_
  rw [entries_mapKeys (by rw [hkeys]; exact m.nodup_keys)]
  refine (List.map_congr_left fun e he => ?_).trans (List.map_id m.entries)
  rw [h e.1 (List.mem_map_of_mem he)]
  rfl

theorem mem_keys_mapKeys {f : Text → Text} {m : OrderedMap α} {key : Text} :
    key ∈ (m.mapKeys f).keys ↔ ∃ old ∈ m.keys, f old = key := by
  rw [mapKeys, mem_keys_ofList]
  simp [keys]

/-- The map with the entries of another map set, one after the other. -/
def update (m n : OrderedMap α) : OrderedMap α :=
  n.entries.foldl (fun m e => m.insert e.1 e.2) m

/-- The map with every value replaced by what `f` makes of it. -/
def mapValues (f : α → β) (m : OrderedMap α) : OrderedMap β where
  entries := m.entries.map fun e => (e.1, f e.2)
  nodup_keys := by simpa [Function.comp_def] using m.nodup_keys

@[simp] theorem get?_mapValues (f : α → β) (m : OrderedMap α) (key : Text) :
    (m.mapValues f).get? key = (m.get? key).map f := by
  show (m.entries.map fun e => (e.1, f e.2)).lookup key = (m.entries.lookup key).map f
  induction m.entries with
  | nil => rfl
  | cons e rest ih => grind

/-- The map with the keys only that pass a test. -/
def filterKeys (p : Text → Bool) (m : OrderedMap α) : OrderedMap α where
  entries := m.entries.filter fun e => p e.1
  nodup_keys := m.nodup_keys.sublist (List.filter_sublist.map _)

end OrderedMap

end RoleGate
