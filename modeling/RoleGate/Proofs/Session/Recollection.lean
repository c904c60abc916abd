import Mathlib.Data.Finset.Card
import Mathlib.Data.List.Nodup
import RoleGate.Notice

/-!
# Keys remembered with what they say

A memory of times says which keys were read lately. A recollection also keeps what was read, so that
a key that it has is not parsed again. Both have room for the same number of keys, and both give up
the key whose last reading is longest ago. So they always have the same keys.

## Main definitions

* `Recollection` — the keys read lately with what they say, the last one first.
* `Recollection.read` — what a key says, and the recollection after it was read.
* `Recollection.Sound` — every key is remembered with what it says.
* `KeyMemory.Mirrors` — a memory of times has the keys of a recollection, in its order.
* `Recollection.Holds` — every key read so far is remembered.

## Main statements

* `Recollection.fst_read` — what is remembered is what parsing would give.
* `KeyMemory.Mirrors.read` — the two memories forget the same keys.
* `Recollection.Holds.read` — nothing is forgotten while there are few keys.
-/

namespace RoleGate

/-- The keys read lately, each with what it says, the last one first. -/
abbrev Recollection := List (Text × RuleKey)

namespace Recollection

variable {m : Recollection} {key : Text}

/-- The keys that are remembered. -/
def keys (m : Recollection) : List Text :=
  m.map Prod.fst

/-- What a key says, remembered or parsed, and the recollection after it was read. -/
def read (m : Recollection) (key : Text) : RuleKey × Recollection :=
  let found := (m.lookup key).getD (.parse key)
  (found, ((key, found) :: m.filter (·.1 != key)).take KeyMemory.capacity)

theorem keys_read (m : Recollection) (key : Text) :
    (m.read key).2.keys = key :: (m.keys.filter (· != key)).take (KeyMemory.capacity - 1) := by
  rw [read, keys, keys, List.map_take, List.map_cons, List.filter_map]
  rfl

/-! ## What is remembered -/

/-- Every key is remembered with what it says. -/
def Sound (m : Recollection) : Prop :=
  ∀ entry ∈ m, entry.2 = RuleKey.parse entry.1

theorem Sound.nil : Sound [] := by
  intro entry hentry
  cases hentry

theorem Sound.lookup_getD (h : m.Sound) (key : Text) :
    (m.lookup key).getD (.parse key) = .parse key := by
  cases hfound : m.lookup key with
  | none => rfl
  | some found =>
    obtain ⟨front, back, rfl, -⟩ := List.lookup_eq_some_iff.1 hfound
    exact h (key, found) (by simp)

/-- What is remembered of a key is what parsing it would give. -/
theorem fst_read (h : m.Sound) (key : Text) : (m.read key).1 = .parse key :=
  h.lookup_getD key

theorem Sound.read (h : m.Sound) (key : Text) : (m.read key).2.Sound := by
  intro entry hentry
  have hmem : entry ∈ (key, (m.read key).1) :: m.filter (·.1 != key) := List.mem_of_mem_take hentry
  rcases List.mem_cons.1 hmem with rfl | hold
  · exact fst_read h key
  · exact h entry (List.mem_of_mem_filter hold)

/-! ## Few keys -/

/-- Every key read so far is remembered, and no other. -/
structure Holds (m : Recollection) (reads : List Text) : Prop where
  nodup : m.keys.Nodup
  mem_iff : ∀ key, key ∈ m.keys ↔ key ∈ reads

theorem Holds.nil : Holds [] [] where
  nodup := List.nodup_nil
  mem_iff _ := Iff.rfl

/-- While there is room for all keys, no key is given up. -/
theorem Holds.read {reads : List Text} (h : m.Holds reads)
    (hroom : (reads ++ [key]).toFinset.card ≤ KeyMemory.capacity) :
    (m.read key).2.Holds (reads ++ [key]) := by
  have hnodup : (key :: m.keys.filter (· != key)).Nodup :=
    List.nodup_cons.2 ⟨by simp, h.nodup.filter _⟩
  have hmem : ∀ other, other ∈ key :: m.keys.filter (· != key) ↔ other ∈ reads ++ [key] := by
    intro other
    by_cases hother : other = key
    · simp [hother]
    · simp [hother, h.mem_iff other]
  -- There are no more keys in front of the cut than were read so far, so nothing is cut off.
  have hlength : (key :: m.keys.filter (· != key)).length ≤ KeyMemory.capacity := by
    rw [← List.toFinset_card_of_nodup hnodup]
    refine le_of_eq_of_le (congrArg _ ?_) hroom
    ext other
    rw [List.mem_toFinset, List.mem_toFinset, hmem other]
  have hkeys : (m.read key).2.keys = key :: m.keys.filter (· != key) := by
    rw [keys_read, List.take_of_length_le (Nat.le_sub_one_of_lt hlength)]
  exact ⟨hkeys ▸ hnodup, fun other => hkeys ▸ hmem other⟩

end Recollection

/-! ## The memory of times -/

namespace KeyMemory

variable {m : KeyMemory} {keys : List Text} {key : Text}

/-- The time at which a key was last read, if it is remembered. -/
def timeOf? (m : KeyMemory) (key : Text) : Option Nat :=
  m.lastRead[key]?

theorem contains_eq_isSome (m : KeyMemory) (key : Text) :
    m.contains key = (m.timeOf? key).isSome :=
  Std.HashMap.contains_eq_isSome_getElem?

/-! ### The oldest key -/

/-- The earlier of the best entry so far and another one, as the search for the oldest takes
them. -/
def older (best : Option (Text × Nat)) (entry : Text × Nat) : Option (Text × Nat) :=
  match best with
  | none => some entry
  | some (k, t) => if entry.2 < t then some entry else some (k, t)

theorem oldest?_eq_foldl (m : KeyMemory) : m.oldest? = m.lastRead.toList.foldl older none := by
  rw [oldest?, Std.HashMap.fold_eq_foldl_toList]
  rfl

/-- The search ends with an entry that it met, and none that it met has an earlier time. -/
theorem foldl_older_some (first : Text × Nat) (entries : List (Text × Nat)) :
    ∃ best, entries.foldl older (some first) = some best ∧ best ∈ first :: entries ∧
      ∀ entry ∈ first :: entries, best.2 ≤ entry.2 := by
  induction entries generalizing first with
  | nil => exact ⟨first, rfl, by simp, by simp⟩
  | cons entry entries ih =>
    by_cases hlt : entry.2 < first.2
    · obtain ⟨best, hbest, hmem, hle⟩ := ih entry
      have hentry : best.2 ≤ entry.2 := hle entry List.mem_cons_self
      refine ⟨best, ?_, List.mem_cons_of_mem _ hmem, ?_⟩
      · rw [List.foldl_cons, older, if_pos hlt, hbest]
      · exact List.forall_mem_cons.2 ⟨by omega, hle⟩
    · obtain ⟨best, hbest, hmem, hle⟩ := ih first
      obtain ⟨hfirst, hrest⟩ := List.forall_mem_cons.1 hle
      refine ⟨best, ?_, ?_, ?_⟩
      · rw [List.foldl_cons, older, if_neg hlt, hbest]
      · rcases List.mem_cons.1 hmem with rfl | hmem
        · exact List.mem_cons_self
        · exact List.mem_cons_of_mem _ (List.mem_cons_of_mem _ hmem)
      · exact List.forall_mem_cons.2 ⟨hfirst, List.forall_mem_cons.2 ⟨by omega, hrest⟩⟩

/-- The oldest key, if there are any keys, is one of them, and none was read earlier. -/
theorem exists_oldest?_eq_some {time : Nat} (h : m.timeOf? key = some time) :
    ∃ k t, m.oldest? = some (k, t) ∧ m.timeOf? k = some t ∧
      ∀ other u, m.timeOf? other = some u → t ≤ u := by
  have hmem : (key, time) ∈ m.lastRead.toList := Std.HashMap.mem_toList_iff_getElem?_eq_some.2 h
  obtain ⟨first, entries, hentries⟩ := List.exists_cons_of_ne_nil (List.ne_nil_of_mem hmem)
  obtain ⟨⟨k, t⟩, hbest, hk, hle⟩ := foldl_older_some first entries
  rw [← hentries] at hk hle
  refine ⟨k, t, ?_, Std.HashMap.mem_toList_iff_getElem?_eq_some.1 hk, ?_⟩
  · rw [oldest?_eq_foldl, hentries, List.foldl_cons]
    exact hbest
  · intro other u hother
    exact hle (other, u) (Std.HashMap.mem_toList_iff_getElem?_eq_some.2 hother)

/-! ### The same keys -/

/-- The memory has the given keys, and an earlier time for each key that stands further behind. -/
structure Mirrors (m : KeyMemory) (keys : List Text) : Prop where
  nodup : keys.Nodup
  length_le : keys.length ≤ capacity
  size_eq : m.lastRead.size = keys.length
  mem_iff : ∀ key, key ∈ keys ↔ (m.timeOf? key).isSome
  before_now : ∀ key time, m.timeOf? key = some time → time < m.time
  descending : keys.Pairwise fun newer older =>
    ∀ t u, m.timeOf? newer = some t → m.timeOf? older = some u → u < t

namespace Mirrors

theorem empty : Mirrors {} [] where
  nodup := List.nodup_nil
  length_le := Nat.zero_le _
  size_eq := Std.HashMap.size_empty
  mem_iff key := by simp [timeOf?]
  before_now key time h := by simp [timeOf?] at h
  descending := .nil

theorem contains_iff (h : m.Mirrors keys) (key : Text) : m.contains key = true ↔ key ∈ keys := by
  rw [contains_eq_isSome, h.mem_iff]

theorem timeOf?_eq_none (h : m.Mirrors keys) (hkey : key ∉ keys) : m.timeOf? key = none := by
  simpa [h.mem_iff] using hkey

/-- The last key is the oldest. -/
theorem exists_oldest?_eq_last {front : List Text} {last : Text}
    (h : m.Mirrors (front ++ [last])) : ∃ t, m.oldest? = some (last, t) := by
  obtain ⟨time, hlast⟩ := Option.isSome_iff_exists.1 ((h.mem_iff last).1 (by simp))
  obtain ⟨k, t, holdest, hk, hle⟩ := exists_oldest?_eq_some hlast
  have hmem : k ∈ front ++ [last] := (h.mem_iff k).2 (by simp [hk])
  rcases List.mem_append.1 hmem with hfront | heq
  · -- A key before the last one was read later than it.
    have hlt : time < t :=
      (List.pairwise_append.1 h.descending).2.2 k hfront last (by simp) _ _ hk hlast
    have hle := hle last time hlast
    omega
  · obtain rfl := List.mem_singleton.1 heq
    exact ⟨t, holdest⟩

/-- All keys stay, or all but the last do. -/
theorem withRoomFor_eq (h : m.Mirrors keys) (key : Text) :
    (key ∈ keys ∨ keys.length < capacity) ∧ m.withRoomFor key = m.lastRead ∨
      ∃ front last, keys = front ++ [last] ∧ key ∉ keys ∧ keys.length = capacity ∧
        m.withRoomFor key = m.lastRead.erase last := by
  have hlength := h.length_le
  by_cases hstay : key ∈ keys ∨ keys.length < capacity
  · refine .inl ⟨hstay, ?_⟩
    rw [withRoomFor, if_pos]
    simpa [h.contains_iff, h.size_eq] using hstay
  · obtain ⟨hkey, hfull⟩ := not_or.1 hstay
    have hne : keys ≠ [] := by
      rintro rfl
      exact hfull (by decide)
    obtain ⟨front, last, rfl⟩ : ∃ front last, keys = front ++ [last] :=
      ⟨_, _, (List.dropLast_concat_getLast hne).symm⟩
    obtain ⟨t, holdest⟩ := h.exists_oldest?_eq_last
    refine .inr ⟨front, last, rfl, hkey, by omega, ?_⟩
    rw [withRoomFor, if_neg, holdest]
    simpa [h.contains_iff, h.size_eq] using hstay

/-- A key that is read moves to the front of those that stay. -/
theorem insert (h : m.Mirrors keys) {left : Std.HashMap Text Nat} {kept : List Text}
    (hkept : kept.Sublist keys) (hkey : key ∉ kept) (hlength : kept.length < capacity)
    (hsize : (left.insert key m.time).size = kept.length + 1)
    (hleft : ∀ other, other ≠ key →
      left[other]? = if other ∈ kept then m.timeOf? other else none) :
    Mirrors ⟨left.insert key m.time, m.time + 1⟩ (key :: kept) := by
  have hfirst : timeOf? ⟨left.insert key m.time, m.time + 1⟩ key = some m.time := by
    simp [timeOf?]
  have hothers : ∀ other, other ≠ key →
      timeOf? ⟨left.insert key m.time, m.time + 1⟩ other =
        if other ∈ kept then m.timeOf? other else none := by
    intro other hne
    rw [← hleft other hne, timeOf?, Std.HashMap.getElem?_insert, if_neg (by simpa using hne.symm)]
  have hstays : ∀ other ∈ kept,
      timeOf? ⟨left.insert key m.time, m.time + 1⟩ other = m.timeOf? other := by
    intro other hother
    rw [hothers other (ne_of_mem_of_not_mem hother hkey), if_pos hother]
  refine ⟨List.nodup_cons.2 ⟨hkey, hkept.nodup h.nodup⟩, hlength, hsize, ?_, ?_, ?_⟩
  · intro other
    by_cases hne : other = key
    · simp [hne, hfirst]
    · rw [hothers other hne, List.mem_cons]
      by_cases hother : other ∈ kept
      · simp [hother, (h.mem_iff other).1 (hkept.subset hother)]
      · simp [hother, hne]
  · intro other time htime
    by_cases hne : other = key
    · rw [hne, hfirst] at htime
      cases htime
      exact Nat.lt_succ_self _
    · rw [hothers other hne] at htime
      split at htime
      · exact Nat.lt_succ_of_lt (h.before_now other time htime)
      · cases htime
  · refine List.pairwise_cons.2 ⟨?_, ?_⟩
    · intro other hother t u ht hu
      rw [hfirst] at ht
      rw [hstays other hother] at hu
      cases ht
      exact h.before_now other u hu
    · refine (h.descending.sublist hkept).imp_of_mem ?_
      intro newer older hnewer holder hlt t u ht hu
      rw [hstays newer hnewer] at ht
      rw [hstays older holder] at hu
      exact hlt t u ht hu

theorem read_of_stay (h : m.Mirrors keys) (hstay : key ∈ keys ∨ keys.length < capacity) :
    Mirrors ⟨m.lastRead.insert key m.time, m.time + 1⟩ (key :: keys.filter (· != key)) := by
  have hmem : key ∈ m.lastRead ↔ key ∈ keys := by
    rw [← h.contains_iff, contains, Std.HashMap.mem_iff_contains]
  -- A key that was there makes room for itself; a new one takes one of the free places.
  have hlength : (keys.filter (· != key)).length + 1 =
      if key ∈ keys then keys.length else keys.length + 1 := by
    rw [← h.nodup.erase_eq_filter, List.length_erase]
    by_cases hkey : key ∈ keys
    · have hpos := List.length_pos_of_mem hkey
      simp only [hkey, if_true]
      omega
    · simp [hkey]
  have hle := h.length_le
  refine h.insert List.filter_sublist (by simp) ?_ ?_ ?_
  · split at hlength <;> grind
  · simp only [Std.HashMap.size_insert, hmem, h.size_eq, hlength]
  · intro other hne
    by_cases hother : other ∈ keys
    · rw [if_pos (List.mem_filter.2 ⟨hother, by simpa using hne⟩), timeOf?]
    · rw [if_neg fun hfilter => hother (List.mem_of_mem_filter hfilter)]
      exact h.timeOf?_eq_none hother

theorem read_of_full {front : List Text} {last : Text} (h : m.Mirrors (front ++ [last]))
    (hkey : key ∉ front ++ [last]) :
    Mirrors ⟨(m.lastRead.erase last).insert key m.time, m.time + 1⟩ (key :: front) := by
  have hlast : last ∉ front := by
    have hnodup := List.nodup_append.1 h.nodup
    exact fun hmem => hnodup.2.2 last hmem last (by simp) rfl
  have herase : ∀ other, (m.lastRead.erase last)[other]? =
      if last = other then none else m.timeOf? other := by
    intro other
    simp [Std.HashMap.getElem?_erase, timeOf?]
  have hlength := h.length_le
  have hsize := h.size_eq
  rw [List.length_append, List.length_singleton] at hlength hsize
  refine h.insert (List.sublist_append_left _ _) ?_ hlength ?_ ?_
  · exact fun hmem => hkey (List.mem_append_left _ hmem)
  · have hnew : key ∉ m.lastRead.erase last := by
      rw [Std.HashMap.mem_iff_isSome_getElem?, herase, h.timeOf?_eq_none hkey]
      simp
    have hold : last ∈ m.lastRead := by
      rw [Std.HashMap.mem_iff_isSome_getElem?]
      exact (h.mem_iff last).1 (by simp)
    rw [Std.HashMap.size_insert, if_neg hnew, Std.HashMap.size_erase, if_pos hold, hsize]
    omega
  · intro other hne
    rw [herase]
    by_cases hother : other ∈ front
    · have hne : last ≠ other := (ne_of_mem_of_not_mem hother hlast).symm
      rw [if_pos hother, if_neg hne]
    · rw [if_neg hother]
      by_cases heq : last = other
      · rw [if_pos heq]
      · rw [if_neg heq]
        exact h.timeOf?_eq_none (by simp [hother, Ne.symm heq])

/-- After a key was read, the two memories still have the same keys. -/
theorem read (h : m.Mirrors keys) (key : Text) :
    (m.read key).Mirrors (key :: (keys.filter (· != key)).take (capacity - 1)) := by
  rw [KeyMemory.read]
  rcases h.withRoomFor_eq key with ⟨hstay, hroom⟩ | ⟨front, last, rfl, hkey, hfull, hroom⟩
  · have hread := h.read_of_stay hstay
    rw [hroom, List.take_of_length_le (Nat.le_sub_one_of_lt hread.length_le)]
    exact hread
  · have hothers : (front ++ [last]).filter (· != key) = front ++ [last] :=
      List.filter_eq_self.2 fun other hother => by
        simpa using ne_of_mem_of_not_mem hother hkey
    rw [List.length_append, List.length_singleton] at hfull
    rw [hroom, hothers, List.take_left' (by omega)]
    exact h.read_of_full hkey

end Mirrors

end KeyMemory

end RoleGate
