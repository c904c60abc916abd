import RoleGate.Text.Lowercase

/-!
# Lower case is reached in one step

What lower case makes of a character is not moved by lower case again: no run of the table ends up
on a character that a run starts from, and the letters with rules of their own do not either. So the
lower case of a text is its own lower case, although what becomes of a letter may depend on the
letters around it.

## Main definitions

* `Text.CaseRun.avoids` — what one run reaches is nothing that another run moves.
* `Text.isLower` — no run moves the code point.

## Main statements

* `Text.isLower_toLower` — the lower case of a character.
* `Text.lowercase_lowercase` — the lower case of a text.
-/

namespace RoleGate.Text

/-! ## Single characters -/

namespace CaseRun

/-- Where the run moves a code point. -/
def move (r : CaseRun) (n : Nat) : Nat :=
  ((n : Int) + r.shift).toNat

/-- No code point that `r` moves ends up on one that `s` moves: what `r` reaches lies on one side of
`s`, or `s` moves every other code point and `r` reaches those between. -/
def avoids (r s : CaseRun) : Bool :=
  s.last.blt (r.move r.first) || (r.move r.last).blt s.first ||
    (s.step == 2 && (r.step == 2 || r.first == r.last) && (r.move r.first + s.first) % 2 == 1)

theorem holds_iff {r : CaseRun} {n : Nat} :
    r.holds n = true ↔ r.first ≤ n ∧ n ≤ r.last ∧ (n - r.first) % r.step = 0 := by
  simp [holds, and_assoc]

theorem avoids_iff {r s : CaseRun} :
    r.avoids s = true ↔ s.last < r.move r.first ∨ r.move r.last < s.first ∨
      s.step = 2 ∧ (r.step = 2 ∨ r.first = r.last) ∧ (r.move r.first + s.first) % 2 = 1 := by
  simp [avoids, Nat.blt_eq, and_assoc, or_assoc]

theorem holds_move_eq_false {r s : CaseRun} {n : Nat} (hstart : 0 ≤ (r.first : Int) + r.shift)
    (havoids : r.avoids s = true) (hn : r.holds n = true) : s.holds (r.move n) = false := by
  obtain ⟨hfirst, hlast, hstep⟩ := holds_iff.1 hn
  rw [← Bool.not_eq_true, holds_iff, move]
  rintro ⟨hsfirst, hslast, hsstep⟩
  rw [avoids_iff, move, move] at havoids
  obtain hbehind | hbefore | ⟨htwo, hevery | hsingle, hparity⟩ := havoids
  · omega
  · omega
  · rw [htwo] at hsstep
    rw [hevery] at hstep
    omega
  · rw [htwo] at hsstep
    omega

end CaseRun

/-- Lower case does not move the code point. -/
def isLower (n : Nat) : Bool :=
  lowerRuns.all fun r => !r.holds n

theorem moveBy_eq_move {runs : List CaseRun} {r : CaseRun} {n : Nat}
    (h : runs.find? (·.holds n) = some r) : moveBy runs n = r.move n := by
  rw [moveBy, h]
  rfl

theorem toLower_of_isLower {n : Nat} (h : isLower n = true) : toLower n = n := by
  have hnone : lowerRuns.find? (·.holds n) = none := by
    rw [List.find?_eq_none]
    intro r hr
    simpa using List.all_eq_true.1 h r hr
  rw [toLower, moveBy, hnone]

theorem start_of_mem_lowerRuns : ∀ r ∈ lowerRuns, 0 ≤ (r.first : Int) + r.shift := by
  decide +kernel

/-- What any run reaches is nothing that any run moves. -/
theorem lowerRuns_avoids : (lowerRuns.all fun r => lowerRuns.all r.avoids) = true := by
  decide +kernel

/-- The lower case of a character is not moved again. -/
theorem isLower_toLower (n : Nat) : isLower (toLower n) = true := by
  cases hfind : lowerRuns.find? (·.holds n) with
  | none =>
    have hn : isLower n = true := by
      rw [isLower, List.all_eq_true]
      intro r hr
      simpa using List.find?_eq_none.1 hfind r hr
    rwa [toLower_of_isLower hn]
  | some r =>
    have hr : r ∈ lowerRuns := List.mem_of_find?_eq_some hfind
    rw [toLower, moveBy_eq_move hfind, isLower, List.all_eq_true]
    intro s hs
    have havoids := List.all_eq_true.1 (List.all_eq_true.1 lowerRuns_avoids r hr) s hs
    have hn : r.holds n = true := (List.find?_eq_some_iff_append.1 hfind).1
    rw [CaseRun.holds_move_eq_false (start_of_mem_lowerRuns r hr) havoids hn]
    rfl

/-! ## Texts -/

variable {before after t : Text} {c d : Char}

theorem toNat_ofNat (n : Nat) : (Char.ofNat n).toNat = n ∨ (Char.ofNat n).toNat = 0 := by
  by_cases hvalid : n.isValidChar
  · rw [Char.ofNat, dif_pos hvalid]
    exact .inl rfl
  · rw [Char.ofNat, dif_neg hvalid]
    exact .inr rfl

theorem isLower_toNat_ofNat {n : Nat} (h : isLower n = true) :
    isLower (Char.ofNat n).toNat = true := by
  obtain hn | hzero := toNat_ofNat n
  · rwa [hn]
  · rw [hzero]
    decide +kernel

theorem isLower_of_mem_lowerBetween (h : d ∈ lowerBetween before c after) :
    isLower d.toNat = true := by
  rw [lowerBetween] at h
  split at h
  · obtain rfl | rfl : d = Char.ofNat 0x69 ∨ d = Char.ofNat 0x307 := by simpa using h
    · decide +kernel
    · decide +kernel
  · split at h
    · obtain rfl := List.mem_singleton.1 h
      split
      · decide +kernel
      · decide +kernel
    · obtain rfl := List.mem_singleton.1 h
      exact isLower_toNat_ofNat (isLower_toLower c.toNat)

/-- Only characters that lower case does not move are left. -/
theorem isLower_of_mem_lowerAfter (h : d ∈ lowerAfter before t) : isLower d.toNat = true := by
  induction t generalizing before with
  | nil => cases h
  | cons c t ih =>
    rw [lowerAfter, List.mem_append] at h
    obtain hfirst | hrest := h
    · exact isLower_of_mem_lowerBetween hfirst
    · exact ih hrest

/-- The letters with rules of their own are moved, so that nothing happens to one that is not. -/
theorem lowerBetween_of_isLower (h : isLower c.toNat = true) :
    lowerBetween before c after = [c] := by
  have hdotted : (c.toNat == 0x130) = false := by
    rw [beq_eq_false_iff_ne]
    intro hc
    rw [hc] at h
    exact absurd h (by decide +kernel)
  have hsigma : (c.toNat == 0x3A3) = false := by
    rw [beq_eq_false_iff_ne]
    intro hc
    rw [hc] at h
    exact absurd h (by decide +kernel)
  rw [lowerBetween, hdotted, hsigma, toLower_of_isLower h, Char.ofNat_toNat]
  rfl

theorem lowerAfter_of_isLower (h : ∀ c ∈ t, isLower c.toNat = true) :
    lowerAfter before t = t := by
  induction t generalizing before with
  | nil => rfl
  | cons c t ih =>
    obtain ⟨hc, ht⟩ := List.forall_mem_cons.1 h
    rw [lowerAfter, lowerBetween_of_isLower hc, ih ht]
    rfl

/-- The lower case of a text is its own lower case. -/
@[simp] theorem lowercase_lowercase (t : Text) : lowercase (lowercase t) = lowercase t :=
  lowerAfter_of_isLower fun _ hd => isLower_of_mem_lowerAfter hd

end RoleGate.Text
