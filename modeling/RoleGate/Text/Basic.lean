/-!
# Text

A text is a list of characters, so that every scan of it is a recursion on the data and every
statement about it is a statement about lists.

## Main definitions

* `Text.splitOn` — the pieces between the occurrences of a separator.
* `Text.cutAt?` — what stands before and after the first occurrence of a separator.
* `Text.ofNat`, `Text.ofInt` — decimal numerals.
* `Text.ofInt?` — decimal numerals that are not too long.
-/

namespace RoleGate

/-- A sequence of characters. -/
abbrev Text := List Char

namespace Text

/-- A string literal may stand where a text is expected. -/
instance : Coe String Text := ⟨String.toList⟩

/-- The pieces between the occurrences of `sep`: one more than there are occurrences. -/
def splitOn (sep : Char) : Text → List Text
  | [] => [[]]
  | c :: rest =>
    if c = sep then [] :: splitOn sep rest
    else
      match splitOn sep rest with
      | [] => [[c]]
      | piece :: pieces => (c :: piece) :: pieces

theorem splitOn_ne_nil (sep : Char) (t : Text) : splitOn sep t ≠ [] := by
  fun_induction splitOn sep t <;> grind

/-- The separator stands between the pieces only. -/
theorem not_mem_of_mem_splitOn {sep : Char} {t piece : Text} (h : piece ∈ splitOn sep t) :
    sep ∉ piece := by
  fun_induction splitOn sep t generalizing piece <;> grind

theorem mem_of_mem_splitOn {sep c : Char} {t piece : Text} (h : piece ∈ splitOn sep t)
    (hc : c ∈ piece) : c ∈ t := by
  fun_induction splitOn sep t generalizing piece <;> grind

/-- What stands before and after the first `sep`, if there is one. -/
def cutAt? (sep : Char) (t : Text) : Option (Text × Text) :=
  match t.dropWhile (· != sep) with
  | [] => none
  | _ :: rest => some (t.takeWhile (· != sep), rest)

theorem cutAt?_cons (sep c : Char) (rest : Text) :
    cutAt? sep (c :: rest) =
      if c = sep then some ([], rest)
      else (cutAt? sep rest).map fun (before, behind) => (c :: before, behind) := by
  by_cases h : c = sep
  · simp [cutAt?, h]
  · cases hd : rest.dropWhile (· != sep) <;> simp [cutAt?, h, hd]

/-- A text is cut at its first separator, which belongs to neither part. -/
theorem cutAt?_eq_some_iff {sep : Char} {t before behind : Text} :
    cutAt? sep t = some (before, behind) ↔ t = before ++ sep :: behind ∧ sep ∉ before := by
  induction t generalizing before with
  | nil => simp [cutAt?]
  | cons c rest ih =>
    rw [cutAt?_cons]
    by_cases h : c = sep
    · cases before <;> grind
    · rw [if_neg h]
      simp only [Option.map_eq_some_iff, Prod.mk.injEq, Prod.exists]
      cases before <;> grind

/-- A text without the separator is not cut. -/
theorem cutAt?_eq_none_iff {sep : Char} {t : Text} : cutAt? sep t = none ↔ sep ∉ t := by
  induction t with
  | nil => simp [cutAt?]
  | cons c rest ih => grind [cutAt?_cons, Option.map_eq_none_iff]

/-- What follows a beginning, if the text has it. -/
def behind? : (beginning : Text) → Text → Option Text
  | [], t => some t
  | _ :: _, [] => none
  | b :: beginning, c :: t => if b = c then behind? beginning t else none

/-- The pieces in order with `sep` between neighbours. -/
def join (sep : Text) (pieces : List Text) : Text :=
  sep.intercalate pieces

@[simp] theorem join_nil (sep : Text) : join sep [] = [] := rfl

@[simp] theorem join_singleton (sep piece : Text) : join sep [piece] = piece := by
  simp [join, List.intercalate]

@[simp] theorem join_cons_cons (sep first second : Text) (others : List Text) :
    join sep (first :: second :: others) = first ++ sep ++ join sep (second :: others) := by
  simp [join, List.intercalate]

/-- The pieces with the separator between them are the text. -/
@[simp] theorem join_splitOn (sep : Char) (t : Text) : join [sep] (splitOn sep t) = t := by
  fun_induction splitOn sep t with
  | case1 => simp
  | case2 rest ih =>
    cases h : splitOn sep rest with
    | nil => exact absurd h (splitOn_ne_nil sep rest)
    | cons piece pieces => grind [join_cons_cons]
  | case3 c rest hc h ih => exact absurd h (splitOn_ne_nil sep rest)
  | case4 c rest hc piece pieces h ih => cases pieces <;> grind [join_cons_cons, join_singleton]

theorem splitOn_append_cons {sep : Char} {piece rest : Text} (h : sep ∉ piece) :
    splitOn sep (piece ++ sep :: rest) = piece :: splitOn sep rest := by
  induction piece with
  | nil => simp [splitOn]
  | cons c piece ih =>
    have hc : c ≠ sep := by grind
    rw [List.cons_append, splitOn, if_neg hc, ih (by grind)]

theorem splitOn_of_not_mem {sep : Char} {t : Text} (h : sep ∉ t) : splitOn sep t = [t] := by
  induction t with
  | nil => rfl
  | cons c t ih =>
    have hc : c ≠ sep := by grind
    rw [splitOn, if_neg hc, ih (by grind)]

/-- Pieces without the separator are found again between its occurrences. -/
theorem splitOn_join {sep : Char} {pieces : List Text} (hne : pieces ≠ [])
    (h : ∀ p ∈ pieces, sep ∉ p) : splitOn sep (join [sep] pieces) = pieces := by
  induction pieces with
  | nil => exact absurd rfl hne
  | cons piece pieces ih =>
    have hpiece : sep ∉ piece := h piece (by simp)
    cases pieces with
    | nil => rw [join_singleton, splitOn_of_not_mem hpiece]
    | cons second others =>
      rw [join_cons_cons, List.append_assoc, List.singleton_append, splitOn_append_cons hpiece,
        ih (by simp) (fun p hp => h p (by simp [hp]))]

/-- A character between the pieces comes from a separator or from a piece. -/
theorem mem_join {c : Char} {sep : Text} {pieces : List Text} (h : c ∈ join sep pieces) :
    c ∈ sep ∨ ∃ p ∈ pieces, c ∈ p := by
  induction pieces with
  | nil => simp at h
  | cons piece pieces ih =>
    cases pieces with
    | nil => exact .inr ⟨piece, by simp, by simpa using h⟩
    | cons second others =>
      rw [join_cons_cons, List.mem_append, List.mem_append] at h
      obtain (h | h) | h := h
      · exact .inr ⟨piece, by simp, h⟩
      · exact .inl h
      · obtain hsep | ⟨p, hp, hc⟩ := ih h
        · exact .inl hsep
        · exact .inr ⟨p, List.mem_cons_of_mem _ hp, hc⟩

theorem notMem_join {c : Char} {sep : Text} {pieces : List Text} (hsep : c ∉ sep)
    (hpieces : ∀ p ∈ pieces, c ∉ p) : c ∉ join sep pieces := by
  intro h
  obtain h | ⟨p, hp, hc⟩ := mem_join h
  · exact hsep h
  · exact hpieces p hp hc

theorem mem_join_of_mem {c : Char} {sep piece : Text} {pieces : List Text} (hp : piece ∈ pieces)
    (hc : c ∈ piece) : c ∈ join sep pieces := by
  induction pieces with
  | nil => cases hp
  | cons first pieces ih =>
    cases pieces with
    | nil =>
      obtain rfl : piece = first := by simpa using hp
      rwa [join_singleton]
    | cons second others =>
      rw [join_cons_cons, List.mem_append, List.mem_append]
      obtain rfl | hp := List.mem_cons.1 hp
      · exact .inl (.inl hc)
      · exact .inr (ih hp)

/-- The character that encloses names in messages. -/
def apostrophe : Char := Char.ofNat 39

/-- A text between two apostrophes, as messages show names. -/
def inApostrophes (t : Text) : Text :=
  apostrophe :: (t ++ [apostrophe])

/-- The decimal numeral of a natural number. -/
def ofNat (n : Nat) : Text :=
  Nat.toDigits 10 n

/-- The decimal numeral of an integer, with a minus sign below zero. -/
def ofInt : Int → Text
  | .ofNat n => ofNat n
  | .negSucc n => '-' :: ofNat (n + 1)

/-- Longer numerals are neither read nor written. -/
def maxNumeral : Nat := 4300

/-- The decimal numeral of an integer, unless it has too many digits. -/
def ofInt? (n : Int) : Option Text :=
  if (ofNat n.natAbs).length ≤ maxNumeral then some (ofInt n) else none

/-- The text, unless it is absent or empty. -/
def present? : Option Text → Option Text
  | some [] | none => none
  | some t => some t

/-- A text ends with the given character. -/
def endsWith (c : Char) (t : Text) : Bool :=
  t.getLast? == some c

@[simp] theorem endsWith_concat (c d : Char) (t : Text) : endsWith c (t ++ [d]) = (d == c) := by
  simp [endsWith]

/-- Texts in the order of their code points, the shorter first where one begins the other. -/
def precedes : Text → Text → Bool
  | [], t => !t.isEmpty
  | _ :: _, [] => false
  | a :: s, b :: t => if a = b then precedes s t else a.toNat < b.toNat

end Text

end RoleGate
