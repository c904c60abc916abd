import Mathlib.Data.List.Chain
import RoleGate.Key.Normal
import RoleGate.Proofs.Key.Canonical

/-!
# How keys are normalized

The normal form of a key is made by one scan, which is known here by what it does to the parts of a
key: blanks and heads outside of literals, and a literal up to the delimiter that ends it.

## Main definitions

* `Text.withoutBlanks` — a text with all its blanks left out.
* `Key.Calm` — two neighbours between which no literal begins.
* `Key.Sealed` — a literal that ends only at its end.
-/

namespace RoleGate

namespace Text

/-- The text with all its blanks left out. -/
def withoutBlanks (t : Text) : Text :=
  t.filter (!isBlank ·)

theorem withoutBlanks_cons_of_blank {c : Char} (h : isBlank c = true) (t : Text) :
    withoutBlanks (c :: t) = withoutBlanks t := by
  simp [withoutBlanks, h]

theorem withoutBlanks_cons_of_not_blank {c : Char} (h : isBlank c = false) (t : Text) :
    withoutBlanks (c :: t) = c :: withoutBlanks t := by
  simp [withoutBlanks, h]

theorem withoutBlanks_append (s t : Text) :
    withoutBlanks (s ++ t) = withoutBlanks s ++ withoutBlanks t :=
  List.filter_append ..

theorem withoutBlanks_eq_nil_iff {t : Text} : withoutBlanks t = [] ↔ isBlankText t = true := by
  simp [withoutBlanks, isBlankText, List.filter_eq_nil_iff]

theorem trimLeft_cons_of_blank {c : Char} (h : isBlank c = true) (t : Text) :
    trimLeft (c :: t) = trimLeft t := by
  simp [trimLeft, h]

theorem trimLeft_cons_of_not_blank {c : Char} (h : isBlank c = false) (t : Text) :
    trimLeft (c :: t) = c :: t := by
  simp [trimLeft, h]

theorem trimLeft_append_of_blank {gap : Text} (hgap : isBlankText gap = true) (t : Text) :
    trimLeft (gap ++ t) = trimLeft t :=
  List.dropWhile_append_of_pos (isBlankText_iff.1 hgap)

theorem head?_withoutBlanks (t : Text) : (withoutBlanks t).head? = (trimLeft t).head? := by
  induction t with
  | nil => rfl
  | cons c t ih =>
    by_cases hc : isBlank c = true
    · rw [withoutBlanks_cons_of_blank hc, trimLeft_cons_of_blank hc, ih]
    · rw [Bool.not_eq_true] at hc
      rw [withoutBlanks_cons_of_not_blank hc, trimLeft_cons_of_not_blank hc, List.head?_cons,
        List.head?_cons]

end Text

namespace Key

/-! ## What ends a literal -/

theorem isBlank_of_isDelimiter {d : Char} (hd : isDelimiter d = true) :
    Text.isBlank d = false := by
  simp only [isDelimiter, Bool.or_eq_true, beq_iff_eq] at hd
  obtain rfl | rfl := hd <;> rfl

theorem closes_of_comma {gap rest : Text} (hgap : Text.isBlankText gap = true) :
    closes (gap ++ ',' :: rest) = true := by
  rw [closes, Text.trimLeft_append_of_blank hgap]
  rfl

theorem closes_of_bracket {gap rest : Text} (hgap : Text.isBlankText gap = true)
    (hrest : Text.isBlankText rest = true) : closes (gap ++ ']' :: rest) = true := by
  rw [closes, Text.trimLeft_append_of_blank hgap]
  exact hrest

/-- In front of another delimiter, a literal ends only before a comma: a bracket there is not the
end of the key. -/
theorem closes_append_delimiter {d : Char} (hd : isDelimiter d = true) (inner behind : Text) :
    closes (inner ++ d :: behind) = ((Text.trimLeft inner).head? == some ',') := by
  have hblank := isBlank_of_isDelimiter hd
  have hne : d ≠ ',' ∧ d ≠ ']' := by constructor <;> (rintro rfl; simp [isDelimiter] at hd)
  induction inner with
  | nil =>
    rw [List.nil_append, closes, Text.trimLeft_cons_of_not_blank hblank]
    split <;> simp_all [Text.trimLeft]
  | cons c inner ih =>
    by_cases hc : Text.isBlank c = true
    · rw [Text.trimLeft_cons_of_blank hc, ← ih, closes, closes, List.cons_append,
        Text.trimLeft_cons_of_blank hc]
    · rw [Bool.not_eq_true] at hc
      rw [closes, List.cons_append, Text.trimLeft_cons_of_not_blank hc,
        Text.trimLeft_cons_of_not_blank hc]
      split
      · simp_all
      · next rest heq =>
        obtain ⟨rfl, rfl⟩ : c = ']' ∧ inner ++ d :: behind = rest := by simpa using heq
        simp [Text.isBlankText, hblank]
      · simp_all

/-! ## Outside of literals -/

/-- No literal begins at the second of two neighbours. -/
def Calm (a b : Char) : Prop :=
  ¬ (isOpener a = true ∧ isDelimiter b = true)

theorem isChain_of_no_opener {t : Text} (h : ∀ c ∈ t, isOpener c = false) : t.IsChain Calm := by
  refine (List.pairwise_of_forall_mem_list fun a ha b _ => ?_).isChain
  simp [Calm, h a ha]

theorem isChain_of_no_delimiter {t : Text} (h : ∀ c ∈ t, isDelimiter c = false) :
    t.IsChain Calm := by
  refine (List.pairwise_of_forall_mem_list fun a _ b hb => ?_).isChain
  simp [Calm, h b hb]

theorem normalizeFrom_kept {c : Char} (hblank : Text.isBlank c = false)
    (hdelimiter : isDelimiter c = false) (last : Option Char) (rest : Text) :
    normalizeFrom (.outside last) (c :: rest) = c :: normalizeFrom (.outside (some c)) rest := by
  simp [normalizeFrom, Place.drops, Place.behind, hblank, hdelimiter]

theorem normalizeFrom_blank {gap : Text} (hgap : Text.isBlankText gap = true) (last : Option Char)
    (rest : Text) :
    normalizeFrom (.outside last) (gap ++ rest) = normalizeFrom (.outside last) rest := by
  induction gap with
  | nil => rfl
  | cons c gap ih =>
    obtain ⟨hc, hgap⟩ := Text.isBlankText_cons_iff.1 hgap
    rw [List.cons_append, normalizeFrom, Place.drops, hc, if_pos rfl, ih hgap]

theorem normalizeFrom_bracket (last : Option Char) {trail : Text}
    (htrail : Text.isBlankText trail = true) :
    normalizeFrom (.outside last) (']' :: trail) = [']'] := by
  have hend : normalizeFrom (.outside (some ']')) (trail ++ []) = [] :=
    normalizeFrom_blank htrail _ []
  rw [List.append_nil] at hend
  rw [normalizeFrom_kept rfl rfl, hend]

/-- Where no literal begins, exactly the blanks are left out. -/
theorem normalizeFrom_append {last : Option Char} {head : Text} (rest : Text)
    (hcalm : (last.toList ++ Text.withoutBlanks head).IsChain Calm) :
    normalizeFrom (.outside last) (head ++ rest) = Text.withoutBlanks head ++
      normalizeFrom (.outside ((Text.withoutBlanks head).getLast?.or last)) rest := by
  induction head generalizing last with
  | nil => simp [Text.withoutBlanks]
  | cons c head ih =>
    by_cases hc : Text.isBlank c = true
    · rw [Text.withoutBlanks_cons_of_blank hc] at hcalm ⊢
      rw [List.cons_append, normalizeFrom, Place.drops, hc, if_pos rfl, ih hcalm]
    · rw [Bool.not_eq_true] at hc
      rw [Text.withoutBlanks_cons_of_not_blank hc] at hcalm ⊢
      have hbehind : (Place.outside last).behind c (head ++ rest) = .outside (some c) := by
        cases last with
        | none => simp [Place.behind, Place.opensLiteral]
        | some o =>
          have hcalm : Calm o c := (List.isChain_cons_cons.1 hcalm).1
          have hclosed : (isDelimiter c && isOpener o) = false := by
            simpa [Calm, and_comm] using hcalm
          simp [Place.behind, Place.opensLiteral, hclosed]
      have htail : ((some c).toList ++ Text.withoutBlanks head).IsChain Calm :=
        (List.isChain_append.1 hcalm).2.1
      rw [List.cons_append, normalizeFrom, Place.drops, hc, if_neg (by simp), hbehind, ih htail]
      simp [List.getLast?_cons]

/-! ## Inside of literals -/

/-- No delimiter in the literal has a comma behind it, blanks aside. -/
def Sealed (delimiter : Char) (literal : Text) : Prop :=
  Unbroken delimiter (Text.withoutBlanks literal)

instance decidableSealed (delimiter : Char) (literal : Text) :
    Decidable (Sealed delimiter literal) :=
  decidableUnbroken delimiter (Text.withoutBlanks literal)

theorem Sealed.tail {d c : Char} {literal : Text} (h : Sealed d (c :: literal)) :
    Sealed d literal := by
  by_cases hc : Text.isBlank c = true
  · rwa [Sealed, Text.withoutBlanks_cons_of_blank hc] at h
  · rw [Bool.not_eq_true] at hc
    rw [Sealed, Text.withoutBlanks_cons_of_not_blank hc] at h
    exact (unbroken_cons h).1

theorem Sealed.unbroken {d : Char} (hd : isDelimiter d = true) {literal : Text}
    (h : Sealed d literal) : Unbroken d literal := by
  rintro ⟨before, behind, rfl⟩
  have hcomma : Text.isBlank ',' = false := rfl
  refine h ⟨Text.withoutBlanks before, Text.withoutBlanks behind, ?_⟩
  simp [Text.withoutBlanks, isBlank_of_isDelimiter hd, hcomma]

/-- A delimiter inside a literal does not end it. -/
theorem Sealed.closes_eq_false {d : Char} (hd : isDelimiter d = true) {literal : Text}
    (h : Sealed d (d :: literal)) (behind : Text) : closes (literal ++ d :: behind) = false := by
  rw [Sealed, Text.withoutBlanks_cons_of_not_blank (isBlank_of_isDelimiter hd)] at h
  have hhead := (unbroken_cons h).2 rfl
  rw [Text.head?_withoutBlanks] at hhead
  rw [closes_append_delimiter hd]
  simpa using hhead

/-- A literal is kept as it is, up to a delimiter that ends it. -/
theorem normalizeFrom_literal {d : Char} (hd : isDelimiter d = true) {literal behind : Text}
    (hliteral : Sealed d literal) (hbehind : closes behind = true) :
    normalizeFrom (.inside d) (literal ++ d :: behind) =
      literal ++ d :: normalizeFrom (.outside (some d)) behind := by
  induction literal with
  | nil => simp [normalizeFrom, Place.drops, Place.behind, hbehind]
  | cons c literal ih =>
    have hstays : (Place.inside d).behind c (literal ++ d :: behind) = .inside d := by
      by_cases hc : c = d
      · subst hc
        simp [Place.behind, hliteral.closes_eq_false hd]
      · simp [Place.behind, hc]
    rw [List.cons_append, normalizeFrom, Place.drops, if_neg (by simp), hstays, ih hliteral.tail]
    rfl

/-- A quoted literal between blanks is kept without the blanks around it. -/
theorem normalizeFrom_quote {d o : Char} (hd : isDelimiter d = true) (ho : isOpener o = true)
    {front literal gap behind : Text} (hfront : Text.isBlankText front = true)
    (hliteral : Sealed d literal) (hgap : Text.isBlankText gap = true)
    (hbehind : closes (gap ++ behind) = true) :
    normalizeFrom (.outside (some o)) (front ++ quote d literal ++ gap ++ behind) =
      quote d literal ++ normalizeFrom (.outside (some d)) behind := by
  have hblank := isBlank_of_isDelimiter hd
  have hopens :
      (Place.outside (some o)).behind d (literal ++ d :: (gap ++ behind)) = .inside d := by
    simp [Place.behind, Place.opensLiteral, hd, ho]
  have hkept := normalizeFrom_literal hd hliteral hbehind
  rw [normalizeFrom_blank hgap] at hkept
  rw [List.append_assoc, List.append_assoc, normalizeFrom_blank hfront]
  simp [quote, normalizeFrom, Place.drops, hblank, hopens, hkept]

end Key

end RoleGate
