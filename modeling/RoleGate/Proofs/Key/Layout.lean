import RoleGate.Proofs.Key.Normal

/-!
# Layouts of rule keys

A key may be written with blanks anywhere but inside its literals. However it is laid out, its
normal form is its one text, and reading that gives the key back with every literal unchanged.

## Main definitions

* `RuleKey.LaidOut` — a text is a layout of a key.
* `RuleKey.WellFormed` — the names, types and literals of a key do not run into each other.
-/

namespace RoleGate

namespace Key

/-- The text may stand for a method or for the beginning of methods. -/
def IsName (t : Text) : Prop :=
  ∀ c ∈ t, Text.isBlank c = false ∧ c ≠ '(' ∧ c ≠ '[' ∧ c ≠ ','

/-- The text may stand for a parameter type. -/
def IsType (t : Text) : Prop :=
  t ≠ [] ∧ ∀ c ∈ t, Text.isBlank c = false ∧ c ≠ ',' ∧ c ≠ ')' ∧ c ≠ '"' ∧ c ≠ '/'

instance decidableIsName (t : Text) : Decidable (IsName t) :=
  List.decidableBAll _ t

instance decidableIsType (t : Text) : Decidable (IsType t) :=
  @instDecidableAnd _ _ inferInstance (List.decidableBAll _ t)

theorem IsName.no_opener {name : Text} (h : IsName name) : ∀ c ∈ name, isOpener c = false :=
  fun c hc => by simp [isOpener, (h c hc).2.2.1, (h c hc).2.2.2]

/-- A list of literals laid out behind its opening bracket. Blanks may stand in front of a literal,
and in front of and behind a comma or the closing bracket. -/
inductive ListLaidOut (delimiter : Char) : List Text → Text → Prop where
  | empty {gap trail : Text} (hgap : Text.isBlankText gap = true)
      (htrail : Text.isBlankText trail = true) : ListLaidOut delimiter [] (gap ++ ']' :: trail)
  | last {literal front gap trail : Text} (hfront : Text.isBlankText front = true)
      (hgap : Text.isBlankText gap = true) (htrail : Text.isBlankText trail = true) :
      ListLaidOut delimiter [literal] (front ++ quote delimiter literal ++ gap ++ ']' :: trail)
  | more {literal next front gap rest : Text} {others : List Text}
      (hfront : Text.isBlankText front = true) (hgap : Text.isBlankText gap = true)
      (hrest : ListLaidOut delimiter (next :: others) rest) :
      ListLaidOut delimiter (literal :: next :: others)
        (front ++ quote delimiter literal ++ gap ++ ',' :: rest)

/-- The normal form of a list that is laid out has no blanks between its literals. -/
theorem normalizeFrom_list {d o : Char} (hd : isDelimiter d = true) (ho : isOpener o = true)
    {literals : List Text} {t : Text} (ht : ListLaidOut d literals t)
    (hsealed : ∀ l ∈ literals, Sealed d l) :
    normalizeFrom (.outside (some o)) t = Text.join [','] (literals.map (quote d)) ++ [']'] := by
  induction ht generalizing o with
  | empty hgap htrail =>
    rw [normalizeFrom_blank hgap, normalizeFrom_bracket _ htrail]
    rfl
  | last hfront hgap htrail =>
    rw [normalizeFrom_quote hd ho hfront (hsealed _ (by simp)) hgap (closes_of_bracket hgap htrail),
      normalizeFrom_bracket _ htrail]
    simp
  | more hfront hgap hrest ih =>
    have hcomma : isOpener ',' = true := rfl
    have hothers := ih hcomma fun l hl => hsealed l (List.mem_cons_of_mem _ hl)
    rw [normalizeFrom_quote hd ho hfront (hsealed _ (by simp)) hgap (closes_of_comma hgap),
      normalizeFrom_kept rfl rfl, hothers]
    simp

theorem normalize_head {head : Text} (hcalm : (Text.withoutBlanks head).IsChain Calm) :
    normalize head = Text.withoutBlanks head := by
  have h : normalizeFrom (.outside none) (head ++ []) = Text.withoutBlanks head ++ [] :=
    normalizeFrom_append [] (by simpa using hcalm)
  simpa [normalize] using h

theorem normalize_bracketed {d : Char} (hd : isDelimiter d = true) {head list : Text}
    {literals : List Text} (hcalm : (Text.withoutBlanks head).IsChain Calm)
    (hlist : ListLaidOut d literals list) (hsealed : ∀ l ∈ literals, Sealed d l) :
    normalize (head ++ '[' :: list) =
      Text.withoutBlanks head ++ RuleKey.literalList d literals := by
  have hbracket : isOpener '[' = true := rfl
  have hliterals := normalizeFrom_list hd hbracket hlist hsealed
  rw [normalize, normalizeFrom_append _ (by simpa using hcalm), normalizeFrom_kept rfl rfl,
    hliterals]
  rfl

end Key

namespace Shape

open Key

/-- The method has a name, and so have the types. -/
def WellFormed (s : Shape) : Prop :=
  s.method ≠ [] ∧ IsName s.method ∧ ∀ t ∈ s.signature.getD [], IsType t

instance decidableWellFormed (s : Shape) : Decidable s.WellFormed :=
  inferInstanceAs (Decidable (_ ∧ _ ∧ _))

theorem WellFormed.readable {s : Shape} (hs : s.WellFormed) : s.Readable := by
  obtain ⟨hne, hname, htypes⟩ := hs
  refine ⟨hne, fun c hc => ?_, fun t ht => ⟨(htypes t ht).1, fun h => ?_, fun h => ?_⟩⟩
  · simp [endsName, (hname c hc).2.1, (hname c hc).2.2.1]
  · exact ((htypes t ht).2 _ h).2.1 rfl
  · exact ((htypes t ht).2 _ h).2.2.1 rfl

/-- No literal begins in the text of a shape. -/
theorem WellFormed.isChain_text {s : Shape} (hs : s.WellFormed) : s.text.IsChain Calm := by
  obtain ⟨name, signature⟩ := s
  obtain ⟨-, hname, htypes⟩ := hs
  cases signature with
  | none => exact isChain_of_no_opener hname.no_opener
  | some types =>
    have hdelimiter : ∀ c ∈ '(' :: (Text.join [','] types ++ [')']), isDelimiter c = false := by
      intro c hc
      simp only [List.mem_cons, List.mem_append, List.not_mem_nil, or_false] at hc
      obtain rfl | hc | rfl := hc
      · rfl
      · obtain h | ⟨t, ht, h⟩ := Text.mem_join hc
        · obtain rfl : c = ',' := by simpa using h
          rfl
        · simp [isDelimiter, (htypes t ht).2 c h]
      · rfl
    refine List.isChain_append.2
      ⟨isChain_of_no_opener hname.no_opener, isChain_of_no_delimiter hdelimiter, ?_⟩
    intro a _ b hb
    simp [Calm, hdelimiter b (List.mem_of_mem_head? hb)]

end Shape

namespace RuleKey

open Key

/-- The names and types may stand in a key, and its literals end only at their ends. -/
def WellFormed : RuleKey → Prop
  | plain s => s.WellFormed ∧ (s.signature = none → Text.endsWith '*' s.method = false)
  | exact s values => s.WellFormed ∧ ∀ v ∈ values, Sealed '"' v
  | pattern s sources => s.WellFormed ∧ sources ≠ [] ∧ ∀ p ∈ sources, Sealed '/' p
  | wildcard beginning => IsName beginning
  | invalid _ => False

instance decidableWellFormed : (k : RuleKey) → Decidable k.WellFormed
  | plain _ | exact _ _ => inferInstanceAs (Decidable (_ ∧ _))
  | pattern _ _ => inferInstanceAs (Decidable (_ ∧ _ ∧ _))
  | wildcard beginning => decidableIsName beginning
  | invalid _ => .isFalse id

theorem WellFormed.readable {k : RuleKey} (hk : k.WellFormed) : k.Readable := by
  cases k with
  | plain s => exact ⟨hk.1.readable, hk.2⟩
  | exact s values => exact ⟨hk.1.readable, fun v hv => (hk.2 v hv).unbroken rfl⟩
  | pattern s sources => exact ⟨hk.1.readable, hk.2.1, fun p hp => (hk.2.2 p hp).unbroken rfl⟩
  | wildcard beginning => trivial
  | invalid fault => exact hk.elim

/-- A key laid out as a text. Blanks may stand anywhere but inside a literal. -/
inductive LaidOut : RuleKey → Text → Prop where
  | plain {s : Shape} {t : Text} (h : Text.withoutBlanks t = s.text) : LaidOut (.plain s) t
  | wildcard {beginning t : Text} (h : Text.withoutBlanks t = beginning ++ ['*']) :
      LaidOut (.wildcard beginning) t
  | exact {s : Shape} {values : List Text} {head list : Text}
      (hhead : Text.withoutBlanks head = s.text) (hlist : ListLaidOut '"' values list) :
      LaidOut (.exact s values) (head ++ '[' :: list)
  | pattern {s : Shape} {sources : List Text} {head list : Text}
      (hhead : Text.withoutBlanks head = s.text) (hlist : ListLaidOut '/' sources list) :
      LaidOut (.pattern s sources) (head ++ '[' :: list)

/-- The normal form of a key that is laid out is the text of the key. -/
theorem render?_eq_normalize {k : RuleKey} (hk : k.WellFormed) {t : Text} (ht : LaidOut k t) :
    k.render? = some (normalize t) := by
  cases ht with
  | plain h =>
    rw [normalize_head (h ▸ hk.1.isChain_text), h]
    rfl
  | @wildcard beginning _ h =>
    have hcalm : (beginning ++ ['*']).IsChain Calm := by
      refine isChain_of_no_opener fun c hc => ?_
      obtain hc | rfl : c ∈ beginning ∨ c = '*' := by simpa using hc
      · exact IsName.no_opener hk c hc
      · rfl
    rw [normalize_head (h ▸ hcalm), h]
    rfl
  | exact hhead hlist =>
    rw [normalize_bracketed rfl (hhead ▸ hk.1.isChain_text) hlist hk.2, hhead]
    rfl
  | pattern hhead hlist =>
    rw [normalize_bracketed rfl (hhead ▸ hk.1.isChain_text) hlist hk.2.2, hhead]
    rfl

/-- However a key is laid out, its normal form is read as that key. -/
theorem parse_normalize_of_laidOut {k : RuleKey} (hk : k.WellFormed) {t : Text}
    (ht : LaidOut k t) : parse (normalize t) = k :=
  parse_render? hk.readable (render?_eq_normalize hk ht)

/-- The literals hold delimiters, brackets and commas, and blanks at their ends. -/
theorem parse_normalize_of_brackets_in_literals :
    parse (normalize " put ( [B , int ) [ \"a\"] , b\" \" ,\" x,] \" ] ") =
      exact ⟨"put", some ["[B", "int"]⟩ ["a\"] , b\" ", " x,] "] := by
  have hk : (exact ⟨"put", some ["[B", "int"]⟩ ["a\"] , b\" ", " x,] "]).WellFormed := by
    decide +kernel
  have hblank : Text.isBlankText " " = true := rfl
  have hlist : ListLaidOut '"' ["a\"] , b\" ", " x,] "]
      ((" " : Text) ++ quote '"' "a\"] , b\" " ++ (" " : Text) ++ ',' ::
        ([] ++ quote '"' " x,] " ++ (" " : Text) ++ ']' :: (" " : Text))) :=
    .more hblank hblank (.last rfl hblank hblank)
  have hhead : Text.withoutBlanks " put ( [B , int ) " = Shape.text ⟨"put", some ["[B", "int"]⟩ :=
    rfl
  exact parse_normalize_of_laidOut hk (.exact hhead hlist)

end RuleKey

end RoleGate
