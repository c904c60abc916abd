import RoleGate.Key.Printer
import RoleGate.Key.Reader

/-!
# Canonical texts of rule keys

A key has one text. Reading that text gives the key back, provided that its names and literals can
be told apart in it; and a plain key or a wildcard is read off its own text only.

## Main definitions

* `Shape.Readable` — the name and the types can be told apart in the text of a shape.
* `RuleKey.Readable` — the same for all parts of a key.
-/

namespace RoleGate

/-- The name and the types can be told apart in the text of the shape. -/
def Shape.Readable (s : Shape) : Prop :=
  s.method ≠ [] ∧ (∀ c ∈ s.method, Key.endsName c = false) ∧
    ∀ t ∈ s.signature.getD [], t ≠ [] ∧ ',' ∉ t ∧ ')' ∉ t

namespace Key

/-- No delimiter in the literal has a comma directly behind it. -/
def Unbroken (delimiter : Char) (literal : Text) : Prop :=
  ¬ [delimiter, ','] <:+: literal

instance decidableUnbroken (delimiter : Char) (literal : Text) :
    Decidable (Unbroken delimiter literal) :=
  inferInstanceAs (Decidable (¬ _))

/-! ## The head -/

theorem overload?_join {name : Text} {types : List Text} (hname : name ≠ [])
    (htypes : ∀ t ∈ types, t ≠ [] ∧ ',' ∉ t) :
    overload? name (Text.join [','] types) = some ⟨name, some types⟩ := by
  have hany : types.any List.isEmpty = false := by
    rw [List.any_eq_false]
    intro t ht
    simpa using (htypes t ht).1
  cases types with
  | nil => simp [overload?, hname]
  | cons first others =>
    have hne : Text.join [','] (first :: others) ≠ [] := by
      have hfirst : first ≠ [] := (htypes first (by simp)).1
      cases others <;> simp [hfirst]
    have hsplit : Text.splitOn ',' (Text.join [','] (first :: others)) = first :: others :=
      Text.splitOn_join (by simp) fun t ht => (htypes t ht).2
    simp only [overload?, List.isEmpty_eq_false_iff.2 hne, List.isEmpty_eq_false_iff.2 hname,
      hsplit, hany, Bool.false_eq_true, if_false, Bool.or_false]

theorem eq_of_overload? {name types : Text} {s : Shape} (h : overload? name types = some s) :
    s.text = name ++ '(' :: (types ++ [')']) := by
  simp only [overload?, Option.ite_none_left_eq_some, Option.some.injEq] at h
  obtain ⟨-, rfl⟩ := h
  cases types with
  | nil => rfl
  | cons c rest => simp [Shape.text]

/-- A name reaches up to the first character that ends names. -/
theorem takeWhile_name {name behind : Text} (hname : ∀ c ∈ name, endsName c = false)
    (hbehind : ∀ c ∈ behind.head?, endsName c = true) :
    (name ++ behind).takeWhile (!endsName ·) = name ∧
      (name ++ behind).dropWhile (!endsName ·) = behind := by
  have hall : ∀ c ∈ name, (!endsName c) = true := by simpa using hname
  rw [List.takeWhile_append_of_pos hall, List.dropWhile_append_of_pos hall]
  cases behind with
  | nil => simp
  | cons c rest => simp [hbehind c rfl]

theorem splitHead_of_bracket {name behind : Text} (hne : name ≠ [])
    (hname : ∀ c ∈ name, endsName c = false) (hbehind : ∀ c ∈ behind.head?, c = '[') :
    splitHead (name ++ behind) = (some ⟨name, none⟩, behind) := by
  have hany : anyOverload? name = some ⟨name, none⟩ := by simp [anyOverload?, hne]
  obtain ⟨htake, hdrop⟩ := takeWhile_name hname fun c hc => by rw [hbehind c hc]; rfl
  cases behind with
  | nil => simp only [splitHead, htake, hdrop, hany]
  | cons c rest =>
    obtain rfl : c = '[' := hbehind c rfl
    simp only [splitHead, htake, hdrop, hany]
    rfl

theorem splitHead_of_parenthesis {name types behind : Text}
    (hname : ∀ c ∈ name, endsName c = false) (htypes : ')' ∉ types) :
    splitHead (name ++ '(' :: (types ++ ')' :: behind)) = (overload? name types, behind) := by
  have hopen : ∀ c ∈ ('(' :: (types ++ ')' :: behind)).head?, endsName c = true := by
    simp [endsName]
  obtain ⟨htake, hdrop⟩ := takeWhile_name hname hopen
  have hcut : Text.cutAt? ')' (types ++ ')' :: behind) = some (types, behind) :=
    Text.cutAt?_eq_some_iff.2 ⟨rfl, htypes⟩
  simp only [splitHead, htake, hdrop, hcut]

/-- The text of a shape is cut off in front of an argument list or at the end. -/
theorem splitHead_text {s : Shape} (hs : s.Readable) {behind : Text}
    (hbehind : ∀ c ∈ behind.head?, c = '[') : splitHead (s.text ++ behind) = (some s, behind) := by
  obtain ⟨name, signature⟩ := s
  obtain ⟨hne, hname, htypes⟩ := hs
  cases signature with
  | none => exact splitHead_of_bracket hne hname hbehind
  | some types =>
    have hclose : ')' ∉ Text.join [','] types :=
      Text.notMem_join (by decide) fun t ht => (htypes t ht).2.2
    have hoverload : overload? name (Text.join [','] types) = some ⟨name, some types⟩ :=
      overload?_join hne fun t ht => ⟨(htypes t ht).1, (htypes t ht).2.1⟩
    have hsplit : splitHead (name ++ '(' :: (Text.join [','] types ++ ')' :: behind)) =
        (overload? name (Text.join [','] types), behind) :=
      splitHead_of_parenthesis hname hclose
    simpa [Shape.text, hoverload] using hsplit

/-- The shape and what stands behind it make up the key. -/
theorem eq_append_of_splitHead {key behind : Text} {s : Shape}
    (h : splitHead key = (some s, behind)) : key = s.text ++ behind := by
  have hkey : key.takeWhile (!endsName ·) ++ key.dropWhile (!endsName ·) = key :=
    List.takeWhile_append_dropWhile
  generalize hname : key.takeWhile (!endsName ·) = name at hkey
  simp only [splitHead, hname] at h
  split at h
  · next rest hrest =>
    rw [hrest] at hkey
    cases hcut : Text.cutAt? ')' rest with
    | none => simp [hcut] at h
    | some parts =>
      obtain ⟨types, after⟩ := parts
      simp only [hcut, Prod.mk.injEq] at h
      obtain ⟨hoverload, rfl⟩ := h
      obtain ⟨rfl, -⟩ := Text.cutAt?_eq_some_iff.1 hcut
      rw [← hkey, eq_of_overload? hoverload]
      simp
  · simp only [Prod.mk.injEq] at h
    obtain ⟨hany, rfl⟩ := h
    rw [anyOverload?] at hany
    split at hany
    · simp at hany
    · obtain rfl : (⟨name, none⟩ : Shape) = s := by simpa using hany
      exact hkey.symm

/-! ## The argument list -/

/-- A literal between its delimiters. -/
def quote (delimiter : Char) (literal : Text) : Text :=
  delimiter :: (literal ++ [delimiter])

theorem unbroken_cons {d c : Char} {rest : Text} (h : Unbroken d (c :: rest)) :
    Unbroken d rest ∧ (c = d → rest.head? ≠ some ',') := by
  refine ⟨fun hrest => h (List.infix_cons_iff.2 (.inr hrest)), ?_⟩
  rintro rfl hhead
  obtain ⟨more, rfl⟩ := List.head?_eq_some_iff.1 hhead
  exact h ⟨[], more, rfl⟩

/-- A literal is cut off at the delimiter behind it. -/
theorem cutLiteral?_append {d : Char} {literal behind : Text} (hd : d ≠ ',')
    (hliteral : Unbroken d literal) (hbehind : ∀ c ∈ behind.head?, c = ',') :
    cutLiteral? d (literal ++ d :: behind) = some (literal, behind) := by
  induction literal with
  | nil =>
    cases behind with
    | nil => simp [cutLiteral?]
    | cons c rest => simp [cutLiteral?, hbehind c rfl]
  | cons c literal ih =>
    obtain ⟨hrest, hc⟩ := unbroken_cons hliteral
    have hopen : ¬ (c = d ∧ (literal ++ d :: behind).head? = some ',') := by
      rintro ⟨rfl, h⟩
      cases literal with
      | nil => exact hd (by simpa using h)
      | cons e literal => exact hc rfl (by simpa using h)
    rw [List.cons_append, cutLiteral?, if_neg (by simpa using hopen), ih hrest]
    rfl

theorem literals?_last {d : Char} {rest literal : Text} (hd : isDelimiter d = true)
    (hcut : cutLiteral? d rest = some (literal, [])) :
    literals? (d :: rest) = some [matcherOf d literal] := by
  rw [literals?, if_pos hd]
  split <;> simp_all

theorem literals?_more {d : Char} {rest literal more : Text} (hd : isDelimiter d = true)
    (hcut : cutLiteral? d rest = some (literal, ',' :: more)) (hmore : more ≠ []) :
    literals? (d :: rest) = (literals? more).map (matcherOf d literal :: ·) := by
  rw [literals?, if_pos hd]
  split <;> simp_all

/-- The literals of a list are found again one by one. -/
theorem literals?_join {d : Char} (hd : isDelimiter d = true) {ts : List Text}
    (hts : ∀ t ∈ ts, Unbroken d t) :
    literals? (Text.join [','] (ts.map (quote d))) = some (ts.map (matcherOf d)) := by
  have hcomma : d ≠ ',' := by rintro rfl; simp [isDelimiter] at hd
  induction ts with
  | nil => simp [literals?]
  | cons t ts ih =>
    have ht : Unbroken d t := hts t (by simp)
    cases ts with
    | nil =>
      have hcut : cutLiteral? d (t ++ d :: []) = some (t, []) :=
        cutLiteral?_append hcomma ht (by simp)
      simpa [quote] using literals?_last hd hcut
    | cons u ts =>
      have hrest := ih fun v hv => hts v (by simp [hv])
      have hcut : cutLiteral? d (t ++ d :: ',' :: Text.join [','] ((u :: ts).map (quote d))) =
          some (t, ',' :: Text.join [','] ((u :: ts).map (quote d))) :=
        cutLiteral?_append hcomma ht (by simp)
      have hne : Text.join [','] ((u :: ts).map (quote d)) ≠ [] := by cases ts <;> simp [quote]
      have hmore := literals?_more hd hcut hne
      rw [hrest] at hmore
      simpa [quote] using hmore

theorem argumentList?_literalList {d : Char} (hd : isDelimiter d = true) {ts : List Text}
    (hts : ∀ t ∈ ts, Unbroken d t) :
    argumentList? (RuleKey.literalList d ts) = some (ts.map (matcherOf d)) := by
  have hlist := literals?_join hd hts
  simp only [RuleKey.literalList, argumentList?, Text.endsWith_concat, beq_self_eq_true, if_true,
    List.dropLast_concat]
  exact hlist

/-! ## Matchers -/

theorem exactValues?_map (values : List Text) :
    exactValues? (values.map .exact) = some values := by
  induction values with
  | nil => rfl
  | cons v values ih => simp [exactValues?, ih]

theorem patternSources?_map (sources : List Text) :
    patternSources? (sources.map .pattern) = some sources := by
  induction sources with
  | nil => rfl
  | cons p sources ih => simp [patternSources?, ih]

theorem bracketed_exact (s : Shape) (values : List Text) :
    bracketed s (values.map .exact) = .exact s values := by
  simp [bracketed, exactValues?_map]

theorem bracketed_pattern (s : Shape) {sources : List Text} (hne : sources ≠ []) :
    bracketed s (sources.map .pattern) = .pattern s sources := by
  cases sources with
  | nil => exact absurd rfl hne
  | cons p sources =>
    have h : patternSources? (.pattern p :: sources.map .pattern) = some (p :: sources) :=
      patternSources?_map (p :: sources)
    simp [bracketed, exactValues?, h]

/-- Matchers never make a plain key or a wildcard. -/
theorem isBracketed_bracketed (s : Shape) (ms : List Matcher) :
    (bracketed s ms).isBracketed = true := by
  unfold bracketed
  split <;> rfl

end Key

/-! ## Keys -/

namespace RuleKey

open Key

/-- The parts of the key can be told apart in its text. -/
def Readable : RuleKey → Prop
  | plain s => s.Readable ∧ (s.signature = none → Text.endsWith '*' s.method = false)
  | exact s values => s.Readable ∧ ∀ v ∈ values, Unbroken '"' v
  | pattern s sources => s.Readable ∧ sources ≠ [] ∧ ∀ p ∈ sources, Unbroken '/' p
  | wildcard _ => True
  | invalid _ => False

theorem parse_concat_star (beginning : Text) : parse (beginning ++ ['*']) = wildcard beginning := by
  simp [parse]

theorem parse_text {s : Shape} (hs : s.Readable)
    (hstar : s.signature = none → Text.endsWith '*' s.method = false) : parse s.text = plain s := by
  have hend : Text.endsWith '*' s.text = false := by
    obtain ⟨name, _ | types⟩ := s
    · exact hstar rfl
    · have htext : Shape.text ⟨name, some types⟩ =
          (name ++ '(' :: Text.join [','] types) ++ [')'] := by
        simp [Shape.text]
      rw [htext, Text.endsWith_concat]
      rfl
  have hsplit : splitHead s.text = (some s, []) := by
    have hsplit : splitHead (s.text ++ []) = (some s, []) := splitHead_text hs (by simp)
    simpa using hsplit
  rw [parse, hend, hsplit]
  rfl

theorem parse_text_append_literalList {s : Shape} (hs : s.Readable) {d : Char}
    (hd : isDelimiter d = true) {ts : List Text} (hts : ∀ t ∈ ts, Unbroken d t) :
    parse (s.text ++ literalList d ts) = bracketed s (ts.map (matcherOf d)) := by
  have hend : Text.endsWith '*' (s.text ++ literalList d ts) = false := by
    rw [literalList, ← List.cons_append, ← List.append_assoc, Text.endsWith_concat]
    rfl
  have hsplit : splitHead (s.text ++ literalList d ts) = (some s, literalList d ts) :=
    splitHead_text hs (by simp [literalList])
  have hlist : argumentList? (literalList d ts) = some (ts.map (matcherOf d)) :=
    argumentList?_literalList hd hts
  rw [parse, hend, hsplit]
  simp only [literalList] at hlist ⊢
  simp only [Bool.false_eq_true, if_false, hlist]

/-- What a text is read as follows from its last character, its head and its argument list. -/
theorem parse_cases (key : Text) :
    (∃ beginning, key = beginning ++ ['*'] ∧ parse key = wildcard beginning) ∨
      (∃ behind, splitHead key = (none, behind) ∧ parse key = invalid (.head (!behind.isEmpty))) ∨
      (∃ s, splitHead key = (some s, []) ∧ parse key = plain s) ∨
      (∃ s behind, splitHead key = (some s, behind) ∧ behind ≠ [] ∧
        argumentList? behind = none ∧ parse key = invalid (.arguments s)) ∨
      ∃ s behind ms, splitHead key = (some s, behind) ∧ behind ≠ [] ∧
        argumentList? behind = some ms ∧ parse key = bracketed s ms := by
  rw [parse]
  split
  · next hstar =>
    obtain ⟨before, rfl⟩ := List.getLast?_eq_some_iff.1 (by simpa [Text.endsWith] using hstar)
    exact .inl ⟨before, rfl, by rw [List.dropLast_concat]⟩
  · refine .inr ?_
    split
    · next behind hsplit => exact .inl ⟨behind, hsplit, rfl⟩
    · next s hsplit => exact .inr (.inl ⟨s, hsplit, rfl⟩)
    · next s behind hbehind hsplit =>
      have hne : behind ≠ [] := hbehind
      refine .inr (.inr ?_)
      split
      · next hlist => exact .inl ⟨s, behind, hsplit, hne, hlist, rfl⟩
      · next ms hlist => exact .inr ⟨s, behind, ms, hsplit, hne, hlist, rfl⟩

theorem parse_eq_wildcard_iff {key beginning : Text} :
    parse key = wildcard beginning ↔ key = beginning ++ ['*'] := by
  refine ⟨fun h => ?_, fun h => h ▸ parse_concat_star beginning⟩
  obtain ⟨b, rfl, hkey⟩ | ⟨_, _, hkey⟩ | ⟨_, _, hkey⟩ | ⟨_, _, _, _, _, hkey⟩ |
    ⟨s, _, ms, _, _, _, hkey⟩ := parse_cases key
  · obtain rfl := RuleKey.wildcard.inj (hkey.symm.trans h)
    rfl
  · cases hkey.symm.trans h
  · cases hkey.symm.trans h
  · cases hkey.symm.trans h
  · have hbracketed := isBracketed_bracketed s ms
    rw [hkey.symm.trans h] at hbracketed
    cases hbracketed

theorem eq_text_of_parse_eq_plain {key : Text} {s : Shape} (h : parse key = plain s) :
    key = s.text := by
  obtain ⟨_, _, hkey⟩ | ⟨_, _, hkey⟩ | ⟨u, hsplit, hkey⟩ | ⟨_, _, _, _, _, hkey⟩ |
    ⟨u, _, ms, _, _, _, hkey⟩ := parse_cases key
  · cases hkey.symm.trans h
  · cases hkey.symm.trans h
  · obtain rfl := RuleKey.plain.inj (hkey.symm.trans h)
    simpa using eq_append_of_splitHead hsplit
  · cases hkey.symm.trans h
  · have hbracketed := isBracketed_bracketed u ms
    rw [hkey.symm.trans h] at hbracketed
    cases hbracketed

/-- Reading the text of a key gives the key back. -/
theorem parse_render? {k : RuleKey} (hk : k.Readable) {text : Text}
    (htext : k.render? = some text) : parse text = k := by
  cases k with
  | plain s =>
    obtain rfl : s.text = text := by simpa [render?] using htext
    exact parse_text hk.1 hk.2
  | exact s values =>
    obtain rfl : s.text ++ literalList '"' values = text := by simpa [render?] using htext
    rw [parse_text_append_literalList hk.1 rfl hk.2]
    exact bracketed_exact s values
  | pattern s sources =>
    obtain rfl : s.text ++ literalList '/' sources = text := by simpa [render?] using htext
    rw [parse_text_append_literalList hk.1 rfl hk.2.2]
    exact bracketed_pattern s hk.2.1
  | wildcard beginning =>
    obtain rfl : beginning ++ ['*'] = text := by simpa [render?] using htext
    exact parse_concat_star beginning
  | invalid fault => exact hk.elim

end RuleKey

end RoleGate
