import Mathlib.Data.List.TakeWhile
import RoleGate.Proofs.Key.Canonical
import RoleGate.RuleTable

/-!
# Exact reading of rule keys

A text that is read as a valid key is the text of that key: no character is lost and none is read
twice. So different texts are never read as one key, and a table has no two rules for one.

## Main definitions

* `Matcher.quoted` — the literal that stands for a matcher.

## Main statements

* `Key.cutLiteral?_eq_some_iff` — where a literal ends.
* `RuleKey.parse_eq_iff` — which texts are read as a valid key.
* `RuleKey.parse_lossless` — what follows for the keys of tables.
-/

namespace RoleGate

open Key

namespace Matcher

/-- The delimiter of the literal that stands for a matcher. -/
def delimiter : Matcher → Char
  | exact _ => '"'
  | pattern _ => '/'

/-- The text between the delimiters. -/
def literal : Matcher → Text
  | exact value => value
  | pattern source => source

/-- The literal that stands for a matcher, with its delimiters. -/
def quoted (m : Matcher) : Text :=
  quote m.delimiter m.literal

end Matcher

namespace Key

variable {d : Char} {name types literal rest behind t : Text} {s u : Shape} {ms : List Matcher}

theorem ne_comma_of_isDelimiter (hd : isDelimiter d = true) : d ≠ ',' := by
  rintro rfl
  cases hd

theorem matcherOf_parts (hd : isDelimiter d = true) (t : Text) :
    (matcherOf d t).delimiter = d ∧ (matcherOf d t).literal = t := by
  simp only [isDelimiter, Bool.or_eq_true, beq_iff_eq] at hd
  obtain rfl | rfl := hd <;> exact ⟨rfl, rfl⟩

theorem quoted_matcherOf (hd : isDelimiter d = true) (t : Text) :
    (matcherOf d t).quoted = quote d t := by
  rw [Matcher.quoted, (matcherOf_parts hd t).1, (matcherOf_parts hd t).2]

/-! ## The head -/

theorem readable_of_overload? (hname : ∀ c ∈ name, endsName c = false) (hclose : ')' ∉ types)
    (h : overload? name types = some s) : s.Readable := by
  simp only [overload?, Option.ite_none_left_eq_some, Option.some.injEq, Bool.or_eq_true,
    not_or] at h
  obtain ⟨⟨hne, hany⟩, rfl⟩ := h
  refine ⟨by simpa using hne, hname, fun t ht => ?_⟩
  have hpiece : t ∈ Text.splitOn ',' types := by
    rw [Option.getD_some] at ht
    split at ht
    · cases ht
    · exact ht
  refine ⟨fun hnil => hany (List.any_eq_true.2 ⟨t, ht, by rw [hnil]; rfl⟩),
    Text.not_mem_of_mem_splitOn hpiece, fun hmem => hclose (Text.mem_of_mem_splitOn hpiece hmem)⟩

/-- The parts of a shape that is read can be told apart in its text. -/
theorem readable_of_splitHead (h : splitHead t = (some s, behind)) : s.Readable := by
  have hname : ∀ c ∈ t.takeWhile (!endsName ·), endsName c = false := fun c hc => by
    simpa using List.mem_takeWhile_imp hc
  simp only [splitHead] at h
  split at h
  · next rest _ =>
    cases hcut : Text.cutAt? ')' rest with
    | none => simp [hcut] at h
    | some parts =>
      obtain ⟨types, after⟩ := parts
      simp only [hcut, Prod.mk.injEq] at h
      exact readable_of_overload? hname (Text.cutAt?_eq_some_iff.1 hcut).2 h.1
  · simp only [Prod.mk.injEq, anyOverload?, Option.ite_none_left_eq_some, Option.some.injEq] at h
    obtain ⟨⟨hne, rfl⟩, -⟩ := h
    exact ⟨by simpa using hne, hname, by simp⟩

/-! ## The argument list -/

/-- A literal ends with the first delimiter that has a comma or nothing behind it. -/
theorem cutLiteral?_eq_some_iff (hd : d ≠ ',') :
    cutLiteral? d t = some (literal, behind) ↔
      t = literal ++ d :: behind ∧ Unbroken d literal ∧ ∀ c ∈ behind.head?, c = ',' := by
  refine ⟨fun h => ?_, fun ⟨ht, hliteral, hbehind⟩ => ht ▸ cutLiteral?_append hd hliteral hbehind⟩
  induction t generalizing literal with
  | nil => cases h
  | cons c rest ih =>
    unfold cutLiteral? at h
    split at h
    · next hends =>
      obtain ⟨rfl, rfl⟩ : [] = literal ∧ rest = behind := by simpa using h
      obtain ⟨rfl, hrest⟩ : c = d ∧ (rest = [] ∨ rest.head? = some ',') := by simpa using hends
      refine ⟨rfl, by simp [Unbroken], fun e he => ?_⟩
      obtain rfl | hrest := hrest
      · cases he
      · exact Option.some.inj (he.symm.trans hrest)
    · next hgoes =>
      obtain ⟨⟨tail, after⟩, hrest, heq⟩ := Option.map_eq_some_iff.1 h
      obtain ⟨rfl, rfl⟩ : c :: tail = literal ∧ after = behind := by simpa using heq
      obtain ⟨rfl, htail, hbehind⟩ := ih hrest
      refine ⟨rfl, fun hinfix => ?_, hbehind⟩
      obtain ⟨more, hmore⟩ | hinfix := List.infix_cons_iff.1 hinfix
      · obtain ⟨rfl, rfl⟩ : d = c ∧ ',' :: more = tail := by simpa using hmore
        simp at hgoes
      · exact htail hinfix

/-- A list of literals is the literals for its matchers with commas between them. -/
theorem of_literals? (h : literals? t = some ms) :
    t = Text.join [','] (ms.map Matcher.quoted) ∧ ∀ m ∈ ms, Unbroken m.delimiter m.literal := by
  fun_induction literals? t generalizing ms with
  | case1 =>
    cases h
    simp
  | case3 d rest hd text hcut =>
    cases h
    obtain ⟨rfl, htext, -⟩ := (cutLiteral?_eq_some_iff (ne_comma_of_isDelimiter hd)).1 hcut
    simp only [List.map_singleton, Text.join_singleton, List.mem_singleton, forall_eq,
      quoted_matcherOf hd, matcherOf_parts hd]
    exact ⟨rfl, htext⟩
  | case5 d rest hd text c more hmore hcut ih =>
    obtain ⟨others, hothers, rfl⟩ := Option.map_eq_some_iff.1 h
    obtain ⟨rfl, htext, hcomma⟩ := (cutLiteral?_eq_some_iff (ne_comma_of_isDelimiter hd)).1 hcut
    obtain rfl : c = ',' := hcomma c rfl
    obtain ⟨hjoin, hunbroken⟩ := ih hothers
    cases others with
    | nil => exact absurd hjoin hmore
    | cons second others =>
      refine ⟨?_, List.forall_mem_cons.2 ⟨?_, hunbroken⟩⟩
      · rw [List.map_cons, List.map_cons, Text.join_cons_cons, ← List.map_cons, ← hjoin,
          quoted_matcherOf hd]
        simp [quote]
      · rw [(matcherOf_parts hd text).1, (matcherOf_parts hd text).2]
        exact htext
  | case2 | case4 | case6 => cases h

theorem of_argumentList? (h : argumentList? t = some ms) :
    t = '[' :: (Text.join [','] (ms.map Matcher.quoted) ++ [']']) ∧
      ∀ m ∈ ms, Unbroken m.delimiter m.literal := by
  unfold argumentList? at h
  split at h
  · next rest =>
    split at h
    · next hend =>
      obtain ⟨inner, rfl⟩ := List.getLast?_eq_some_iff.1 (by simpa [Text.endsWith] using hend)
      rw [List.dropLast_concat] at h
      obtain ⟨rfl, hunbroken⟩ := of_literals? h
      exact ⟨rfl, hunbroken⟩
    · cases h
  · cases h

/-! ## Matchers -/

theorem exactValues?_eq_some_iff {values : List Text} :
    exactValues? ms = some values ↔ ms = values.map .exact := by
  refine ⟨fun h => ?_, fun h => h ▸ exactValues?_map values⟩
  fun_induction exactValues? ms generalizing values with
  | case1 =>
    cases h
    rfl
  | case2 v rest ih =>
    obtain ⟨others, hothers, rfl⟩ := Option.map_eq_some_iff.1 h
    rw [ih hothers, List.map_cons]
  | case3 => cases h

theorem patternSources?_eq_some_iff {sources : List Text} :
    patternSources? ms = some sources ↔ ms = sources.map .pattern := by
  refine ⟨fun h => ?_, fun h => h ▸ patternSources?_map sources⟩
  fun_induction patternSources? ms generalizing sources with
  | case1 =>
    cases h
    rfl
  | case2 p rest ih =>
    obtain ⟨others, hothers, rfl⟩ := Option.map_eq_some_iff.1 h
    rw [ih hothers, List.map_cons]
  | case3 => cases h

theorem bracketed_eq_exact_iff {values : List Text} :
    bracketed s ms = .exact u values ↔ s = u ∧ ms = values.map .exact := by
  rw [← exactValues?_eq_some_iff, bracketed]
  split <;> simp_all

theorem bracketed_eq_pattern_iff {sources : List Text} :
    bracketed s ms = .pattern u sources ↔ s = u ∧ sources ≠ [] ∧ ms = sources.map .pattern := by
  constructor
  · intro h
    unfold bracketed at h
    split at h
    · cases h
    · next hexact hpattern =>
      cases h
      have hms := patternSources?_eq_some_iff.1 hpattern
      refine ⟨rfl, fun hnil => ?_, hms⟩
      rw [hms, hnil] at hexact
      cases hexact
    · cases h
  · rintro ⟨rfl, hne, rfl⟩
    exact bracketed_pattern s hne

end Key

namespace RuleKey

variable {key other : Text} {k l : RuleKey} {s : Shape}

/-! ## Valid keys -/

/-- The literals of one kind of matcher make up an argument list. -/
theorem literalList_eq {ms : List Matcher} {d : Char} {literals : List Text}
    {matcher : Text → Matcher} (hms : ms = literals.map matcher)
    (hquoted : ∀ t, (matcher t).quoted = quote d t) :
    '[' :: (Text.join [','] (ms.map Matcher.quoted) ++ [']']) = literalList d literals := by
  have hmap : ms.map Matcher.quoted = literals.map (quote d) := by
    rw [hms, List.map_map]
    exact List.map_congr_left fun t _ => hquoted t
  rw [hmap]
  rfl

/-- A text that is read as a valid key is the text of that key, and its parts can be told apart. -/
theorem of_parse_eq (hk : k.kind ≠ .invalid) (h : parse key = k) :
    k.Readable ∧ k.render? = some key := by
  obtain ⟨beginning, rfl, hkey⟩ | ⟨_, _, hkey⟩ | ⟨s, hsplit, hkey⟩ | ⟨_, _, _, _, _, hkey⟩ |
    ⟨s, behind, ms, hsplit, _, hlist, hkey⟩ := parse_cases key
  · obtain rfl := hkey.symm.trans h
    exact ⟨trivial, rfl⟩
  · exact absurd (congrArg kind (h.symm.trans hkey)) hk
  · obtain rfl := hkey.symm.trans h
    obtain rfl := eq_text_of_parse_eq_plain hkey
    refine ⟨⟨readable_of_splitHead hsplit, fun hmethod => Bool.eq_false_iff.2 fun hstar => ?_⟩, rfl⟩
    -- A name with a star at its end would have been read as a wildcard.
    have htext : s.text = s.method := by rw [Shape.text, hmethod]
    obtain ⟨before, hbefore⟩ := List.getLast?_eq_some_iff.1 (by simpa [Text.endsWith] using hstar)
    rw [htext, hbefore, parse_concat_star] at hkey
    cases hkey
  · exact absurd (congrArg kind (h.symm.trans hkey)) hk
  · have hs := readable_of_splitHead hsplit
    obtain rfl := eq_append_of_splitHead hsplit
    obtain ⟨rfl, hunbroken⟩ := of_argumentList? hlist
    replace h := hkey.symm.trans h
    cases k with
    | exact u values =>
      obtain ⟨rfl, hms⟩ := bracketed_eq_exact_iff.1 h
      rw [literalList_eq hms fun _ => rfl]
      exact ⟨⟨hs, fun v hv => hunbroken (.exact v) (by simp [hms, hv])⟩, rfl⟩
    | pattern u sources =>
      obtain ⟨rfl, hne, hms⟩ := bracketed_eq_pattern_iff.1 h
      rw [literalList_eq hms fun _ => rfl]
      exact ⟨⟨hs, hne, fun p hp => hunbroken (.pattern p) (by simp [hms, hp])⟩, rfl⟩
    | invalid fault => exact absurd rfl hk
    | plain | wildcard =>
      have hbracketed := isBracketed_bracketed s ms
      rw [h] at hbracketed
      cases hbracketed

/-- The texts that are read as a valid key: its own text, if its parts can be told apart in it. -/
theorem parse_eq_iff (hk : k.kind ≠ .invalid) :
    parse key = k ↔ k.Readable ∧ k.render? = some key :=
  ⟨of_parse_eq hk, fun h => parse_render? h.1 h.2⟩

/-- A valid key is known by its kind, its shape and its matchers. -/
theorem eq_of_parts (hk : k.kind ≠ .invalid) (hkind : l.kind = k.kind) (hshape : l.shape = k.shape)
    (hmatchers : l.matchers? = k.matchers?) : l = k := by
  cases k with
  | plain s =>
    obtain ⟨u, rfl⟩ := exists_eq_plain_of_kind hkind
    exact congrArg plain hshape
  | exact s values =>
    obtain ⟨u, others, rfl⟩ := kind_eq_exact_iff.1 hkind
    have hvalues : others.map Matcher.exact = values.map .exact := Option.some.inj hmatchers
    rw [← exactValues?_eq_some_iff, exactValues?_map, Option.some.injEq] at hvalues
    exact congrArg₂ exact hshape hvalues
  | pattern s sources =>
    obtain ⟨u, others, rfl⟩ := kind_eq_regex_iff.1 hkind
    have hsources : others.map Matcher.pattern = sources.map .pattern := Option.some.inj hmatchers
    rw [← patternSources?_eq_some_iff, patternSources?_map, Option.some.injEq] at hsources
    exact congrArg₂ pattern hshape hsources
  | wildcard beginning =>
    obtain ⟨b, rfl⟩ := kind_eq_wildcard_iff.1 hkind
    exact congrArg (wildcard ∘ Shape.method) hshape
  | invalid fault => exact absurd rfl hk

/-! ## Keys of tables -/

/-- A rule of a table is read off its text. -/
theorem render?_of_mem_rules {t : RuleTable} {r : Rule} (hr : r ∈ t.rules)
    (hvalid : r.key.kind ≠ .invalid) : r.key.render? = some r.text := by
  obtain ⟨e, -, rfl⟩ := List.mem_map.1 hr
  exact (of_parse_eq hvalid rfl).2

/-- No two rules of a table are read as one valid key. -/
theorem length_filter_key_le_one (t : RuleTable) (hk : k.kind ≠ .invalid) :
    (t.rules.filter (·.key = k)).length ≤ 1 := by
  have htext : ∀ r ∈ t.rules.filter (·.key = k), k.render? = some r.text := by
    intro r hr
    obtain ⟨hmem, hkey⟩ := List.mem_filter.1 hr
    obtain rfl : r.key = k := of_decide_eq_true hkey
    exact render?_of_mem_rules hmem hk
  have hnodup : ((t.rules.filter (·.key = k)).map Rule.text).Nodup := by
    have hkeys : (t.rules.map Rule.text).Nodup := by
      rw [RuleTable.rules, List.map_map]
      exact t.nodup_keys
    exact hkeys.sublist (List.filter_sublist.map _)
  cases hrules : t.rules.filter (·.key = k) with
  | nil => simp
  | cons r others =>
    cases others with
    | nil => simp
    | cons q rest =>
      rw [hrules] at htext hnodup
      have hsame : r.text = q.text :=
        Option.some.inj ((htext r (by simp)).symm.trans (htext q (by simp)))
      simp [hsame] at hnodup

/-- Reading loses nothing. A text that is read as a valid key is the text of that key, whose parts
can be told apart in it. So it is the only text with that kind, shape and matchers, and a table has
one rule at most for a valid key: one plain rule for a shape, and one wildcard with a beginning. -/
theorem parse_lossless :
    (∀ key, (parse key).kind ≠ .invalid →
      (parse key).render? = some key ∧ (parse key).Readable) ∧
    (∀ key other, (parse key).kind ≠ .invalid → (parse other).kind = (parse key).kind →
      (parse other).shape = (parse key).shape → (parse other).matchers? = (parse key).matchers? →
      other = key) ∧
    ∀ (t : RuleTable) (k : RuleKey), k.kind ≠ .invalid →
      (t.rules.filter (·.key = k)).length ≤ 1 := by
  refine ⟨fun key hkey => ((parse_eq_iff hkey).1 rfl).symm, ?_,
    fun t k => length_filter_key_le_one t⟩
  intro key other hkey hkind hshape hmatchers
  have hsame : parse other = parse key := eq_of_parts hkey hkind hshape hmatchers
  have hother : (parse key).render? = some other := ((parse_eq_iff hkey).1 hsame).2
  rw [((parse_eq_iff hkey).1 rfl).2] at hother
  exact (Option.some.inj hother).symm

/-- The literals hold quotes, slashes, brackets and commas, and a type begins with a bracket. -/
theorem parse_lossless_of_brackets_in_types :
    let key : Text := "put([B,int)[\"a\"x,/\",\"]\"]"
    let other : Text := "put([B,int)[\"a\"x,/\" ,\"]\"]"
    let table : RuleTable := .ofList [(key, .text "desk"), (other, .text "stock"), (key, .absent)]
    (parse key).kind ≠ .invalid ∧
      (parse key).render? = some key ∧ (parse key).Readable ∧
      (parse other).matchers? ≠ (parse key).matchers? ∧
      (table.rules.filter (·.key = parse key)).length ≤ 1 := by
  intro key other table
  obtain ⟨hexact, hunique, htable⟩ := parse_lossless
  have hvalid : (parse key).kind ≠ .invalid := by decide +kernel
  obtain ⟨hrender, hreadable⟩ := hexact key hvalid
  refine ⟨hvalid, hrender, hreadable, fun hmatchers => ?_, htable table _ hvalid⟩
  have hsame : other = key :=
    hunique key other hvalid (by decide +kernel) (by decide +kernel) hmatchers
  exact absurd hsame (by decide)

end RuleKey

end RoleGate
