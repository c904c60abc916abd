import Mathlib.Data.List.Forall2
import RoleGate.Proofs.Invocation.Query

/-!
# The grammar of method queries

A query that is read has one of two forms: a name, or a name with a pair of parentheses at the end
of the query and types between them. Every text of these forms is read, and no other. The shape that
is asked for can be spelled out again, with blanks around its parts or without, and is then asked
for again.

## Main definitions

* `Invocation.AsksFor` — the grammar of queries without blanks at their ends.
* `Shape.Queryable` — a query may ask for the shape.
* `Invocation.SpelledOut` — a query spells a shape out, with blanks around its parts.

## Main statements

* `Invocation.queryShape_eq_ok_iff` — which texts ask for which shapes.
* `Invocation.ofQuery_reads_grammar` — what follows for queries.
-/

namespace RoleGate

open Text (Padded isBlank isBlankText splitOn join trim)

namespace Text

variable {sep : Char} {gap t : Text}

/-! ## Splitting a padded text -/

theorem forall₂_splitOn_append (hgap : sep ∉ gap) (t : Text) :
    List.Forall₂ (fun p q => q = p ∨ q = p ++ gap) (splitOn sep t) (splitOn sep (t ++ gap)) := by
  fun_induction splitOn sep t with
  | case1 =>
    rw [List.nil_append, splitOn_of_not_mem hgap]
    exact .cons (.inr rfl) .nil
  | case2 t ih =>
    rw [List.cons_append, splitOn, if_pos rfl]
    exact .cons (.inl rfl) ih
  | case3 c t hc h ih => exact absurd h (splitOn_ne_nil sep t)
  | case4 c t hc piece pieces h ih =>
    rw [List.cons_append, splitOn, if_neg hc]
    cases hsplit : splitOn sep (t ++ gap) with
    | nil => exact absurd hsplit (splitOn_ne_nil sep _)
    | cons q others =>
      rw [h, hsplit] at ih
      obtain ⟨hq, hothers⟩ := List.forall₂_cons.1 ih
      exact .cons (by grind) hothers

theorem map_trim_splitOn_append (hsep : isBlank sep = false) (hgap : isBlankText gap = true)
    (t : Text) : (splitOn sep (t ++ gap)).map trim = (splitOn sep t).map trim := by
  have hpieces := forall₂_splitOn_append (notMem_of_isBlankText hsep hgap) t
  rw [← List.forall₂_eq_eq_eq, List.forall₂_map_left_iff, List.forall₂_map_right_iff]
  refine hpieces.flip.imp fun q p hq => ?_
  obtain rfl | rfl := hq
  · rfl
  · exact trim_append_right hgap p

theorem map_trim_splitOn_prepend (hsep : isBlank sep = false) (hgap : isBlankText gap = true)
    (t : Text) : (splitOn sep (gap ++ t)).map trim = (splitOn sep t).map trim := by
  induction gap with
  | nil => rfl
  | cons c gap ih =>
    obtain ⟨hc, hgap⟩ := isBlankText_cons_iff.1 hgap
    have hne : c ≠ sep := by
      rintro rfl
      rw [hc] at hsep
      cases hsep
    rw [List.cons_append, splitOn, if_neg hne, ← ih hgap]
    cases hsplit : splitOn sep (gap ++ t) with
    | nil => exact absurd hsplit (splitOn_ne_nil sep _)
    | cons piece pieces =>
      have htrim : trim ([c] ++ piece) = trim piece :=
        trim_append_left (isBlankText_cons_iff.2 ⟨hc, rfl⟩) piece
      simpa using htrim

/-- Blanks at the ends do not count where the pieces of a text are trimmed. -/
theorem Padded.map_trim_splitOn {u : Text} (h : Padded t u) (hsep : isBlank sep = false) :
    (splitOn sep u).map trim = (splitOn sep t).map trim := by
  obtain ⟨front, back, hfront, hback, rfl⟩ := h
  rw [map_trim_splitOn_append hsep hback, map_trim_splitOn_prepend hsep hfront]

end Text

namespace Invocation

variable {query t params : Text} {types : List Text} {s : Shape} {i : Invocation}

/-! ## The grammar -/

/-- The text has no parentheses. -/
def Unparenthesized (t : Text) : Prop :=
  '(' ∉ t ∧ ')' ∉ t

/-- The text between the parentheses of a query names these types: none if it is blank, and
otherwise those between its commas, without the blanks around them. -/
inductive NamesTypes : List Text → Text → Prop where
  | none {params : Text} (hblank : isBlankText params = true) : NamesTypes [] params
  | some {pieces : List Text} (hne : pieces ≠ [])
      (hpieces : ∀ p ∈ pieces, ',' ∉ p ∧ isBlankText p = false) :
      NamesTypes (pieces.map trim) (join [','] pieces)

/-- A text without blanks at its ends asks for a method, or for one overload of it. -/
inductive AsksFor : Shape → Text → Prop where
  | method {name : Text} (hne : name ≠ []) (hname : Unparenthesized name) :
      AsksFor ⟨name, none⟩ name
  | overload {name params : Text} {types : List Text} (hblank : isBlankText name = false)
      (hname : Unparenthesized name) (hparams : Unparenthesized params)
      (htypes : NamesTypes types params) :
      AsksFor ⟨trim name, some types⟩ (name ++ '(' :: (params ++ [')']))

/-! ## Types -/

theorem queryTypes_eq_ok_iff : queryTypes params = .ok types ↔ NamesTypes types params := by
  have hpieces : (splitOn ',' (trim params)).map trim = (splitOn ',' params).map trim :=
    ((Text.padded_trim params).map_trim_splitOn rfl).symm
  constructor
  · intro h
    unfold queryTypes at h
    split at h
    · next hblank =>
      cases h
      exact .none hblank
    · rw [hpieces] at h
      dsimp only at h
      split at h
      · cases h
      · next hany =>
        cases h
        have hsome := NamesTypes.some (Text.splitOn_ne_nil ',' params) fun p hp => ?_
        · rwa [Text.join_splitOn] at hsome
        · refine ⟨Text.not_mem_of_mem_splitOn hp, Bool.eq_false_iff.2 fun hblank => hany ?_⟩
          refine List.any_eq_true.2 ⟨trim p, List.mem_map_of_mem hp, ?_⟩
          rw [Text.trim_eq_nil_iff.2 hblank]
          rfl
  · intro h
    cases h with
    | none hblank => rw [queryTypes, if_pos hblank]
    | @some pieces hne hsome =>
      have hsplit : splitOn ',' (join [','] pieces) = pieces :=
        Text.splitOn_join hne fun p hp => (hsome p hp).1
      have hfull : isBlankText (join [','] pieces) ≠ true := fun hblank => by
        obtain ⟨p, hp⟩ := List.exists_mem_of_ne_nil pieces hne
        obtain ⟨c, hc, hkept⟩ := Text.isBlankText_eq_false_iff.1 (hsome p hp).2
        exact Text.notMem_of_isBlankText hkept hblank (Text.mem_join_of_mem hp hc)
      have hany : (pieces.map trim).any List.isEmpty ≠ true := fun hempty => by
        obtain ⟨_, hmem, hnil⟩ := List.any_eq_true.1 hempty
        obtain ⟨p, hp, rfl⟩ := List.mem_map.1 hmem
        exact Text.trim_ne_nil_iff.2 (hsome p hp).2 (List.isEmpty_iff.1 hnil)
      rw [hsplit] at hpieces
      rw [queryTypes, if_neg hfull, hpieces]
      dsimp only
      rw [if_neg hany]

/-! ## Shapes -/

theorem count_eq_one_of_overload {name params : Text} (hname : Unparenthesized name)
    (hparams : Unparenthesized params) :
    (name ++ '(' :: (params ++ [')'])).count ')' = 1 := by
  simp [List.count_append, List.count_eq_zero.2 hname.2, List.count_eq_zero.2 hparams.2]

theorem AsksFor.queryShape_eq (h : AsksFor s t) : queryShape t = .ok s := by
  cases h with
  | method hne hname =>
    rw [queryShape, if_neg (by simpa using hne), Text.cutAt?_eq_none_iff.2 hname.1]
    simp [hname.2]
  | @overload name params types hblank hname hparams htypes =>
    have hcut : Text.cutAt? '(' (name ++ '(' :: (params ++ [')'])) = some (name, params ++ [')']) :=
      Text.cutAt?_eq_some_iff.2 ⟨rfl, hname.1⟩
    have htrim : trim name ≠ [] := Text.trim_ne_nil_iff.2 hblank
    have hends : Text.endsWith ')' (name ++ '(' :: (params ++ [')'])) = true := by
      rw [← List.cons_append, ← List.append_assoc, Text.endsWith_concat]
      rfl
    have hcount := count_eq_one_of_overload hname hparams
    have hopen : (params ++ [')']).contains '(' = false := by simpa using hparams.1
    rw [queryShape, if_neg (by simp), hcut]
    dsimp only
    rw [if_neg (by simpa using htrim), hends, hopen, hcount, List.dropLast_concat,
      queryTypes_eq_ok_iff.2 htypes]
    rfl

/-- The texts that ask for a shape are those of the grammar. -/
theorem queryShape_eq_ok_iff : queryShape t = .ok s ↔ AsksFor s t := by
  refine ⟨fun h => ?_, AsksFor.queryShape_eq⟩
  obtain ⟨hne, hopen, hclose, rfl⟩ |
    ⟨name, behind, types, hcut, hname, hends, hopen, hcount, htypes, rfl⟩ := queryShape_cases h
  · exact .method hne ⟨hopen, hclose⟩
  · obtain ⟨rfl, hbefore⟩ := Text.cutAt?_eq_some_iff.1 hcut
    obtain rfl | ⟨params, last, rfl⟩ := List.eq_nil_or_concat behind
    · rw [Text.endsWith_concat] at hends
      cases hends
    · rw [List.concat_eq_append] at hends hopen hcount htypes ⊢
      rw [← List.cons_append, ← List.append_assoc, Text.endsWith_concat] at hends
      obtain rfl : last = ')' := by simpa using hends
      rw [List.dropLast_concat] at htypes
      have htotal : name.count ')' + (params.count ')' + 1) = 1 := by
        simpa [List.count_append] using hcount
      have hnone : name.count ')' = 0 ∧ params.count ')' = 0 := by omega
      exact .overload (Text.trim_ne_nil_iff.1 hname) ⟨hbefore, List.count_eq_zero.1 hnone.1⟩
        ⟨fun hmem => hopen (by simp [hmem]), List.count_eq_zero.1 hnone.2⟩
        (queryTypes_eq_ok_iff.1 htypes)

/-- A query asks for the shape that it has without the blanks at its ends. -/
theorem ofQuery_eq_ok_iff :
    ofQuery query = .ok i ↔ i.args = none ∧ AsksFor i.shape (trim query) := by
  rw [← queryShape_eq_ok_iff]
  constructor
  · intro h
    obtain ⟨s, hs, rfl⟩ := exists_queryShape_of_ofQuery h
    exact ⟨rfl, hs⟩
  · rintro ⟨hargs, hs⟩
    obtain ⟨method, signature, args⟩ := i
    obtain rfl : args = none := hargs
    rw [ofQuery, hs]
    rfl

/-- A query that is not read is reported with its fault. -/
theorem exists_error_of_ofQuery_ne_ok (h : ∀ i, ofQuery query ≠ .ok i) :
    ∃ fault, ofQuery query = .error (.query query fault) := by
  unfold ofQuery at h ⊢
  split at h
  · next s hs => exact absurd rfl (h _)
  · next fault hs => exact ⟨fault, rfl⟩

/-! ## Shapes that can be spelled out -/

/-- A query may ask for the type: it has no blanks at its ends, and it has no parentheses and
commas, with which types end. -/
structure IsQueryType (t : Text) : Prop where
  ne_nil : t ≠ []
  trim_eq : trim t = t
  unparenthesized : Unparenthesized t
  comma_notMem : ',' ∉ t

end Invocation

open Invocation in
/-- A query may ask for the shape: its method has a name without blanks at its ends and without
parentheses, and it may ask for its types. -/
structure Shape.Queryable (s : Shape) : Prop where
  ne_nil : s.method ≠ []
  trim_eq : trim s.method = s.method
  unparenthesized : Unparenthesized s.method
  types : ∀ t ∈ s.signature.getD [], IsQueryType t

namespace Invocation

variable {query t params : Text} {types spelled : List Text} {s : Shape} {i : Invocation}

/-- The text spells types out between commas, with blanks around each. -/
inductive TypesSpelledOut : List Text → Text → Prop where
  | none {gap : Text} (hgap : isBlankText gap = true) : TypesSpelledOut [] gap
  | some {types spelled : List Text} (hne : types ≠ [])
      (htypes : List.Forall₂ Padded types spelled) : TypesSpelledOut types (join [','] spelled)

/-- The query spells the shape out, with blanks at its ends, behind the name and around each
type. -/
inductive SpelledOut : Shape → Text → Prop where
  | method {name query : Text} (hquery : Padded name query) : SpelledOut ⟨name, none⟩ query
  | overload {name gap params query : Text} {types : List Text} (hgap : isBlankText gap = true)
      (htypes : TypesSpelledOut types params)
      (hquery : Padded (name ++ gap ++ '(' :: (params ++ [')'])) query) :
      SpelledOut ⟨name, some types⟩ query

theorem Unparenthesized.of_isBlankText (h : isBlankText t = true) : Unparenthesized t :=
  ⟨Text.notMem_of_isBlankText rfl h, Text.notMem_of_isBlankText rfl h⟩

theorem Unparenthesized.append {u : Text} (ht : Unparenthesized t) (hu : Unparenthesized u) :
    Unparenthesized (t ++ u) :=
  ⟨by simp [ht.1, hu.1], by simp [ht.2, hu.2]⟩

theorem Unparenthesized.of_subset {u : Text} (hu : Unparenthesized u) (h : ∀ c ∈ t, c ∈ u) :
    Unparenthesized t :=
  ⟨fun hc => hu.1 (h _ hc), fun hc => hu.2 (h _ hc)⟩

theorem Unparenthesized.padded {u : Text} (ht : Unparenthesized t) (h : Padded t u) :
    Unparenthesized u :=
  ⟨h.notMem rfl ht.1, h.notMem rfl ht.2⟩

theorem Unparenthesized.join {pieces : List Text} (h : ∀ p ∈ pieces, Unparenthesized p) :
    Unparenthesized (Text.join [','] pieces) :=
  ⟨Text.notMem_join (by decide) fun p hp => (h p hp).1,
    Text.notMem_join (by decide) fun p hp => (h p hp).2⟩

/-! ## From spelling out to asking -/

theorem map_trim_of_padded (h : List.Forall₂ Padded types spelled)
    (htrim : ∀ t ∈ types, trim t = t) : spelled.map trim = types := by
  induction h with
  | nil => rfl
  | cons hpadded _ ih =>
    obtain ⟨hfirst, hothers⟩ := List.forall_mem_cons.1 htrim
    rw [List.map_cons, hpadded.trim_eq, hfirst, ih hothers]

theorem exists_padded_of_mem {p : Text} (h : List.Forall₂ Padded types spelled)
    (hp : p ∈ spelled) : ∃ t ∈ types, Padded t p := by
  induction h with
  | nil => cases hp
  | cons hpadded _ ih =>
    obtain rfl | hp := List.mem_cons.1 hp
    · exact ⟨_, List.mem_cons_self, hpadded⟩
    · obtain ⟨t, ht, hpadded⟩ := ih hp
      exact ⟨t, List.mem_cons_of_mem _ ht, hpadded⟩

theorem TypesSpelledOut.namesTypes (h : TypesSpelledOut types params)
    (htypes : ∀ t ∈ types, IsQueryType t) : NamesTypes types params ∧ Unparenthesized params := by
  cases h with
  | none hgap => exact ⟨.none hgap, .of_isBlankText hgap⟩
  | @some _ spelled hne hspelled =>
    have htrim : spelled.map trim = types :=
      map_trim_of_padded hspelled fun t ht => (htypes t ht).trim_eq
    have hspelledne : spelled ≠ [] := by
      rintro rfl
      exact hne htrim.symm
    have hpieces : ∀ p ∈ spelled, ',' ∉ p ∧ isBlankText p = false := fun p hp => by
      obtain ⟨t, ht, hpadded⟩ := exists_padded_of_mem hspelled hp
      have htrim : trim p = t := hpadded.trim_eq.trans (htypes t ht).trim_eq
      exact ⟨hpadded.notMem rfl (htypes t ht).comma_notMem,
        Text.trim_ne_nil_iff.1 (htrim ▸ (htypes t ht).ne_nil)⟩
    refine ⟨htrim ▸ .some hspelledne hpieces, .join fun p hp => ?_⟩
    obtain ⟨t, ht, hpadded⟩ := exists_padded_of_mem hspelled hp
    exact (htypes t ht).unparenthesized.padded hpadded

/-- A query that spells a shape out asks for it. -/
theorem SpelledOut.asksFor (h : SpelledOut s query) (hs : s.Queryable) :
    AsksFor s (trim query) := by
  cases h with
  | method hquery =>
    rw [hquery.trim_eq, hs.trim_eq]
    exact .method hs.ne_nil hs.unparenthesized
  | @overload name gap params _ types hgap htypes hquery =>
    obtain ⟨hnames, hparams⟩ := htypes.namesTypes hs.types
    have hne : name ≠ [] := hs.ne_nil
    have htrim : trim name = name := hs.trim_eq
    have hname : Unparenthesized name := hs.unparenthesized
    have hgapped : trim (name ++ gap) = name := (Text.trim_append_right hgap name).trans htrim
    have hfull : isBlankText (name ++ gap) = false :=
      Text.trim_ne_nil_iff.1 (by rwa [hgapped])
    have hwhole : trim (name ++ gap ++ '(' :: (params ++ [')'])) =
        name ++ gap ++ '(' :: (params ++ [')']) := by
      refine Text.trim_of_ends (fun c hc => ?_) (fun c hc => ?_)
      · rw [List.append_assoc, List.head?_append_of_ne_nil _ hne, ← htrim] at hc
        exact Text.isBlank_of_mem_head?_trim hc
      · rw [← List.cons_append, ← List.append_assoc, List.getLast?_concat] at hc
        obtain rfl := Option.some.inj hc
        rfl
    have hasks := AsksFor.overload hfull (hname.append (.of_isBlankText hgap)) hparams hnames
    rw [hgapped] at hasks
    rwa [hquery.trim_eq, hwhole]

theorem NamesTypes.isQueryType (h : NamesTypes types params) (hparams : Unparenthesized params) :
    ∀ t ∈ types, IsQueryType t := by
  cases h with
  | none hblank => simp
  | @some pieces hne hpieces =>
    intro t ht
    obtain ⟨p, hp, rfl⟩ := List.mem_map.1 ht
    have hmem : ∀ c ∈ trim p, c ∈ p := fun c hc => (Text.padded_trim p).mem hc
    exact
      { ne_nil := Text.trim_ne_nil_iff.2 (hpieces p hp).2
        trim_eq := Text.trim_trim p
        unparenthesized := hparams.of_subset fun c hc => Text.mem_join_of_mem hp (hmem c hc)
        comma_notMem := fun hc => (hpieces p hp).1 (hmem _ hc) }

theorem AsksFor.queryable (h : AsksFor s t) (htrim : trim t = t) : s.Queryable := by
  cases h with
  | method hne hname => exact ⟨hne, htrim, hname, by simp⟩
  | @overload name params types hblank hname hparams htypes =>
    exact ⟨Text.trim_ne_nil_iff.2 hblank, Text.trim_trim name,
      hname.of_subset fun c hc => (Text.padded_trim name).mem hc, htypes.isQueryType hparams⟩

/-! ## From asking to spelling out -/

theorem NamesTypes.spelledOut (h : NamesTypes types params) : TypesSpelledOut types params := by
  cases h with
  | none hblank => exact .none hblank
  | @some pieces hne hpieces =>
    refine .some (by simpa using hne) ?_
    rw [List.forall₂_map_left_iff, List.forall₂_same]
    exact fun p _ => Text.padded_trim p

/-- A query spells out the shape that it asks for. -/
theorem AsksFor.spelledOut (h : AsksFor s t) (hquery : Padded t query) : SpelledOut s query := by
  cases h with
  | method hne hname => exact .method hquery
  | @overload name params types hblank hname hparams htypes =>
    obtain ⟨front, gap, hfront, hgap, hpadded⟩ := Text.padded_trim name
    obtain ⟨start, back, hstart, hback, rfl⟩ := hquery
    refine .overload hgap htypes.spelledOut ⟨start ++ front, back, ?_, hback, ?_⟩
    · rw [Text.isBlankText_append, hstart, hfront]
      rfl
    · conv_lhs => rw [hpadded]
      simp

/-- The text of a shape spells it out. -/
theorem spelledOut_text (s : Shape) : SpelledOut s s.text := by
  obtain ⟨name, _ | types⟩ := s
  · exact .method (.refl name)
  · have htypes : TypesSpelledOut types (join [','] types) := by
      cases types with
      | nil => exact .none rfl
      | cons first others => exact .some (by simp) (List.forall₂_same.2 fun t _ => .refl t)
    have hblank : isBlankText [] = true := rfl
    refine .overload hblank htypes ?_
    rw [List.append_nil]
    exact .refl _

/-! ## Queries -/

/-- What is asked for is spelled out by the query, and any shape that can be is asked for. -/
theorem ofQuery_eq_ok_iff_spelledOut :
    ofQuery query = .ok i ↔ i.args = none ∧ i.shape.Queryable ∧ SpelledOut i.shape query := by
  rw [ofQuery_eq_ok_iff]
  refine and_congr_right fun _ => ⟨fun h => ?_, fun ⟨hs, hspelled⟩ => hspelled.asksFor hs⟩
  exact ⟨h.queryable (Text.trim_trim query), h.spelledOut (Text.padded_trim query)⟩

/-- A shape that can be spelled out is asked for by its text. -/
theorem ofQuery_text (hs : s.Queryable) : ofQuery s.text = .ok ⟨s.method, s.signature, none⟩ :=
  ofQuery_eq_ok_iff_spelledOut.2 ⟨rfl, hs, spelledOut_text s⟩

/-- A query is read exactly if it is of the grammar, and is reported otherwise. What it asks for has
a name and no arguments, and is asked for again by its own text. Any shape that can be spelled out
is asked for by its text and by the queries that spell it out, and by no others. -/
theorem ofQuery_reads_grammar (query : Text) :
    (∀ i, ofQuery query = .ok i ↔ i.args = none ∧ AsksFor i.shape (trim query)) ∧
      ((¬ ∃ s, AsksFor s (trim query)) →
        ∃ fault, ofQuery query = .error (.query query fault)) ∧
      (∀ i, ofQuery query = .ok i →
        i.method ≠ [] ∧ trim i.method = i.method ∧ ofQuery i.shape.text = .ok i) ∧
      ∀ s : Shape, s.Queryable →
        (SpelledOut s query ↔ ofQuery query = .ok ⟨s.method, s.signature, none⟩) ∧
          ofQuery s.text = .ok ⟨s.method, s.signature, none⟩ := by
  refine ⟨fun i => ofQuery_eq_ok_iff, fun hnone => ?_, fun i hi => ?_, fun s hs => ⟨?_, ?_⟩⟩
  · exact exists_error_of_ofQuery_ne_ok fun i hi => hnone ⟨_, (ofQuery_eq_ok_iff.1 hi).2⟩
  · obtain ⟨hargs, hs, -⟩ := ofQuery_eq_ok_iff_spelledOut.1 hi
    exact ⟨hs.ne_nil, hs.trim_eq,
      ofQuery_eq_ok_iff_spelledOut.2 ⟨hargs, hs, spelledOut_text i.shape⟩⟩
  · rw [ofQuery_eq_ok_iff_spelledOut]
    exact ⟨fun hspelled => ⟨rfl, hs, hspelled⟩, fun h => h.2.2⟩
  · exact ofQuery_text hs

/-- A name may have a blank inside, and a type may be an array. A type may not be missing. -/
theorem ofQuery_reads_grammar_of_array :
    let s : Shape := ⟨"put it", some ["[B", "int"]⟩
    let query : Text := "\tput it ( [B ,int) "
    (s.Queryable ∧ SpelledOut s query ∧ ofQuery query = .ok ⟨"put it", some ["[B", "int"], none⟩ ∧
        ofQuery "put it([B,int)" = .ok ⟨"put it", some ["[B", "int"], none⟩) ∧
      (¬ ∃ s, AsksFor s (trim "put([B,)")) ∧
        ∃ fault, ofQuery "put([B,)" = .error (.query "put([B,)" fault) := by
  intro s query
  have hs : s.Queryable :=
    { ne_nil := by decide
      trim_eq := by decide
      unparenthesized := ⟨by decide, by decide⟩
      types := List.forall_mem_cons.2
        ⟨⟨by decide, by decide, ⟨by decide, by decide⟩, by decide⟩, List.forall_mem_singleton.2
          ⟨by decide, by decide, ⟨by decide, by decide⟩, by decide⟩⟩ }
  have htypes : TypesSpelledOut ["[B", "int"] (join [','] [" [B ", "int"]) :=
    .some (by decide) (.cons ⟨" ", " ", rfl, rfl, rfl⟩ (.cons (.refl _) .nil))
  have hblank : isBlankText " " = true := rfl
  have hspelled : SpelledOut s query := .overload hblank htypes ⟨"\t", " ", rfl, rfl, rfl⟩
  have hnone : ¬ ∃ s, AsksFor s (trim "put([B,)") := by
    rintro ⟨s, h⟩
    cases h.queryShape_eq
  obtain ⟨-, -, hagain, hasked⟩ := ofQuery_reads_grammar query
  obtain ⟨-, herror, -⟩ := ofQuery_reads_grammar "put([B,)"
  have hquery := (hasked s hs).1.1 hspelled
  exact ⟨⟨hs, hspelled, hquery, (hagain _ hquery).2.2⟩, hnone, herror hnone⟩

end Invocation

end RoleGate
