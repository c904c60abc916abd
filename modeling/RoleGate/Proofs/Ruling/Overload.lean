import RoleGate.Invocation.Query
import RoleGate.Proofs.Key.Layout
import RoleGate.Proofs.Ruling.Choice
import RoleGate.Proofs.Text.Blank

/-!
# Rules for one overload

A key that is written for an overload is read without the blanks in its types, while an invocation
loses only the blanks at the ends of its types. So the rule is for the overload whose types are
written without blanks, and a type that has a blank inside asks for another one.

## Main definitions

* `Shape.compact` — a shape with no blanks in its types.
* `Key.IsSpacedType` — a text may stand for a parameter type in a key, with blanks in it.
* `RuleTable.ofShape` — the table with one rule, whose key is written for a shape.

## Main statements

* `Ruling.resolve_of_plain` — the outcome of a single plain rule.
* `Ruling.resolve_of_own_key` — which invocations a rule for an overload is for.
-/

namespace RoleGate

namespace Text

theorem withoutBlanks_join {sep : Char} (hsep : isBlank sep = false) (pieces : List Text) :
    withoutBlanks (join [sep] pieces) = join [sep] (pieces.map withoutBlanks) := by
  induction pieces with
  | nil => rfl
  | cons piece pieces ih =>
    cases pieces with
    | nil => simp
    | cons second others =>
      have hkept : withoutBlanks [sep] = [sep] := withoutBlanks_cons_of_not_blank hsep []
      rw [join_cons_cons, withoutBlanks_append, withoutBlanks_append, ih, hkept]
      simp only [List.map_cons, join_cons_cons]

theorem withoutBlanks_eq_self_iff {t : Text} :
    withoutBlanks t = t ↔ ∀ c ∈ t, isBlank c = false := by
  simp [withoutBlanks, List.filter_eq_self]

end Text

/-- The shape with no blanks in its types. -/
def Shape.compact (s : Shape) : Shape :=
  { s with signature := s.signature.map (·.map Text.withoutBlanks) }

namespace Key

/-- The text may stand for a parameter type in a key, with blanks in it. -/
def IsSpacedType (t : Text) : Prop :=
  Text.isBlankText t = false ∧ ∀ c ∈ t, c ≠ ',' ∧ c ≠ ')' ∧ c ≠ '"' ∧ c ≠ '/'

instance decidableIsSpacedType (t : Text) : Decidable (IsSpacedType t) :=
  @instDecidableAnd _ _ inferInstance (List.decidableBAll _ t)

theorem IsSpacedType.isType {t : Text} (h : IsSpacedType t) : IsType (Text.withoutBlanks t) := by
  obtain ⟨hblank, hchars⟩ := h
  refine ⟨fun hnil => ?_, fun c hc => ?_⟩
  · rw [Text.withoutBlanks_eq_nil_iff.1 hnil] at hblank
    cases hblank
  · obtain ⟨hc, hkept⟩ := List.mem_filter.1 hc
    exact ⟨by simpa using hkept, hchars c hc⟩

variable {method : Text} {types : List Text}

theorem wellFormed_compact (hne : method ≠ []) (hname : IsName method)
    (htypes : ∀ t ∈ types, IsSpacedType t) : (Shape.compact ⟨method, some types⟩).WellFormed := by
  refine ⟨hne, hname, fun t ht => ?_⟩
  obtain ⟨written, hwritten, rfl⟩ := List.mem_map.1 (by simpa [Shape.compact] using ht)
  exact (htypes written hwritten).isType

/-- The text of an overload without its blanks is the text of the overload without blanks in its
types. -/
theorem withoutBlanks_text (hname : IsName method) (types : List Text) :
    Text.withoutBlanks (Shape.text ⟨method, some types⟩) =
      (Shape.compact ⟨method, some types⟩).text := by
  have hmethod : Text.withoutBlanks method = method :=
    Text.withoutBlanks_eq_self_iff.2 fun c hc => (hname c hc).1
  have hjoin : Text.withoutBlanks (Text.join [','] types) =
      Text.join [','] (types.map Text.withoutBlanks) := Text.withoutBlanks_join rfl types
  simp only [Text.withoutBlanks] at hmethod hjoin
  have hopen : Text.isBlank '(' = false := rfl
  have hclose : Text.isBlank ')' = false := rfl
  simp [Shape.text, Shape.compact, Text.withoutBlanks, hmethod, hjoin, hopen, hclose]

/-- A key that is written for an overload has the text of the overload without blanks in its types
as normal form. -/
theorem normalize_text (hne : method ≠ []) (hname : IsName method)
    (htypes : ∀ t ∈ types, IsSpacedType t) :
    normalize (Shape.text ⟨method, some types⟩) = (Shape.compact ⟨method, some types⟩).text := by
  have hcompact := wellFormed_compact hne hname htypes
  rw [normalize_head (by rw [withoutBlanks_text hname]; exact hcompact.isChain_text),
    withoutBlanks_text hname]

end Key

/-- The table with one rule, whose key is written for a shape. -/
def RuleTable.ofShape (s : Shape) (v : Value) : RuleTable :=
  .ofList [(s.text, v)]

theorem RuleTable.rules_normalize_ofShape (s : Shape) (v : Value) :
    (RuleTable.ofShape s v).normalize.rules = [Rule.ofEntry (Key.normalize s.text, v)] :=
  rfl

namespace Ruling

variable {method : Text} {types : List Text} {s t : Shape} {r : Rule}

section

variable [Pattern.Machine]

/-! ## A single plain rule -/

theorem accepting_of_plain {kind : RuleKey.Kind} (hkind : kind = .exact ∨ kind = .regex)
    (hkey : r.key = .plain s) (t : Shape) (args : List Value) :
    accepting kind t args [r] = .ok [] := by
  have hne : (r.key.kind == kind) = false := by
    obtain rfl | rfl := hkind <;> cases hsignature : s.signature <;>
      simp [hkey, RuleKey.kind, RuleKey.Kind.ofShape, hsignature]
  simp [accepting, tries, hne, bind, Except.bind, pure, Except.pure]

/-- A plain rule decides for its own shape, whether or not the arguments are known. -/
theorem ofShape?_of_plain (hkey : r.key = .plain s) (t : Shape) (args : Option (List Value)) :
    ofShape? t args [r] = .ok (if s = t then some (ofRules (.ofShape s) [r]) else none) := by
  have hplain : isPlainFor t r = decide (s = t) := by
    rw [Bool.eq_iff_iff, isPlainFor_iff, hkey, RuleKey.plain.injEq, decide_eq_true_iff]
  cases args with
  | some args =>
    rw [ofShape?, concrete?, accepting_of_plain (.inl rfl) hkey, accepting_of_plain (.inr rfl) hkey]
    by_cases h : s = t <;> simp [bind, Except.bind, pure, Except.pure, plain?, hplain, h]
  | none =>
    have hbracketed : isBracketedFor t r = false := by
      simp [isBracketedFor, hkey, RuleKey.isBracketed]
    by_cases h : s = t <;> simp [ofShape?, advisory?_eq, hplain, hbracketed, h]

/-- A single plain rule is for the invocations of its own shape, and for those of all overloads if
it is for the method. -/
theorem resolve_of_plain (hkey : r.key = .plain s) (asked : Text) (args : Option (List Value))
    (signature : Option (List Text)) :
    resolve asked args signature [r] = .ok (
      if s = ⟨asked, signature.map (·.map Text.trim)⟩ ∨ s = ⟨asked, none⟩ then
        some (ofRules (.ofShape s) [r])
      else none) := by
  have hwildcard : wildcard? asked [r] = none :=
    wildcard?_eq_none_iff.2 (by simp [isWildcardFor, hkey])
  cases signature with
  | none =>
    rw [resolve]
    simp only [ofShape?_of_plain hkey, hwildcard, bind, Except.bind, pure, Except.pure]
    by_cases h : s = ⟨asked, none⟩ <;> simp [h]
  | some types =>
    rw [resolve]
    simp only [ofShape?_of_plain hkey, hwildcard, bind, Except.bind, pure, Except.pure]
    by_cases hoverload : s = ⟨asked, some (types.map Text.trim)⟩
    · simp [hoverload]
    · by_cases hmethod : s = ⟨asked, none⟩ <;> simp [hoverload, hmethod]

/-! ## A rule for an overload -/

omit [Pattern.Machine] in
theorem exists_rules_of_overload (hne : method ≠ []) (hname : Key.IsName method)
    (htypes : ∀ t ∈ types, Key.IsSpacedType t) (v : Value) :
    ∃ r, (RuleTable.ofShape ⟨method, some types⟩ v).normalize.rules = [r] ∧
      r.key = .plain (Shape.compact ⟨method, some types⟩) ∧
      ofRules (.ofShape (Shape.compact ⟨method, some types⟩)) [r] =
        ⟨Roles.ofValue v, .signature, [(Shape.compact ⟨method, some types⟩).text]⟩ := by
  refine ⟨_, RuleTable.rules_normalize_ofShape _ v, ?_, ?_⟩
  · rw [Key.normalize_text hne hname htypes]
    exact RuleKey.parse_text (Key.wellFormed_compact hne hname htypes).readable nofun
  · rw [Key.normalize_text hne hname htypes]
    simp [ofRules, Rule.ofEntry, RuleKey.Kind.ofShape, Shape.compact]

/-- A rule whose key is written for an overload is for the invocations of that method whose types,
without the blanks at their ends, are the types in the key without any blanks. So it is for the
overload that it is written for exactly if no type has a blank inside. -/
theorem resolve_of_own_key (hne : method ≠ []) (hname : Key.IsName method)
    (htypes : ∀ t ∈ types, Key.IsSpacedType t) (v : Value) :
    (∀ asked args signature,
      resolve asked args signature
          (RuleTable.ofShape ⟨method, some types⟩ v).normalize.rules =
        .ok (
          if asked = method ∧
              signature.map (·.map Text.trim) = some (types.map Text.withoutBlanks) then
            some ⟨Roles.ofValue v, .signature, [(Shape.compact ⟨method, some types⟩).text]⟩
          else none)) ∧
    ((∀ t ∈ types, ∀ c ∈ t, Text.isBlank c = false) → ∀ args,
      resolve method args (some types)
          (RuleTable.ofShape ⟨method, some types⟩ v).normalize.rules =
        .ok (some ⟨Roles.ofValue v, .signature, [Shape.text ⟨method, some types⟩]⟩)) ∧
    ((∀ t ∈ types, Text.trim t = t) → (∃ t ∈ types, ∃ c ∈ t, Text.isBlank c = true) → ∀ args,
      resolve method args (some types)
          (RuleTable.ofShape ⟨method, some types⟩ v).normalize.rules = .ok none) := by
  obtain ⟨r, hrules, hkey, hruling⟩ := exists_rules_of_overload hne hname htypes v
  have hgeneral : ∀ asked args signature,
      resolve asked args signature
          (RuleTable.ofShape ⟨method, some types⟩ v).normalize.rules =
        .ok (
          if asked = method ∧
              signature.map (·.map Text.trim) = some (types.map Text.withoutBlanks) then
            some ⟨Roles.ofValue v, .signature, [(Shape.compact ⟨method, some types⟩).text]⟩
          else none) := by
    intro asked args signature
    rw [hrules, resolve_of_plain hkey, hruling]
    refine congrArg Except.ok (if_congr ?_ rfl rfl)
    simp only [Shape.compact, Shape.mk.injEq, Option.map_some, reduceCtorEq, and_false, or_false]
    exact and_congr eq_comm eq_comm
  refine ⟨hgeneral, fun hsolid args => ?_, fun htrim hspaced args => ?_⟩
  · have hcompact : types.map Text.withoutBlanks = types :=
      (List.map_congr_left fun t ht => Text.withoutBlanks_eq_self_iff.2 (hsolid t ht)).trans
        (List.map_id types)
    have hends : types.map Text.trim = types :=
      (List.map_congr_left fun t ht => Text.trim_eq_self (hsolid t ht)).trans (List.map_id types)
    rw [hgeneral, if_pos ⟨rfl, by simp [hcompact, hends]⟩, Shape.compact, Option.map_some,
      hcompact]
  · obtain ⟨t, ht, c, hc, hblank⟩ := hspaced
    have hends : types.map Text.trim = types :=
      (List.map_congr_left htrim).trans (List.map_id types)
    have hne : types ≠ types.map Text.withoutBlanks := by
      intro heq
      have hsame : Text.withoutBlanks t = t :=
        List.map_inj_left.1 (heq.symm.trans (List.map_id types).symm) t ht
      have hsolid := Text.withoutBlanks_eq_self_iff.1 hsame c hc
      rw [hblank] at hsolid
      cases hsolid
    rw [hgeneral, if_neg]
    simpa [hends] using hne

end

/-- A rule for a type in brackets is for its overload. One for a union is for the union without
blanks. -/
theorem resolve_of_own_key_of_list :
    resolve "put" (some [.text "a"]) (some ["list[str]", "int"])
        (RuleTable.ofShape ⟨"put", some ["list[str]", "int"]⟩ (.text "stock")).normalize.rules =
      .ok (some ⟨["stock"], .signature, ["put(list[str],int)"]⟩) ∧
    resolve "put" none (some [" int|None"])
        (RuleTable.ofShape ⟨"put", some ["int | None"]⟩ (.text "stock")).normalize.rules =
      .ok (some ⟨["stock"], .signature, ["put(int|None)"]⟩) := by
  obtain ⟨-, hsolid, -⟩ := @resolve_of_own_key "put" ["list[str]", "int"] _
    (by decide) (by decide) (by decide) (.text "stock")
  obtain ⟨hgeneral, -, -⟩ := @resolve_of_own_key "put" ["int | None"] _
    (by decide) (by decide) (by decide) (.text "stock")
  have hcompact : ∀ t ∈ (["list[str]", "int"] : List Text), Text.withoutBlanks t = t := by decide
  exact ⟨hsolid (fun t ht => Text.withoutBlanks_eq_self_iff.1 (hcompact t ht)) _,
    (hgeneral "put" none (some [" int|None"])).trans (by decide +kernel)⟩

/-- A query for a union finds no rule under the key that is written for the union. -/
theorem not_resolve_own_key_of_union :
    (("put" : Text) ≠ [] ∧ Key.IsName "put" ∧ Text.endsWith '*' "put" = false) ∧
      (Text.trim "int | None" = "int | None" ∧ Key.IsSpacedType "int | None" ∧
        '(' ∉ ("int | None" : Text)) ∧
      Invocation.ofQuery "put(int | None)" = .ok ⟨"put", some ["int | None"], none⟩ ∧
      resolve "put" none (some ["int | None"])
          (RuleTable.ofShape ⟨"put", some ["int | None"]⟩ (.text "stock")).normalize.rules =
        .ok none := by
  exact ⟨by decide, by decide, rfl, by decide +kernel⟩

end Ruling

end RoleGate
