import RoleGate.Resource

/-!
# Object names

An object name with one more key property has one more segment, at its end. So its table ids are
those of the name without the property, behind the one that ends with the new value.

## Main definitions

* `Resolver.IsPropertyKey` — what may stand before `=` in a key property.
* `Resolver.withProperty` — an object name with one more key property.

## Main statements

* `Resolver.nameSegments_withProperty` — one more property, one more segment.
* `Resolver.candidates_withProperty` — one more property, one more table id.
-/

namespace RoleGate

namespace Text

variable {sep : Char} {t before behind : Text}

theorem splitOn_append (t rest : Text) :
    splitOn sep (t ++ sep :: rest) = splitOn sep t ++ splitOn sep rest := by
  fun_induction splitOn sep t with
  | case1 => simp [splitOn]
  | case2 t ih => rw [List.cons_append, splitOn, if_pos rfl, ih, List.cons_append]
  | case3 c t hc h ih => exact absurd h (splitOn_ne_nil sep t)
  | case4 c t hc piece pieces h ih =>
    rw [List.cons_append, splitOn, if_neg hc, ih, h, List.cons_append]
    rfl

/-- The place of the first separator does not depend on what follows. -/
theorem cutAt?_append (h : cutAt? sep t = some (before, behind)) (rest : Text) :
    cutAt? sep (t ++ rest) = some (before, behind ++ rest) := by
  obtain ⟨rfl, hsep⟩ := cutAt?_eq_some_iff.1 h
  exact cutAt?_eq_some_iff.2 ⟨by simp, hsep⟩

theorem join_concat {pieces : List Text} (hne : pieces ≠ []) (last : Text) :
    join [sep] (pieces ++ [last]) = join [sep] pieces ++ sep :: last := by
  induction pieces with
  | nil => exact absurd rfl hne
  | cons piece pieces ih =>
    cases pieces with
    | nil => simp
    | cons second others =>
      rw [join_cons_cons, List.append_assoc, List.append_assoc, ← ih (by simp)]
      simp

end Text

namespace Resolver

variable {beginning name key value : Text} {segments ids values : List Text}

/-! ## Key properties -/

/-- The text may be the key of a property: it is not blank and ends where the property says. -/
structure IsPropertyKey (key : Text) : Prop where
  not_blank : Text.isBlankText key = false
  equals_notMem : '=' ∉ key
  comma_notMem : ',' ∉ key

/-- The name with one more key property. -/
def withProperty (name key value : Text) : Text :=
  name ++ ',' :: (key ++ '=' :: value)

theorem propertyValue_property (hkey : IsPropertyKey key) (value : Text) :
    propertyValue (key ++ '=' :: value) = .ok (Text.trim value) := by
  have hcut : Text.cutAt? '=' (key ++ '=' :: value) = some (key, value) :=
    Text.cutAt?_eq_some_iff.2 ⟨rfl, hkey.equals_notMem⟩
  simp [propertyValue, hcut, hkey.not_blank]

theorem propertyValues_concat {pieces : List Text} {piece value : Text}
    (hpieces : propertyValues pieces = .ok values) (hpiece : propertyValue piece = .ok value) :
    propertyValues (pieces ++ [piece]) = .ok (values ++ [value]) := by
  induction pieces generalizing values with
  | nil =>
    cases hpieces
    rw [List.nil_append, propertyValues, hpiece]
    rfl
  | cons first pieces ih =>
    rw [propertyValues] at hpieces
    cases hfirst : propertyValue first with
    | error fault => simp [hfirst, bind, Except.bind] at hpieces
    | ok found =>
      cases hrest : propertyValues pieces with
      | error fault => simp [hfirst, hrest, bind, Except.bind] at hpieces
      | ok others =>
        simp only [hfirst, hrest, bind, Except.bind, pure, Except.pure, Except.ok.injEq] at hpieces
        subst hpieces
        rw [List.cons_append, propertyValues, hfirst, ih hrest]
        rfl

/-! ## Segments -/

/-- What the segments of a name are read from. -/
theorem nameSegments_eq_ok_iff :
    nameSegments name = .ok segments ↔
      ∃ domain properties values, Text.cutAt? ':' name = some (domain, properties) ∧
        Text.isBlankText domain = false ∧ Text.isBlankText properties = false ∧
        propertyValues (Text.splitOn ',' properties) = .ok values ∧
        segments = Text.trim domain :: values := by
  constructor
  · intro h
    rw [nameSegments] at h
    split at h
    · cases h
    · next domain properties hcut =>
      split at h
      · cases h
      · next hdomain =>
        split at h
        · cases h
        · next hproperties =>
          cases hvalues : propertyValues (Text.splitOn ',' properties) with
          | error fault =>
            rw [hvalues] at h
            cases h
          | ok values =>
            rw [hvalues] at h
            cases h
            exact ⟨domain, properties, values, hcut, Bool.eq_false_iff.2 hdomain,
              Bool.eq_false_iff.2 hproperties, hvalues, rfl⟩
  · rintro ⟨domain, properties, values, hcut, hdomain, hproperties, hvalues, rfl⟩
    simp [nameSegments, hcut, hdomain, hproperties, hvalues, Except.map]

theorem nameSegments_withProperty (hname : nameSegments name = .ok segments)
    (hkey : IsPropertyKey key) (hvalue : ',' ∉ value) :
    nameSegments (withProperty name key value) = .ok (segments ++ [Text.trim value]) := by
  obtain ⟨domain, properties, values, hcut, hdomain, hproperties, hvalues, rfl⟩ :=
    nameSegments_eq_ok_iff.1 hname
  have hpiece : ',' ∉ key ++ '=' :: value := by
    simp [hkey.comma_notMem, hvalue]
  have hpieces : Text.splitOn ',' (properties ++ ',' :: (key ++ '=' :: value)) =
      Text.splitOn ',' properties ++ [key ++ '=' :: value] := by
    rw [Text.splitOn_append, Text.splitOn_of_not_mem hpiece]
  refine nameSegments_eq_ok_iff.2 ⟨domain, properties ++ ',' :: (key ++ '=' :: value),
    values ++ [Text.trim value], Text.cutAt?_append hcut _, hdomain, ?_, ?_, rfl⟩
  · rw [Text.isBlankText, List.all_append, ← Text.isBlankText, hproperties, Bool.false_and]
  · rw [hpieces]
    exact propertyValues_concat hvalues (propertyValue_property hkey value)

theorem ne_nil_of_nameSegments (h : nameSegments name = .ok segments) : segments ≠ [] := by
  obtain ⟨domain, properties, values, -, -, -, -, rfl⟩ := nameSegments_eq_ok_iff.1 h
  simp

/-! ## Table ids -/

/-- The dotted text of some segments, as a table id. -/
def idOf (beginning : Text) (segments : List Text) : Text :=
  under beginning (Text.join ['.'] segments)

theorem idOf_concat (hne : segments ≠ []) (last : Text) :
    idOf beginning (segments ++ [last]) = idOf beginning segments ++ '.' :: last := by
  rw [idOf, Text.join_concat hne, idOf, under, under]
  split <;> simp

theorem beginnings_concat (segments : List Text) (last : Text) :
    beginnings (segments ++ [last]) = (segments ++ [last]) :: beginnings segments := by
  rw [beginnings, List.length_append, List.length_singleton, List.range_succ_eq_map,
    List.map_cons, List.map_map]
  refine congr (congrArg List.cons ?_) (List.map_congr_left fun i _ => ?_)
  · exact List.take_of_length_le (by simp)
  · rw [Function.comp_apply, Nat.succ_eq_add_one, Nat.add_sub_add_right]
    exact List.take_append_of_le_length (Nat.sub_le _ _)

/-- All segments are the longest beginning. -/
theorem exists_beginnings_eq_cons (hne : segments ≠ []) :
    ∃ shorter, beginnings segments = segments :: shorter := by
  obtain ⟨firsts, last, rfl⟩ : ∃ firsts last, segments = firsts ++ [last] :=
    ⟨_, _, (List.dropLast_concat_getLast hne).symm⟩
  exact ⟨_, beginnings_concat firsts last⟩

/-- The table ids of a name, from all of its segments down to the domain alone. -/
theorem candidates_management_eq_ok_iff :
    (management beginning).candidates name = .ok ids ↔
      ∃ segments, nameSegments name = .ok segments ∧
        ids = (beginnings segments).map (idOf beginning) := by
  show (Resolver.segments name >>= _) = _ ↔ _
  rw [Resolver.segments]
  cases nameSegments name with
  | error fault =>
    exact ⟨fun h => (nomatch h), fun ⟨_, h, _⟩ => (nomatch h)⟩
  | ok segments =>
    constructor
    · intro h
      exact ⟨segments, rfl, (Except.ok.inj h).symm⟩
    · rintro ⟨_, ⟨⟩, rfl⟩
      rfl

/-- One more key property makes one more table id. It stands first and extends the one that stood
first before. -/
theorem candidates_withProperty (hname : (management beginning).candidates name = .ok ids)
    (hkey : IsPropertyKey key) (hvalue : ',' ∉ value) :
    ∃ id rest, ids = id :: rest ∧
      (management beginning).candidates (withProperty name key value) =
        .ok ((id ++ '.' :: Text.trim value) :: ids) := by
  obtain ⟨segments, hsegments, rfl⟩ := candidates_management_eq_ok_iff.1 hname
  have hne : segments ≠ [] := ne_nil_of_nameSegments hsegments
  obtain ⟨shorter, hshorter⟩ := exists_beginnings_eq_cons hne
  refine ⟨idOf beginning segments, shorter.map (idOf beginning), by rw [hshorter, List.map_cons],
    candidates_management_eq_ok_iff.2 ⟨_, nameSegments_withProperty hsegments hkey hvalue, ?_⟩⟩
  rw [beginnings_concat, List.map_cons, idOf_concat hne]

end Resolver

end RoleGate
