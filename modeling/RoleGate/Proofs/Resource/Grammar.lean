import Mathlib.Data.List.Forall2
import Mathlib.Data.List.Induction
import RoleGate.Proofs.Resource.Name
import RoleGate.Proofs.Text.Blank

/-!
# The grammar of object names

An object name is a domain and one key property or more. The domain ends at the first colon, a key
at the first equals sign of its property and a value at the next comma. Every text of this form has
table ids, and no other text has. The ids follow from the domain and the values: that of the domain
is the last one, and each value makes the next one to the front. Keys, and blanks around the parts,
do not matter.

## Main definitions

* `Resolver.ObjectName`, `Resolver.ObjectName.WellFormed` — the parts of an object name.
* `Resolver.Malformed` — what keeps a text from being an object name.
* `Resolver.Extensions` — an id and those that values make of it.
* `Resolver.ObjectName.Respelled` — names that differ in keys and in blanks only.

## Main statements

* `Resolver.malformed_iff` — a text is malformed or has the parts of an object name.
* `Resolver.extensions_beginnings` — the table ids of segments.
* `Resolver.candidates_read_grammar` — which texts have table ids, and which.
-/

namespace RoleGate

open Text (Padded isBlankText splitOn join trim)

namespace Resolver

/-! ## Object names by their parts -/

/-- A key property. -/
structure Property where
  key : Text
  value : Text

namespace Property

/-- The text of a key property. -/
def text (p : Property) : Text :=
  p.key ++ '=' :: p.value

/-- The key is none that ends too early, and the value does not reach into the next property. -/
structure WellFormed (p : Property) : Prop where
  key : IsPropertyKey p.key
  comma_notMem : ',' ∉ p.value

/-- The property with another key or with other blanks around its key and its value. -/
structure Respelled (p q : Property) : Prop where
  key : Padded p.key q.key ∨ IsPropertyKey q.key
  value : trim q.value = trim p.value

end Property

/-- A domain and key properties. -/
structure ObjectName where
  domain : Text
  properties : List Property

namespace ObjectName

/-- The text of an object name. -/
def text (n : ObjectName) : Text :=
  n.domain ++ ':' :: join [','] (n.properties.map Property.text)

/-- The values of the key properties, without the blanks around them. -/
def values (n : ObjectName) : List Text :=
  n.properties.map fun p => trim p.value

/-- The domain is not blank and ends where the name says, and there are properties. -/
structure WellFormed (n : ObjectName) : Prop where
  colon_notMem : ':' ∉ n.domain
  domain_not_blank : isBlankText n.domain = false
  properties_ne_nil : n.properties ≠ []
  properties : ∀ p ∈ n.properties, p.WellFormed

/-- The name with other keys or with other blanks around its parts. -/
structure Respelled (n m : ObjectName) : Prop where
  domain : trim m.domain = trim n.domain
  properties : List.Forall₂ Property.Respelled n.properties m.properties

end ObjectName

/-- The text is no object name: it has no colon, or nothing but blanks before it or behind it, or a
property without an equals sign or with nothing but blanks before it. -/
inductive Malformed : Text → Prop where
  | noColon {name : Text} (hcolon : ':' ∉ name) : Malformed name
  | noDomain {domain : Text} (hcolon : ':' ∉ domain) (hblank : isBlankText domain = true)
    (properties : Text) : Malformed (domain ++ ':' :: properties)
  | noProperties {domain properties : Text} (hcolon : ':' ∉ domain)
    (hblank : isBlankText properties = true) : Malformed (domain ++ ':' :: properties)
  | noEquals {domain properties piece : Text} (hcolon : ':' ∉ domain)
    (hpiece : piece ∈ splitOn ',' properties) (hequals : '=' ∉ piece) :
    Malformed (domain ++ ':' :: properties)
  | noKey {domain properties key value : Text} (hcolon : ':' ∉ domain)
    (hpiece : key ++ '=' :: value ∈ splitOn ',' properties) (hequals : '=' ∉ key)
    (hblank : isBlankText key = true) : Malformed (domain ++ ':' :: properties)

variable {beginning name domain properties key value id : Text} {pieces ids segments : List Text}

/-! ## Properties -/

namespace Property

variable {p q : Property}

theorem WellFormed.comma_notMem_text (h : p.WellFormed) : ',' ∉ p.text := by
  simp [text, h.key.comma_notMem, h.comma_notMem]

/-- A key that is not blank, an equals sign and a value make a property that may stand between
commas. -/
theorem wellFormed_of_notMem (hblank : isBlankText key = false) (hequals : '=' ∉ key)
    (hcomma : ',' ∉ key ++ '=' :: value) : WellFormed ⟨key, value⟩ where
  key :=
    { not_blank := hblank
      equals_notMem := hequals
      comma_notMem := fun h => hcomma (List.mem_append_left _ h) }
  comma_notMem := fun h => hcomma (List.mem_append_right _ (List.mem_cons_of_mem _ h))

end Property

theorem IsPropertyKey.padded {other : Text} (h : IsPropertyKey key) (hpadded : Padded key other) :
    IsPropertyKey other where
  not_blank := by
    rw [← Text.trim_ne_nil_iff, hpadded.trim_eq, Text.trim_ne_nil_iff]
    exact h.not_blank
  equals_notMem := hpadded.notMem rfl h.equals_notMem
  comma_notMem := hpadded.notMem rfl h.comma_notMem

/-- A text without a character that is no blank has none with other blanks around it either. -/
theorem notMem_of_trim_eq {c : Char} {t u : Text} (hc : Text.isBlank c = false)
    (htrim : trim u = trim t) (ht : c ∉ t) : c ∉ u := by
  have hcore : c ∉ trim u := fun h => ht ((Text.padded_trim t).mem (htrim ▸ h))
  exact (Text.padded_trim u).notMem hc hcore

theorem Property.Respelled.wellFormed {p q : Property} (h : p.Respelled q) (hp : p.WellFormed) :
    q.WellFormed where
  key := by
    rcases h.key with hpadded | hkey
    · exact hp.key.padded hpadded
    · exact hkey
  comma_notMem := notMem_of_trim_eq rfl h.value hp.comma_notMem

theorem exists_of_propertyValue {piece : Text} (hcomma : ',' ∉ piece)
    (h : propertyValue piece = .ok value) : ∃ p : Property, p.text = piece ∧ p.WellFormed := by
  rw [propertyValue] at h
  split at h
  · next key found hcut =>
    obtain ⟨rfl, hequals⟩ := Text.cutAt?_eq_some_iff.1 hcut
    by_cases hblank : isBlankText key = true
    · simp [hblank] at h
    · exact ⟨⟨key, found⟩, rfl,
        Property.wellFormed_of_notMem (Bool.eq_false_iff.2 hblank) hequals hcomma⟩
  · cases h

theorem propertyValues_text {ps : List Property} (h : ∀ p ∈ ps, p.WellFormed) :
    propertyValues (ps.map Property.text) = .ok (ps.map fun p => trim p.value) := by
  induction ps with
  | nil => rfl
  | cons p ps ih =>
    obtain ⟨hp, hps⟩ := List.forall_mem_cons.1 h
    have hvalue : propertyValue p.text = .ok (trim p.value) := propertyValue_property hp.key p.value
    rw [List.map_cons, propertyValues, hvalue, ih hps]
    rfl

/-- Pieces between commas that have values are the texts of properties. -/
theorem exists_of_propertyValues {values : List Text} (hcomma : ∀ piece ∈ pieces, ',' ∉ piece)
    (h : propertyValues pieces = .ok values) :
    ∃ ps : List Property, ps.map Property.text = pieces ∧ ∀ p ∈ ps, p.WellFormed := by
  induction pieces generalizing values with
  | nil => exact ⟨[], rfl, by simp⟩
  | cons piece pieces ih =>
    obtain ⟨hpiece, hpieces⟩ := List.forall_mem_cons.1 hcomma
    rw [propertyValues] at h
    cases hvalue : propertyValue piece with
    | error fault => simp [hvalue, bind, Except.bind] at h
    | ok value =>
      cases hvalues : propertyValues pieces with
      | error fault => simp [hvalue, hvalues, bind, Except.bind] at h
      | ok others =>
        obtain ⟨ps, rfl, hwell⟩ := ih hpieces hvalues
        obtain ⟨p, rfl, hp⟩ := exists_of_propertyValue hpiece hvalue
        exact ⟨p :: ps, rfl, List.forall_mem_cons.2 ⟨hp, hwell⟩⟩

/-! ## Names -/

namespace ObjectName

variable {n m : ObjectName}

theorem WellFormed.cutAt?_text (h : n.WellFormed) :
    Text.cutAt? ':' n.text = some (n.domain, join [','] (n.properties.map Property.text)) :=
  Text.cutAt?_eq_some_iff.2 ⟨rfl, h.colon_notMem⟩

theorem WellFormed.splitOn_properties (h : n.WellFormed) :
    splitOn ',' (join [','] (n.properties.map Property.text)) =
      n.properties.map Property.text := by
  apply Text.splitOn_join
  · simpa using h.properties_ne_nil
  · intro piece hpiece
    obtain ⟨p, hp, rfl⟩ := List.mem_map.1 hpiece
    exact (h.properties p hp).comma_notMem_text

/-- The properties are not blank, since each has an equals sign. -/
theorem WellFormed.properties_not_blank (h : n.WellFormed) :
    isBlankText (join [','] (n.properties.map Property.text)) = false := by
  obtain ⟨p, ps, hps⟩ := List.exists_cons_of_ne_nil h.properties_ne_nil
  have hp : p.text ∈ n.properties.map Property.text := by simp [hps]
  have hequals : '=' ∈ p.text := by simp [Property.text]
  exact Text.isBlankText_eq_false_iff.2 ⟨'=', Text.mem_join_of_mem hp hequals, rfl⟩

/-- The segments of a name are its domain and its values. -/
theorem WellFormed.nameSegments_text (h : n.WellFormed) :
    nameSegments n.text = .ok (trim n.domain :: n.values) := by
  refine nameSegments_eq_ok_iff.2 ⟨_, _, n.values, h.cutAt?_text, h.domain_not_blank,
    h.properties_not_blank, ?_, rfl⟩
  rw [h.splitOn_properties]
  exact propertyValues_text h.properties

/-- What is read as an object name has the parts of one. -/
theorem exists_of_nameSegments (h : nameSegments name = .ok segments) :
    ∃ n : ObjectName, n.WellFormed ∧ n.text = name := by
  obtain ⟨domain, properties, values, hcut, hdomain, -, hvalues, -⟩ := nameSegments_eq_ok_iff.1 h
  obtain ⟨rfl, hcolon⟩ := Text.cutAt?_eq_some_iff.1 hcut
  obtain ⟨ps, hps, hwell⟩ := exists_of_propertyValues
    (fun piece hpiece => Text.not_mem_of_mem_splitOn hpiece) hvalues
  refine ⟨⟨domain, ps⟩, ⟨hcolon, hdomain, ?_, hwell⟩, ?_⟩
  · rintro rfl
    exact Text.splitOn_ne_nil ',' properties hps.symm
  · rw [text, hps, Text.join_splitOn]

theorem Respelled.wellFormed (h : n.Respelled m) (hn : n.WellFormed) : m.WellFormed where
  colon_notMem := notMem_of_trim_eq rfl h.domain hn.colon_notMem
  domain_not_blank := by
    rw [← Text.trim_ne_nil_iff, h.domain, Text.trim_ne_nil_iff]
    exact hn.domain_not_blank
  properties_ne_nil := by
    intro hnil
    have hlength := h.properties.length_eq
    rw [hnil] at hlength
    exact hn.properties_ne_nil (List.length_eq_zero_iff.1 hlength)
  properties := by
    intro q hq
    obtain ⟨i, hi, rfl⟩ := List.getElem_of_mem hq
    have hi' : i < n.properties.length := h.properties.length_eq ▸ hi
    have hrespelled : (n.properties[i]).Respelled (m.properties[i]) := h.properties.get hi' hi
    exact hrespelled.wellFormed (hn.properties _ (List.getElem_mem hi'))

theorem Respelled.values_eq (h : n.Respelled m) : m.values = n.values := by
  have hvalues : List.Forall₂ (fun p q : Property => trim q.value = trim p.value)
      n.properties m.properties := h.properties.imp fun _ _ hpq => hpq.value
  rw [values, values, ← List.forall₂_eq_eq_eq, List.forall₂_map_left_iff,
    List.forall₂_map_right_iff]
  exact hvalues.flip

/-- Other keys and other blanks leave the segments as they are. -/
theorem Respelled.nameSegments_eq (h : n.Respelled m) (hn : n.WellFormed) :
    nameSegments m.text = nameSegments n.text := by
  rw [(h.wellFormed hn).nameSegments_text, hn.nameSegments_text, h.domain, h.values_eq]

end ObjectName

/-! ## Malformed texts -/

theorem exists_propertyValue_eq_error_iff {piece : Text} :
    (∃ fault, propertyValue piece = .error fault) ↔
      '=' ∉ piece ∨ ∃ key value, piece = key ++ '=' :: value ∧ '=' ∉ key ∧
        isBlankText key = true := by
  rw [propertyValue]
  cases hcut : Text.cutAt? '=' piece with
  | none =>
    have hequals : '=' ∉ piece := Text.cutAt?_eq_none_iff.1 hcut
    simp [hequals]
  | some parts =>
    obtain ⟨key, value⟩ := parts
    constructor
    · rintro ⟨fault, hfault⟩
      obtain ⟨rfl, hequals⟩ := Text.cutAt?_eq_some_iff.1 hcut
      by_cases hblank : isBlankText key = true
      · exact .inr ⟨key, value, rfl, hequals, hblank⟩
      · simp [hblank] at hfault
    · rintro (hequals | ⟨key', value', hpiece, hequals, hblank⟩)
      · rw [Text.cutAt?_eq_none_iff.2 hequals] at hcut
        cases hcut
      · rw [Text.cutAt?_eq_some_iff.2 ⟨hpiece, hequals⟩] at hcut
        cases hcut
        simp [hblank]

theorem exists_propertyValues_eq_error_iff :
    (∃ fault, propertyValues pieces = .error fault) ↔
      ∃ piece ∈ pieces, ∃ fault, propertyValue piece = .error fault := by
  induction pieces with
  | nil => simp [propertyValues]
  | cons piece pieces ih =>
    rw [propertyValues]
    cases hpiece : propertyValue piece with
    | error fault => simp [hpiece, bind, Except.bind]
    | ok value =>
      cases hpieces : propertyValues pieces with
      | error fault => simpa [hpiece, hpieces, bind, Except.bind] using ih
      | ok values => simpa [hpiece, hpieces, bind, Except.bind, pure, Except.pure] using ih

/-- What stands before and behind the first colon decides. -/
theorem exists_nameSegments_eq_error_iff (hcolon : ':' ∉ domain) :
    (∃ fault, nameSegments (domain ++ ':' :: properties) = .error fault) ↔
      isBlankText domain = true ∨ isBlankText properties = true ∨
        ∃ piece ∈ splitOn ',' properties, ∃ fault, propertyValue piece = .error fault := by
  have hcut : Text.cutAt? ':' (domain ++ ':' :: properties) = some (domain, properties) :=
    Text.cutAt?_eq_some_iff.2 ⟨rfl, hcolon⟩
  rw [← exists_propertyValues_eq_error_iff, nameSegments, hcut]
  by_cases hdomain : isBlankText domain = true
  · simp [hdomain]
  by_cases hproperties : isBlankText properties = true
  · simp [hdomain, hproperties]
  cases hvalues : propertyValues (splitOn ',' properties) with
  | error fault => simp [hdomain, hproperties, hvalues, Except.map]
  | ok values => simp [hdomain, hproperties, hvalues, Except.map]

/-- The malformed texts are those that are not read. -/
theorem malformed_iff : Malformed name ↔ ∃ fault, nameSegments name = .error fault := by
  constructor
  · intro h
    cases h with
    | noColon hcolon => exact ⟨.noColon, by rw [nameSegments, Text.cutAt?_eq_none_iff.2 hcolon]⟩
    | noDomain hcolon hblank properties =>
      exact (exists_nameSegments_eq_error_iff hcolon).2 (.inl hblank)
    | noProperties hcolon hblank =>
      exact (exists_nameSegments_eq_error_iff hcolon).2 (.inr (.inl hblank))
    | noEquals hcolon hpiece hequals =>
      have hfault := exists_propertyValue_eq_error_iff.2 (.inl hequals)
      exact (exists_nameSegments_eq_error_iff hcolon).2 (.inr (.inr ⟨_, hpiece, hfault⟩))
    | @noKey domain properties key value hcolon hpiece hequals hblank =>
      have hfault := exists_propertyValue_eq_error_iff.2 (.inr ⟨key, value, rfl, hequals, hblank⟩)
      exact (exists_nameSegments_eq_error_iff hcolon).2 (.inr (.inr ⟨_, hpiece, hfault⟩))
  · intro h
    cases hcut : Text.cutAt? ':' name with
    | none => exact .noColon (Text.cutAt?_eq_none_iff.1 hcut)
    | some parts =>
      obtain ⟨domain, properties⟩ := parts
      obtain ⟨rfl, hcolon⟩ := Text.cutAt?_eq_some_iff.1 hcut
      rcases (exists_nameSegments_eq_error_iff hcolon).1 h with
        hblank | hblank | ⟨piece, hpiece, hfault⟩
      · exact .noDomain hcolon hblank properties
      · exact .noProperties hcolon hblank
      · rcases exists_propertyValue_eq_error_iff.1 hfault with
          hequals | ⟨key, value, rfl, hequals, hblank⟩
        · exact .noEquals hcolon hpiece hequals
        · exact .noKey hcolon hpiece hequals hblank

/-! ## Table ids -/

/-- An id and those that values make of it one after the other, the longest first. -/
inductive Extensions (id : Text) : List Text → List Text → Prop where
  | self : Extensions id [] [id]
  | extend {values ids : List Text} {next : Text} (h : Extensions id values (next :: ids))
    (value : Text) : Extensions id (values ++ [value]) ((next ++ '.' :: value) :: next :: ids)

namespace Extensions

variable {values : List Text}

theorem length_eq (h : Extensions id values ids) : ids.length = values.length + 1 := by
  induction h with
  | self => rfl
  | extend h value ih => simpa using ih

theorem getLast?_eq (h : Extensions id values ids) : ids.getLast? = some id := by
  induction h with
  | self => rfl
  | extend h value ih => rwa [List.getLast?_cons_cons]

theorem length_le (h : Extensions id values ids) : ∀ other ∈ ids, id.length ≤ other.length := by
  induction h with
  | self => simp
  | extend h value ih =>
    intro other hother
    rcases List.mem_cons.1 hother with rfl | hother
    · have hnext := ih _ List.mem_cons_self
      simp only [List.length_append, List.length_cons]
      omega
    · exact ih other hother

/-- Each id is longer than those behind it. -/
theorem pairwise (h : Extensions id values ids) :
    ids.Pairwise fun longer shorter => shorter.length < longer.length := by
  induction h with
  | self => simp
  | @extend values ids next h value ih =>
    refine List.pairwise_cons.2 ⟨?_, ih⟩
    intro other hother
    have hle : other.length ≤ next.length := by
      rcases List.mem_cons.1 hother with rfl | hother
      · exact Nat.le_refl _
      · exact Nat.le_of_lt (List.rel_of_pairwise_cons ih hother)
    simp only [List.length_append, List.length_cons]
    omega

theorem nodup (h : Extensions id values ids) : ids.Nodup :=
  h.pairwise.imp fun hlt heq => by simp [heq] at hlt

end Extensions

/-- The ids of segments are those that the segments behind the first make of its id. -/
theorem extensions_beginnings (beginning first : Text) (values : List Text) :
    Extensions (under beginning first) values
      ((beginnings (first :: values)).map (idOf beginning)) := by
  induction values using List.reverseRecOn with
  | nil =>
    have hid : idOf beginning [first] = under beginning first := by
      rw [idOf, Text.join_singleton]
    rw [show beginnings [first] = [[first]] from rfl, List.map_singleton, hid]
    exact .self
  | append_singleton values value ih =>
    obtain ⟨shorter, hshorter⟩ := exists_beginnings_eq_cons (List.cons_ne_nil first values)
    rw [← List.cons_append, beginnings_concat, List.map_cons, idOf_concat (by simp)]
    rw [hshorter, List.map_cons] at ih ⊢
    exact ih.extend value

/-- A name that is not read is reported with its fault. -/
theorem exists_candidates_eq_error_iff :
    (∃ fault, (management beginning).candidates name = .error (.resource name fault)) ↔
      ∃ fault, nameSegments name = .error fault := by
  show (∃ fault, (Resolver.segments name >>= _) = _) ↔ _
  rw [Resolver.segments]
  cases nameSegments name with
  | error fault =>
    constructor
    · intro _
      exact ⟨fault, rfl⟩
    · intro _
      exact ⟨fault, rfl⟩
  | ok segments =>
    constructor
    · intro h
      obtain ⟨fault, hfault⟩ := h
      cases hfault
    · intro h
      obtain ⟨fault, hfault⟩ := h
      cases hfault

/-- A text has no table ids if it is malformed, and only then. Otherwise it has the parts of an
object name. Its table ids are then one more than it has properties, from the longest to that of the
domain: each is the next one extended by the value of a property. They are all different, and
names that differ in keys and in blanks only have the same. -/
theorem candidates_read_grammar (beginning name : Text) :
    ((∃ fault, (management beginning).candidates name = .error (.resource name fault)) ↔
      Malformed name) ∧
    (Malformed name ∨ ∃ n : ObjectName, n.WellFormed ∧ n.text = name) ∧
    ∀ n : ObjectName, n.WellFormed → n.text = name →
      ∃ ids, (management beginning).candidates name = .ok ids ∧
        Extensions (under beginning (trim n.domain)) n.values ids ∧
        ids.length = n.properties.length + 1 ∧
        ids.Pairwise (fun longer shorter => shorter.length < longer.length) ∧ ids.Nodup ∧
        ids.getLast? = some (under beginning (trim n.domain)) ∧
        (∀ id ∈ ids, (under beginning (trim n.domain)).length ≤ id.length) ∧
        ∀ m : ObjectName, n.Respelled m → (management beginning).candidates m.text = .ok ids := by
  refine ⟨exists_candidates_eq_error_iff.trans malformed_iff.symm, ?_, ?_⟩
  · cases hname : nameSegments name with
    | error fault => exact .inl (malformed_iff.2 ⟨fault, hname⟩)
    | ok segments => exact .inr (ObjectName.exists_of_nameSegments hname)
  · rintro n hn rfl
    have hsegments := hn.nameSegments_text
    have hids := extensions_beginnings beginning (trim n.domain) n.values
    refine ⟨_, candidates_management_eq_ok_iff.2 ⟨_, hsegments, rfl⟩, hids, ?_, hids.pairwise,
      hids.nodup, hids.getLast?_eq, hids.length_le, ?_⟩
    · simpa [ObjectName.values] using hids.length_eq
    · intro m hm
      exact candidates_management_eq_ok_iff.2 ⟨_, (hm.nameSegments_eq hn).trans hsegments, rfl⟩

/-- A name with signs in its values, and the name with other keys and other blanks. -/
def nestedSigns : ObjectName × ObjectName :=
  (⟨"net", [⟨"type", " a=b"⟩, ⟨"name", "c:d"⟩, ⟨"x", ""⟩]⟩,
    ⟨" net ", [⟨" type", "a=b "⟩, ⟨"k", "c:d"⟩, ⟨"y", "\t"⟩]⟩)

/-- An equals sign or a colon in a value is part of it, and a value may be empty. -/
theorem candidates_read_grammar_of_nested_signs :
    nestedSigns.1.WellFormed ∧ nestedSigns.1.text = "net:type= a=b,name=c:d,x=" ∧
      nestedSigns.1.Respelled nestedSigns.2 ∧
      nestedSigns.2.text = " net : type=a=b ,k=c:d,y=\t" ∧
      (management "acl").candidates "net:type= a=b,name=c:d,x=" =
        .ok ["acl.net.a=b.c:d.", "acl.net.a=b.c:d", "acl.net.a=b", "acl.net"] ∧
      (management "acl").candidates " net : type=a=b ,k=c:d,y=\t" =
        .ok ["acl.net.a=b.c:d.", "acl.net.a=b.c:d", "acl.net.a=b", "acl.net"] ∧
      Malformed "net:type= a=b,,x=" := by
  have hwell : nestedSigns.1.WellFormed :=
    ⟨by decide, by decide, by decide, by
      simp only [nestedSigns, List.forall_mem_cons]
      exact ⟨⟨⟨rfl, by decide, by decide⟩, by decide⟩, ⟨⟨rfl, by decide, by decide⟩, by decide⟩,
        ⟨⟨rfl, by decide, by decide⟩, by decide⟩, nofun⟩⟩
  have hrespelled : nestedSigns.1.Respelled nestedSigns.2 :=
    ⟨rfl, .cons ⟨.inl ⟨" ", "", rfl, rfl, rfl⟩, rfl⟩ <|
      .cons ⟨.inr ⟨rfl, by decide, by decide⟩, rfl⟩ <|
      .cons ⟨.inr ⟨rfl, by decide, by decide⟩, rfl⟩ .nil⟩
  obtain ⟨-, -, hread⟩ := candidates_read_grammar "acl" "net:type= a=b,name=c:d,x="
  obtain ⟨ids, hids, -, -, -, -, -, -, hsame⟩ := hread nestedSigns.1 hwell rfl
  obtain ⟨hmalformed, -, -⟩ := candidates_read_grammar "acl" "net:type= a=b,,x="
  have hlisted : (management "acl").candidates "net:type= a=b,name=c:d,x=" =
      .ok ["acl.net.a=b.c:d.", "acl.net.a=b.c:d", "acl.net.a=b", "acl.net"] := rfl
  exact ⟨hwell, rfl, hrespelled, rfl, hlisted, (hsame _ hrespelled).trans (hids.symm.trans hlisted),
    hmalformed.1 ⟨_, rfl⟩⟩

end Resolver

end RoleGate
