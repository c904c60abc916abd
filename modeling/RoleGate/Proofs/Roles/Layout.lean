import Mathlib.Data.List.TakeWhile
import RoleGate.Proofs.Text.Blank
import RoleGate.Roles

/-!
# Layouts of role lists

A role list may be written with blanks around its roles, with blank entries anywhere and with a
comment at its end. However it is laid out, the same roles are read in the same order. A text is a
layout of the roles that are read from it, so these can be written again as they are.

## Main definitions

* `Roles.IsRole` — a text may be the name of a role.
* `Roles.LaidOut` — a text is a layout of a role list.

## Main statements

* `Roles.parse_eq_iff_laidOut` — a text names the roles of which it is a layout.
* `Roles.parse_reads_layouts` — the same, with what follows for comments and for writing again.
-/

namespace RoleGate.Roles

open Text (Padded isBlank isBlankText splitOn join trim)

/-- The text may be the name of a role: it has no blanks at its ends, and it has no commas and
number signs, with which roles end. -/
structure IsRole (role : Text) : Prop where
  ne_nil : role ≠ []
  trim_eq : trim role = role
  comma_notMem : ',' ∉ role
  sign_notMem : '#' ∉ role

instance decidableIsRole (role : Text) : Decidable (IsRole role) :=
  decidable_of_iff (role ≠ [] ∧ trim role = role ∧ ',' ∉ role ∧ '#' ∉ role)
    ⟨fun ⟨hne, htrim, hcomma, hsign⟩ => ⟨hne, htrim, hcomma, hsign⟩,
      fun ⟨hne, htrim, hcomma, hsign⟩ => ⟨hne, htrim, hcomma, hsign⟩⟩

/-- Entries for some roles, in order: a role has an entry with blanks around it, perhaps, and all
other entries are blank. -/
inductive Entries : List Text → List Text → Prop where
  | nil : Entries [] []
  | blank {roles entries : List Text} {gap : Text} (hgap : isBlankText gap = true)
      (hrest : Entries roles entries) : Entries roles (gap :: entries)
  | role {roles entries : List Text} {role entry : Text} (hentry : Padded role entry)
      (hrest : Entries roles entries) : Entries (role :: roles) (entry :: entries)

/-- The text has entries for the roles between commas, and perhaps a comment behind them. -/
inductive LaidOut : List Text → Text → Prop where
  | bare {roles entries : List Text} (hentries : Entries roles entries) :
      LaidOut roles (join [','] entries)
  | commented {roles entries : List Text} (hentries : Entries roles entries) (comment : Text) :
      LaidOut roles (join [','] entries ++ '#' :: comment)

variable {roles entries : List Text} {t comment : Text} {c : Char}

/-! ## Comments -/

theorem withoutComment_of_notMem (h : '#' ∉ t) : withoutComment t = t := by
  rw [withoutComment, List.takeWhile_eq_self_iff]
  intro c hc
  simpa using fun heq : c = '#' => h (heq ▸ hc)

theorem sign_notMem_withoutComment (t : Text) : '#' ∉ withoutComment t := fun h => by
  simpa using List.mem_takeWhile_imp h

/-- A comment reaches from the first number sign to the end. -/
theorem withoutComment_append (t comment : Text) :
    withoutComment (t ++ '#' :: comment) = withoutComment t := by
  induction t with
  | nil => rfl
  | cons c t ih =>
    rw [List.cons_append, withoutComment, withoutComment, List.takeWhile_cons,
      List.takeWhile_cons, ← withoutComment, ← withoutComment, ih]

/-- A text is what is left of it without its comment, and perhaps the comment. -/
theorem eq_withoutComment_or (t : Text) :
    t = withoutComment t ∨ ∃ comment, t = withoutComment t ++ '#' :: comment := by
  have hparts : withoutComment t ++ t.dropWhile (· != '#') = t := List.takeWhile_append_dropWhile
  cases hrest : t.dropWhile (· != '#') with
  | nil =>
    rw [hrest, List.append_nil] at hparts
    exact .inl hparts.symm
  | cons c comment =>
    have hsign := List.head?_dropWhile_not (· != '#') t
    rw [hrest] at hsign hparts
    obtain rfl : c = '#' := by simpa using hsign
    exact .inr ⟨comment, hparts.symm⟩

/-! ## Entries -/

/-- The roles that some entries name. -/
def ofEntries (entries : List Text) : List Text :=
  (entries.map trim).filter (!·.isEmpty)

theorem parse_eq_ofEntries (t : Text) :
    parse t = ofEntries (splitOn ',' (withoutComment t)) := rfl

theorem ofEntries_cons (entry : Text) (entries : List Text) :
    ofEntries (entry :: entries) =
      if isBlankText entry then ofEntries entries else trim entry :: ofEntries entries := by
  rw [ofEntries, List.map_cons, List.filter_cons]
  by_cases hblank : isBlankText entry = true
  · simp [Text.trim_eq_nil_iff.2 hblank, hblank, ofEntries]
  · have hne : trim entry ≠ [] := fun h => hblank (Text.trim_eq_nil_iff.1 h)
    simp [hne, hblank, ofEntries]

/-- Any entries are entries for the roles that they name. -/
theorem entries_ofEntries (entries : List Text) : Entries (ofEntries entries) entries := by
  induction entries with
  | nil => exact .nil
  | cons entry entries ih =>
    rw [ofEntries_cons]
    split
    · next hblank => exact .blank hblank ih
    · exact .role (Text.padded_trim entry) ih

namespace Entries

/-- Roles are entries for themselves. -/
theorem self (roles : List Text) : Entries roles roles := by
  induction roles with
  | nil => exact .nil
  | cons role roles ih => exact .role (.refl role) ih

/-- Entries for some roles name just these. -/
theorem ofEntries_eq (h : Entries roles entries) (hroles : ∀ r ∈ roles, IsRole r) :
    ofEntries entries = roles := by
  induction h with
  | nil => rfl
  | blank hgap hrest ih => rw [ofEntries_cons, if_pos hgap, ih hroles]
  | @role roles entries role entry hentry hrest ih =>
    obtain ⟨hrole, hroles⟩ := List.forall_mem_cons.1 hroles
    have htrim : trim entry = role := hentry.trim_eq.trans hrole.trim_eq
    have hblank : isBlankText entry = false := Text.trim_ne_nil_iff.1 (htrim ▸ hrole.ne_nil)
    rw [ofEntries_cons, if_neg (by simp [hblank]), htrim, ih hroles]

/-- A character that stands in no role and is no blank stands in no entry. -/
theorem notMem (h : Entries roles entries) (hc : isBlank c = false)
    (hroles : ∀ r ∈ roles, c ∉ r) : ∀ e ∈ entries, c ∉ e := by
  induction h with
  | nil => simp
  | blank hgap hrest ih =>
    exact List.forall_mem_cons.2 ⟨Text.notMem_of_isBlankText hc hgap, ih hroles⟩
  | role hentry hrest ih =>
    obtain ⟨hrole, hroles⟩ := List.forall_mem_cons.1 hroles
    exact List.forall_mem_cons.2 ⟨hentry.notMem hc hrole, ih hroles⟩

/-- The entries between commas name the roles. -/
theorem parse_join (h : Entries roles entries) (hroles : ∀ r ∈ roles, IsRole r) :
    parse (join [','] entries) = roles := by
  have hcomma : ∀ e ∈ entries, ',' ∉ e := h.notMem rfl fun r hr => (hroles r hr).comma_notMem
  have hsign : '#' ∉ join [','] entries :=
    Text.notMem_join (by decide) (h.notMem rfl fun r hr => (hroles r hr).sign_notMem)
  rw [parse_eq_ofEntries, withoutComment_of_notMem hsign, ← h.ofEntries_eq hroles]
  cases entries with
  | nil => rfl
  | cons entry entries => rw [Text.splitOn_join (by simp) hcomma]

end Entries

/-! ## Layouts -/

theorem parse_append_comment (t comment : Text) : parse (t ++ '#' :: comment) = parse t := by
  rw [parse_eq_ofEntries, parse_eq_ofEntries, withoutComment_append]

/-- What is read from a text are roles. -/
theorem isRole_of_mem_parse {role : Text} (h : role ∈ parse t) : IsRole role := by
  obtain ⟨hmem, hne⟩ := List.mem_filter.1 h
  obtain ⟨entry, hentry, rfl⟩ := List.mem_map.1 hmem
  have hpadded := Text.padded_trim entry
  exact
    { ne_nil := by simpa using hne
      trim_eq := Text.trim_trim entry
      comma_notMem := fun hc => Text.not_mem_of_mem_splitOn hentry (hpadded.mem hc)
      sign_notMem := fun hc => sign_notMem_withoutComment t
        (Text.mem_of_mem_splitOn hentry (hpadded.mem hc)) }

/-- A text is a layout of the roles that are read from it. -/
theorem laidOut_parse (t : Text) : LaidOut (parse t) t := by
  have hentries : Entries (parse t) (splitOn ',' (withoutComment t)) := entries_ofEntries _
  have hjoin : join [','] (splitOn ',' (withoutComment t)) = withoutComment t :=
    Text.join_splitOn ',' _
  obtain ht | ⟨comment, ht⟩ := eq_withoutComment_or t
  · have hlaid := LaidOut.bare hentries
    rwa [hjoin, ← ht] at hlaid
  · have hlaid := LaidOut.commented hentries comment
    rwa [hjoin, ← ht] at hlaid

/-- A text names the roles of which it is a layout, and no others. -/
theorem parse_eq_iff_laidOut :
    parse t = roles ↔ (∀ r ∈ roles, IsRole r) ∧ LaidOut roles t := by
  constructor
  · rintro rfl
    exact ⟨fun r => isRole_of_mem_parse, laidOut_parse t⟩
  · rintro ⟨hroles, hbare | ⟨hentries, comment⟩⟩
    · exact hbare.parse_join hroles
    · rw [parse_append_comment, hentries.parse_join hroles]

/-- A text names the roles of which it is a layout, and so these are roles. A comment does not
count, and the roles that are read can be written down and read again. -/
theorem parse_reads_layouts (t : Text) :
    (∀ roles, parse t = roles ↔ (∀ r ∈ roles, IsRole r) ∧ LaidOut roles t) ∧
      (∀ comment, parse (t ++ '#' :: comment) = parse t) ∧
      parse (render (parse t)) = parse t := by
  refine ⟨fun roles => parse_eq_iff_laidOut, parse_append_comment t, ?_⟩
  have hroles : ∀ r ∈ parse t, IsRole r := fun r => isRole_of_mem_parse
  exact (Entries.self (parse t)).parse_join hroles

/-- A role may have a blank inside and may come twice. -/
theorem parse_reads_layouts_of_power_user :
    LaidOut ["power user", "admin", "power user"] " ,power user\t, ,admin ,power user,# or, so" ∧
      parse " ,power user\t, ,admin ,power user,# or, so" =
        ["power user", "admin", "power user"] := by
  have hentries : Entries ["power user", "admin", "power user"]
      [" ", "power user\t", " ", "admin ", "power user", ""] :=
    .blank rfl <| .role ⟨"", "\t", rfl, rfl, rfl⟩ <| .blank rfl <|
      .role ⟨"", " ", rfl, rfl, rfl⟩ <| .role (.refl _) <| .blank rfl .nil
  have hlaid : LaidOut ["power user", "admin", "power user"]
      " ,power user\t, ,admin ,power user,# or, so" := .commented hentries " or, so"
  obtain ⟨hreads, -⟩ := parse_reads_layouts " ,power user\t, ,admin ,power user,# or, so"
  exact ⟨hlaid, (hreads _).2 ⟨by decide, hlaid⟩⟩

end RoleGate.Roles
