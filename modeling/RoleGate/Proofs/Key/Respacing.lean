import Mathlib.Logic.Relation
import RoleGate.Proofs.Key.Idempotence

/-!
# Blanks put into keys

Blanks put into a key outside of its literals do not change its normal form, and blanks put into a
literal appear there in the normal form. So two texts have one normal form exactly if they differ
only in blanks outside of literals. This holds for all texts, whether or not they are keys.

The reason is that nothing but the other characters decides where a literal ends: blanks put in
behind a delimiter never turn it into the end of a literal, nor out of it.

## Main definitions

* `Key.Place.reach` — the place of a reader behind some characters of a key.
* `Key.placeAt` — the place at a position of a key.
* `Key.Respaced` — a key with more blanks outside of its literals.

## Main statements

* `Key.closes_congr` — blanks do not decide whether a literal ends.
* `Key.normalizeFrom_insert` — the normal form of a text with blanks put in.
* `Key.normalize_eq_iff_respaced` — which texts have the same normal form.
-/

namespace RoleGate

namespace Text

/-- The text with a gap put in at a position. -/
def insertAt (i : Nat) (gap t : Text) : Text :=
  t.take i ++ gap ++ t.drop i

end Text

namespace Key

open Text (isBlank isBlankText withoutBlanks insertAt)

variable {p : Place} {c d : Char} {front gap rest s t key other : Text}

/-! ## Places -/

/-- The place is outside of literals. -/
def Place.isOutside : Place → Bool
  | .outside _ => true
  | .inside _ => false

/-- The place behind a character, whether it is kept or not. -/
def Place.step (p : Place) (c : Char) (rest : Text) : Place :=
  if p.drops c then p else p.behind c rest

/-- The place behind some characters that others follow. -/
def Place.reach : Place → (front rest : Text) → Place
  | p, [], _ => p
  | p, c :: front, rest => (p.step c (front ++ rest)).reach front rest

/-- The place at a position of a key. -/
def placeAt (key : Text) (i : Nat) : Place :=
  (Place.outside none).reach (key.take i) (key.drop i)

/-- The characters in front of others that the normal form keeps. -/
def kept : Place → (front rest : Text) → Text
  | _, [], _ => []
  | p, c :: front, rest =>
    (if p.drops c then [] else [c]) ++ kept (p.step c (front ++ rest)) front rest

theorem Place.drops_eq (p : Place) (c : Char) : p.drops c = (isBlank c && p.isOutside) := by
  cases p <;> simp [drops, isOutside]

theorem Place.reach_append (p : Place) (front middle rest : Text) :
    p.reach (front ++ middle) rest = (p.reach front (middle ++ rest)).reach middle rest := by
  induction front generalizing p with
  | nil => rfl
  | cons c front ih => rw [List.cons_append, reach, reach, ih, List.append_assoc]

/-- A literal that a reader stands in has begun with a delimiter. -/
def Place.Proper : Place → Prop
  | .outside _ => True
  | .inside d => isDelimiter d = true

theorem Place.Proper.step (hp : p.Proper) (c : Char) (rest : Text) : (p.step c rest).Proper := by
  unfold Place.step
  split
  · exact hp
  · cases p with
    | outside last =>
      unfold Place.behind
      dsimp only
      split
      · next hopens => exact (Bool.and_eq_true_iff.1 hopens).1
      · trivial
    | inside d =>
      unfold Place.behind
      dsimp only
      split
      · trivial
      · exact hp

theorem Place.Proper.reach (hp : p.Proper) (front rest : Text) : (p.reach front rest).Proper := by
  induction front generalizing p with
  | nil => exact hp
  | cons c front ih => exact ih (hp.step c _)

/-! ## Blanks do not decide where a literal ends -/

theorem closes_eq (t : Text) :
    closes t = ((withoutBlanks t).head? == some ',' || withoutBlanks t == [']']) := by
  induction t with
  | nil => rfl
  | cons c t ih =>
    by_cases hc : isBlank c = true
    · rw [closes_cons_of_blank hc, Text.withoutBlanks_cons_of_blank hc, ih]
    · rw [Bool.not_eq_true] at hc
      rw [closes_cons_of_not_blank hc, Text.withoutBlanks_cons_of_not_blank hc, Bool.eq_iff_iff]
      simp [← Text.withoutBlanks_eq_nil_iff]

theorem closes_congr (h : withoutBlanks s = withoutBlanks t) : closes s = closes t := by
  rw [closes_eq, closes_eq, h]

theorem Place.step_congr (h : withoutBlanks s = withoutBlanks t) (p : Place) (c : Char) :
    p.step c s = p.step c t := by
  cases p with
  | outside last => rfl
  | inside d => rw [step, step, behind, behind, closes_congr h]

theorem withoutBlanks_append_congr (h : withoutBlanks s = withoutBlanks t) (front : Text) :
    withoutBlanks (front ++ s) = withoutBlanks (front ++ t) := by
  rw [Text.withoutBlanks_append, Text.withoutBlanks_append, h]

/-- The place behind some characters does not depend on the blanks that follow. -/
theorem Place.reach_congr (h : withoutBlanks s = withoutBlanks t) (p : Place) (front : Text) :
    p.reach front s = p.reach front t := by
  induction front generalizing p with
  | nil => rfl
  | cons c front ih =>
    rw [reach, reach, step_congr (withoutBlanks_append_congr h front), ih]

/-- What is kept of some characters does not depend on the blanks that follow. -/
theorem kept_congr (h : withoutBlanks s = withoutBlanks t) (p : Place) (front : Text) :
    kept p front s = kept p front t := by
  induction front generalizing p with
  | nil => rfl
  | cons c front ih =>
    rw [kept, kept, Place.step_congr (withoutBlanks_append_congr h front), ih]

/-! ## Putting blanks in -/

/-- A normal form is made piece by piece. -/
theorem normalizeFrom_eq_kept_append (p : Place) (front rest : Text) :
    normalizeFrom p (front ++ rest) =
      kept p front rest ++ normalizeFrom (p.reach front rest) rest := by
  induction front generalizing p with
  | nil => rfl
  | cons c front ih =>
    rw [List.cons_append, normalizeFrom, kept, Place.reach, Place.step]
    split
    · exact ih p
    · rw [ih, List.singleton_append, List.cons_append]

/-- Blanks are left out outside of literals and kept inside. -/
theorem normalizeFrom_gap (hp : p.Proper) (hgap : isBlankText gap = true) (rest : Text) :
    normalizeFrom p (gap ++ rest) =
      (if p.isOutside then [] else gap) ++ normalizeFrom p rest := by
  cases p with
  | outside last => exact normalizeFrom_blank hgap last rest
  | inside d =>
    induction gap with
    | nil => rfl
    | cons c gap ih =>
      obtain ⟨hc, hgap⟩ := Text.isBlankText_cons_iff.1 hgap
      have hne : c ≠ d := by
        rintro rfl
        rw [isBlank_of_isDelimiter hp] at hc
        cases hc
      have hstays : (Place.inside d).behind c (gap ++ rest) = .inside d := by
        simp [Place.behind, hne]
      rw [List.cons_append, normalizeFrom, Place.drops, if_neg (by simp), hstays, ih hgap]
      rfl

/-- Blanks that are put in stay out of the normal form, or appear in it behind what is kept of the
characters in front of them. -/
theorem normalizeFrom_insert (hp : p.Proper) (hgap : isBlankText gap = true) (front rest : Text) :
    normalizeFrom p (front ++ gap ++ rest) =
      kept p front rest ++ (if (p.reach front rest).isOutside then [] else gap) ++
        normalizeFrom (p.reach front rest) rest := by
  have hsame : withoutBlanks (gap ++ rest) = withoutBlanks rest := by
    rw [Text.withoutBlanks_append, Text.withoutBlanks_eq_nil_iff.2 hgap, List.nil_append]
  rw [List.append_assoc, normalizeFrom_eq_kept_append, kept_congr hsame, Place.reach_congr hsame,
    normalizeFrom_gap (hp.reach front rest) hgap, List.append_assoc]

/-! ## Positions -/

/-- The character at a position counts: it is no blank, or it stands inside a literal. -/
def counts (key : Text) (entry : Char × Nat) : Bool :=
  !(isBlank entry.1 && (placeAt key entry.2).isOutside)

/-- How many characters in front of a position count. -/
def countedBefore (key : Text) (i : Nat) : Nat :=
  (key.take i).zipIdx.countP (counts key)

theorem placeAt_append {i : Nat} (hi : i ≤ front.length) (rest : Text) :
    placeAt (front ++ rest) i =
      (Place.outside none).reach (front.take i) (front.drop i ++ rest) := by
  rw [placeAt, List.take_append_of_le_length hi, List.drop_append_of_le_length hi]

/-- The characters that are kept are those that count. -/
theorem kept_eq_map_filter (p : Place) (front rest : Text) :
    kept p front rest = (front.zipIdx.filter fun e =>
      !(isBlank e.1 && (p.reach (front.take e.2) (front.drop e.2 ++ rest)).isOutside)).map
        Prod.fst := by
  induction front generalizing p with
  | nil => rfl
  | cons c front ih =>
    have hnext : ∀ i, p.reach ((c :: front).take (i + 1)) ((c :: front).drop (i + 1) ++ rest) =
        (p.step c (front ++ rest)).reach (front.take i) (front.drop i ++ rest) := by
      intro i
      rw [List.take_succ_cons, List.drop_succ_cons, Place.reach, ← List.append_assoc,
        List.take_append_drop]
    have hothers : ((front.zipIdx.map fun (c, i) => (c, i + 1)).filter fun e =>
        !(isBlank e.1 &&
          (p.reach ((c :: front).take e.2) ((c :: front).drop e.2 ++ rest)).isOutside)).map
        Prod.fst = kept (p.step c (front ++ rest)) front rest := by
      rw [ih, List.filter_map, List.map_map]
      simp only [Function.comp_def, hnext]
    rw [kept, ← hothers, List.zipIdx_cons, List.zipIdx_succ, List.filter_cons, Place.drops_eq]
    by_cases hdrops : (isBlank c && p.isOutside) = true
    · simp [hdrops, Place.reach]
    · simp [hdrops, Place.reach]

theorem kept_eq_counted (front rest : Text) :
    kept (.outside none) front rest =
      (front.zipIdx.filter (counts (front ++ rest))).map Prod.fst := by
  rw [kept_eq_map_filter]
  refine congrArg (List.map Prod.fst) (List.filter_congr fun e he => ?_)
  rw [counts, placeAt_append (Nat.le_of_lt (List.snd_lt_of_mem_zipIdx he))]

/-- The normal form of a key holds the characters that count, in order. -/
theorem normalize_eq_counted (key : Text) :
    normalize key = (key.zipIdx.filter (counts key)).map Prod.fst := by
  have hkept := normalizeFrom_eq_kept_append (.outside none) key []
  have hcounted := kept_eq_counted key []
  rw [List.append_nil] at hkept hcounted
  rw [normalize, hkept, hcounted, normalizeFrom, List.append_nil]

theorem length_kept (key : Text) (i : Nat) :
    (kept (.outside none) (key.take i) (key.drop i)).length = countedBefore key i := by
  rw [kept_eq_counted, List.take_append_drop, List.length_map, countedBefore,
    List.countP_eq_length_filter]

/-- Blanks that are put into a key outside of its literals do not change its normal form. Blanks
that are put into a literal appear in the normal form, behind the characters that count. -/
theorem normalize_insertAt (key : Text) (i : Nat) (hgap : isBlankText gap = true) :
    normalize (insertAt i gap key) =
      if (placeAt key i).isOutside then normalize key
      else insertAt (countedBefore key i) gap (normalize key) := by
  have hkey := normalizeFrom_eq_kept_append (.outside none) (key.take i) (key.drop i)
  rw [List.take_append_drop] at hkey
  have hproper : (Place.outside none).Proper := trivial
  rw [normalize, normalize, insertAt, normalizeFrom_insert hproper hgap, hkey, ← placeAt]
  split
  · rw [List.append_nil]
  · rw [insertAt, ← length_kept, List.take_left, List.drop_left]

/-! ## Texts with one normal form -/

/-- A key with blanks put in outside of its literals. -/
inductive Respaced : Text → Text → Prop where
  | insert (key : Text) (i : Nat) {gap : Text} (hgap : isBlankText gap = true)
      (hplace : (placeAt key i).isOutside = true) : Respaced key (insertAt i gap key)

theorem Respaced.normalize_eq (h : Respaced key other) : normalize other = normalize key := by
  cases h with
  | insert i hgap hplace => rw [normalize_insertAt key i hgap, if_pos hplace]

/-- Blanks lead from the normal form of what follows a place back to what follows it. -/
theorem eqvGen_respaced_normalizeFrom (hp : (Place.outside none).reach front rest = p) :
    Relation.EqvGen Respaced (front ++ normalizeFrom p rest) (front ++ rest) := by
  induction rest generalizing front p with
  | nil => exact .refl _
  | cons c rest ih =>
    rw [normalizeFrom]
    split
    · next hdrops =>
      rw [Place.drops_eq, Bool.and_eq_true] at hdrops
      obtain ⟨hc, hplace⟩ := hdrops
      have hreach : (Place.outside none).reach front rest = p := by
        rw [← hp]
        exact Place.reach_congr (Text.withoutBlanks_cons_of_blank hc rest).symm _ _
      have hat : placeAt (front ++ rest) front.length = p := by
        rw [placeAt_append (Nat.le_refl _), List.take_length, List.drop_length, List.nil_append,
          hreach]
      have hinsert : insertAt front.length [c] (front ++ rest) = front ++ c :: rest := by
        simp [insertAt]
      refine .trans _ _ _ (ih hreach) (.rel _ _ ?_)
      rw [← hinsert]
      exact .insert _ _ (Text.isBlankText_cons_iff.2 ⟨hc, rfl⟩) (hat ▸ hplace)
    · next hkept =>
      have hreach : (Place.outside none).reach (front ++ [c]) rest = p.behind c rest := by
        rw [Place.reach_append, List.singleton_append, hp, Place.reach, Place.reach, Place.step,
          if_neg hkept, List.nil_append]
      have hothers := ih hreach
      rwa [List.append_assoc, List.append_assoc, List.singleton_append,
        List.singleton_append] at hothers

/-- Two texts have one normal form exactly if they differ only in blanks outside of literals. -/
theorem normalize_eq_iff_respaced :
    normalize key = normalize other ↔ Relation.EqvGen Respaced key other := by
  have hback : ∀ t : Text, Relation.EqvGen Respaced (normalize t) t := fun t => by
    have hstart : (Place.outside none).reach [] t = .outside none := rfl
    exact eqvGen_respaced_normalizeFrom hstart
  constructor
  · intro h
    exact .trans _ _ _ (.symm _ _ (hback key)) (h ▸ hback other)
  · intro h
    induction h with
    | rel key other hinsert => exact hinsert.normalize_eq.symm
    | refl key => rfl
    | symm key other _ ih => exact ih.symm
    | trans key middle other _ _ hfirst hsecond => exact hfirst.trans hsecond

/-! ## What is left out -/

theorem normalize_sublist (key : Text) : (normalize key).Sublist key := by
  have hsublist : ((key.zipIdx.filter (counts key)).map Prod.fst).Sublist
      (key.zipIdx.map Prod.fst) := List.filter_sublist.map _
  rwa [← normalize_eq_counted, List.zipIdx_map_fst] at hsublist

theorem withoutBlanks_normalizeFrom (p : Place) (t : Text) :
    withoutBlanks (normalizeFrom p t) = withoutBlanks t := by
  induction t generalizing p with
  | nil => rfl
  | cons c t ih =>
    rw [normalizeFrom]
    split
    · next hdrops =>
      rw [Text.withoutBlanks_cons_of_blank (Place.isBlank_of_drops hdrops), ih]
    · by_cases hc : isBlank c = true
      · rw [Text.withoutBlanks_cons_of_blank hc, Text.withoutBlanks_cons_of_blank hc, ih]
      · rw [Bool.not_eq_true] at hc
        rw [Text.withoutBlanks_cons_of_not_blank hc, Text.withoutBlanks_cons_of_not_blank hc, ih]

/-- The normal form of a text is the text without the blanks outside of its literals. Blanks put in
there change nothing, blanks put into a literal appear behind what counts in front of them, and the
texts with the same normal form are those that differ in blanks outside of literals only. -/
theorem normalize_drops_outer_blanks (key : Text) :
    (normalize key = (key.zipIdx.filter (counts key)).map Prod.fst ∧
      (normalize key).Sublist key ∧ withoutBlanks (normalize key) = withoutBlanks key) ∧
    (∀ i gap, isBlankText gap = true →
      normalize (insertAt i gap key) =
        if (placeAt key i).isOutside then normalize key
        else insertAt (countedBefore key i) gap (normalize key)) ∧
    ∀ other, normalize key = normalize other ↔ Relation.EqvGen Respaced key other :=
  ⟨⟨normalize_eq_counted key, normalize_sublist key, withoutBlanks_normalizeFrom _ key⟩,
    fun i _ hgap => normalize_insertAt key i hgap, fun _ => normalize_eq_iff_respaced⟩

/-- The second quote does not end the literal, since the bracket that follows does not end the key:
also with more blanks between them, which are then kept. -/
theorem normalize_drops_outer_blanks_of_bracket_in_literal :
    let key : Text := "put [\"a\" ] \" ]"
    let gap : Text := "\t "
    isBlankText gap = true ∧
      normalize (insertAt 5 gap key) = "put[\"a\" ] \"]" ∧
      normalize (insertAt 9 gap key) = "put[\"a\" \t ] \"]" ∧
      Relation.EqvGen Respaced key "\tput[ \"a\" ] \"]" := by
  intro key gap
  obtain ⟨-, hinsert, hsame⟩ := normalize_drops_outer_blanks key
  refine ⟨rfl, ?_, ?_, (hsame _).1 (by decide)⟩
  · exact (hinsert 5 gap rfl).trans (by decide)
  · exact (hinsert 9 gap rfl).trans (by decide)

end Key

end RoleGate
