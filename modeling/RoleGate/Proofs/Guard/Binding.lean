import Mathlib.Data.List.Basic
import RoleGate.Guard
import RoleGate.Proofs.Outcome

/-!
# What parameters receive

Binding passes over the parameters twice, with the arguments by position and with those by keyword,
and stops at the first fault. What comes of it can be said for each parameter on its own: it
receives the argument at its place, or else the argument under its name, or else its default. A call
is bound exactly if every parameter receives something and no argument is left over.

## Main definitions

* `Declarable` — the lists of parameters that functions have.
* `Call.Receives` — what the parameter at a place receives.
* `Call.Fits` — no argument is left over.
* `Call.Binds` — each parameter with what it receives.

## Main statements

* `Call.bind_eq_ok_iff` — binding succeeds exactly if parameters receive what it says they do.
-/

namespace RoleGate

namespace ParameterKind

/-- Parameters of the kind take one argument by position. -/
@[grind] def takesPosition : ParameterKind → Bool
  | .positionalOnly | .positional => true
  | .variadic | .keywordOnly | .keywords => false

/-- Parameters of the kind take one argument by keyword. -/
@[grind] def takesKeyword : ParameterKind → Bool
  | .positional | .keywordOnly => true
  | .positionalOnly | .variadic | .keywords => false

/-- A parameter of one kind may be declared before a parameter of another. -/
@[grind] def mayPrecede : ParameterKind → ParameterKind → Bool
  | .positionalOnly, _ => true
  | .positional, other => other != .positionalOnly
  | .variadic, other | .keywordOnly, other => other == .keywordOnly || other == .keywords
  | .keywords, _ => false

end ParameterKind

/-- Lists of parameters that functions have: no name twice, the kinds in order, and no defaults for
what takes all further arguments. -/
structure Declarable (ps : List Parameter) : Prop where
  nodup : (ps.map Parameter.name).Nodup
  ordered : ps.Pairwise fun p q => p.kind.mayPrecede q.kind = true
  plain : ∀ p ∈ ps, p.kind = .variadic ∨ p.kind = .keywords → p.default = none

namespace Declarable

variable {p q : Parameter} {ps : List Parameter} {i j : Nat}

theorem sublist {qs : List Parameter} (h : Declarable ps) (hsub : qs.Sublist ps) :
    Declarable qs where
  nodup := h.nodup.sublist (hsub.map _)
  ordered := h.ordered.sublist hsub
  plain := fun q hq => h.plain q (hsub.subset hq)

theorem tail (h : Declarable (p :: ps)) : Declarable ps :=
  h.sublist (List.sublist_cons_self p ps)

theorem name_ne (h : Declarable (p :: ps)) (hq : q ∈ ps) : p.name ≠ q.name := fun hname =>
  (List.nodup_cons.1 h.nodup).1 (hname ▸ List.mem_map_of_mem hq)

theorem mayPrecede (h : Declarable (p :: ps)) (hq : q ∈ ps) : p.kind.mayPrecede q.kind = true :=
  (List.pairwise_cons.1 h.ordered).1 q hq

/-- Parameters are known by their names. -/
theorem eq_of_name_eq (h : Declarable ps) (hp : ps[i]? = some p) (hq : ps[j]? = some q)
    (hname : p.name = q.name) : i = j := by
  have hi : i < (ps.map Parameter.name).length := by
    obtain ⟨hi, -⟩ := List.getElem?_eq_some_iff.1 hp
    simpa using hi
  refine (List.getElem?_inj hi h.nodup).1 ?_
  rw [List.getElem?_map, List.getElem?_map, hp, hq, Option.map_some, Option.map_some, hname]

theorem eq_of_mem (h : Declarable ps) (hp : p ∈ ps) (hq : q ∈ ps) (hname : p.name = q.name) :
    p = q := by
  obtain ⟨i, hi⟩ := List.getElem?_of_mem hp
  obtain ⟨j, hj⟩ := List.getElem?_of_mem hq
  obtain rfl := h.eq_of_name_eq hi hj hname
  exact Option.some.inj (hi.symm.trans hj)

theorem mayPrecede_of_lt (h : Declarable ps) (hp : ps[i]? = some p) (hq : ps[j]? = some q)
    (hlt : i < j) : p.kind.mayPrecede q.kind = true := by
  obtain ⟨hi, rfl⟩ := List.getElem?_eq_some_iff.1 hp
  obtain ⟨hj, rfl⟩ := List.getElem?_eq_some_iff.1 hq
  exact List.pairwise_iff_getElem.1 h.ordered i j hi hj hlt

/-- Only one parameter takes all further arguments by keyword. -/
theorem eq_of_keywords (h : Declarable ps) (hp : p ∈ ps) (hq : q ∈ ps)
    (hkind : p.kind = .keywords) (hkind' : q.kind = .keywords) : p = q := by
  obtain ⟨i, hi⟩ := List.getElem?_of_mem hp
  obtain ⟨j, hj⟩ := List.getElem?_of_mem hq
  rcases Nat.lt_trichotomy i j with hlt | rfl | hlt
  · have hprecede := h.mayPrecede_of_lt hi hj hlt
    grind
  · exact Option.some.inj (hi.symm.trans hj)
  · have hprecede := h.mayPrecede_of_lt hj hi hlt
    grind

end Declarable

/-- The parameters take a number of arguments by position. -/
def HasRoom (ps : List Parameter) (count : Nat) : Prop :=
  count ≤ ps.countP (·.kind.takesPosition) ∨ ∃ p ∈ ps, p.kind = .variadic

theorem hasRoom_cons_succ {p : Parameter} {ps : List Parameter} {count : Nat}
    (hkind : p.kind.takesPosition = true) :
    HasRoom (p :: ps) (count + 1) ↔ HasRoom ps count := by
  have hvariadic : p.kind ≠ .variadic := by grind
  simp [HasRoom, hkind, hvariadic]

/-- Behind a parameter that takes no argument by position there is none that takes one. -/
theorem Declarable.not_hasRoom {p : Parameter} {ps : List Parameter} {count : Nat}
    (h : Declarable (p :: ps)) (hkind : p.kind = .keywordOnly ∨ p.kind = .keywords)
    (hcount : 0 < count) : ¬ HasRoom (p :: ps) count := by
  have hbehind : ∀ q ∈ p :: ps, q.kind = .keywordOnly ∨ q.kind = .keywords := by
    refine List.forall_mem_cons.2 ⟨hkind, fun q hq => ?_⟩
    have hprecede := h.mayPrecede hq
    grind
  have hnone : (p :: ps).countP (·.kind.takesPosition) = 0 :=
    List.countP_eq_zero.2 fun q hq => by grind
  rintro (hfew | ⟨q, hq, hvariadic⟩)
  · omega
  · grind

namespace Call

variable {c : Call} {p q : Parameter} {ps left : List Parameter} {place : Nat} {b : Bound}
  {keywords others : OrderedMap Value} {vs : List Value} {assigned : Assignment}

/-- One more parameter is assigned to if the others are. -/
theorem cons_eq_ok_iff {β : Type} {x : Except BindingFault (Assignment × β)}
    {first : Text × Bound} {rest : β} :
    (do let (others, behind) ← x; return (first :: others, behind)) = .ok (assigned, rest) ↔
      ∃ others, x = .ok (others, rest) ∧ first :: others = assigned := by
  simp [except_bind_eq_ok_iff, pure, Except.pure]

/-! ## Arguments by position -/

/-- What the arguments by position give to the parameter at a place. -/
def givenByPosition (vs : List Value) (place : Nat) (p : Parameter) : Option Bound :=
  match p.kind with
  | .positionalOnly | .positional => vs[place]?.map .one
  | .variadic => if place < vs.length then some (.rest (vs.drop place)) else none
  | .keywordOnly | .keywords => none

/-- The arguments by position go to the parameters at their places, and the other parameters are
left. -/
structure AssignsPositional (keywords : OrderedMap Value) (vs : List Value) (ps : List Parameter)
    (assigned : Assignment) (left : List Parameter) : Prop where
  room : HasRoom ps vs.length
  subset : left.Sublist ps
  lookup : ∀ place p, ps[place]? = some p →
    assigned.lookup p.name = givenByPosition vs place p
  mem_left : ∀ place p, ps[place]? = some p → p.kind ≠ .variadic →
    (p ∈ left ↔ givenByPosition vs place p = none)
  once : ∀ place p, ps[place]? = some p → p.kind = .positional → place < vs.length →
    keywords.get? p.name = none

theorem givenByPosition_nil (place : Nat) (p : Parameter) : givenByPosition [] place p = none := by
  unfold givenByPosition
  split <;> simp

theorem givenByPosition_succ (v : Value) (vs : List Value) (place : Nat) (p : Parameter) :
    givenByPosition (v :: vs) (place + 1) p = givenByPosition vs place p := by
  unfold givenByPosition
  split <;> simp

theorem givenByPosition_zero {v : Value} (h : p.kind.takesPosition = true) :
    givenByPosition (v :: vs) 0 p = some (.one v) := by
  unfold givenByPosition
  split <;> simp_all [ParameterKind.takesPosition]

/-- What holds at every place holds at the first and at every place behind it. -/
theorem forall_place_cons {P : Nat → Parameter → Prop} :
    (∀ place q, (p :: ps)[place]? = some q → P place q) ↔
      P 0 p ∧ ∀ place q, ps[place]? = some q → P (place + 1) q := by
  constructor
  · intro h
    exact ⟨h 0 p rfl, fun place q hq => h (place + 1) q hq⟩
  · rintro ⟨hfirst, hrest⟩ (_ | place) q hq
    · obtain rfl : p = q := by simpa using hq
      exact hfirst
    · exact hrest place q hq

namespace AssignsPositional

/-- Without arguments by position all parameters are left, but perhaps for one that takes all
further ones. -/
theorem nil (hsub : left.Sublist ps) (hleft : ∀ p ∈ ps, p.kind ≠ .variadic → p ∈ left) :
    AssignsPositional keywords [] ps [] left where
  room := .inl (Nat.zero_le _)
  subset := hsub
  lookup place p _ := (givenByPosition_nil place p).symm
  mem_left place p hp hkind := by
    simp [givenByPosition_nil, hleft p (List.mem_of_getElem? hp) hkind]
  once place p _ _ hlt := absurd hlt (Nat.not_lt_zero place)

/-- A parameter that takes the first argument. -/
theorem cons {v : Value} (hps : Declarable (p :: ps)) (hkind : p.kind.takesPosition = true)
    (honce : p.kind = .positional → keywords.get? p.name = none)
    (h : AssignsPositional keywords vs ps assigned left) :
    AssignsPositional keywords (v :: vs) (p :: ps) ((p.name, .one v) :: assigned) left where
  room := (hasRoom_cons_succ hkind).2 h.room
  subset := h.subset.cons p
  lookup := by
    refine forall_place_cons.2 ⟨?_, fun place q hq => ?_⟩
    · rw [List.lookup_cons_self, givenByPosition_zero hkind]
    · have hname := hps.name_ne (List.mem_of_getElem? hq)
      rw [givenByPosition_succ, ← h.lookup place q hq]
      grind
  mem_left := by
    refine forall_place_cons.2 ⟨fun _ => ?_, fun place q hq => ?_⟩
    · have hnot : p ∉ left := fun hmem => hps.name_ne (h.subset.subset hmem) rfl
      simp [givenByPosition_zero hkind, hnot]
    · rw [givenByPosition_succ]
      exact h.mem_left place q hq
  once := by
    refine forall_place_cons.2 ⟨fun hpositional _ => honce hpositional, ?_⟩
    intro place q hq hpositional hlt
    exact h.once place q hq hpositional (Nat.lt_of_succ_lt_succ hlt)

/-- A parameter that takes all further arguments. No parameter behind it takes one by position. -/
theorem variadic {v : Value} (hps : Declarable (p :: ps)) (hkind : p.kind = .variadic) :
    AssignsPositional keywords (v :: vs) (p :: ps) [(p.name, .rest (v :: vs))] ps := by
  have hbehind : ∀ q ∈ ps, q.kind = .keywordOnly ∨ q.kind = .keywords := by
    intro q hq
    have hprecede := hps.mayPrecede hq
    grind
  constructor
  case room => exact .inr ⟨p, List.mem_cons_self, hkind⟩
  case subset => exact List.sublist_cons_self p ps
  case lookup =>
    refine forall_place_cons.2 ⟨by simp [givenByPosition, hkind], fun place q hq => ?_⟩
    have hname := hps.name_ne (List.mem_of_getElem? hq)
    grind [givenByPosition]
  case mem_left =>
    refine forall_place_cons.2 ⟨fun hvariadic => absurd hkind hvariadic, fun place q hq _ => ?_⟩
    have hmem := List.mem_of_getElem? hq
    grind [givenByPosition]
  case once =>
    refine forall_place_cons.2 ⟨fun hpositional => ?_, fun place q hq hpositional => ?_⟩
    · grind
    · grind

end AssignsPositional

theorem assignsPositional_of_eq_ok (hps : Declarable ps)
    (h : assignPositional keywords vs ps = .ok (assigned, left)) :
    AssignsPositional keywords vs ps assigned left := by
  fun_induction assignPositional keywords vs ps generalizing assigned left
  case case1 =>
    cases h
    exact .nil (List.Sublist.refl _) (by simp)
  case case2 p ps hkind =>
    cases h
    exact .nil (List.sublist_cons_self p _) (by simp_all)
  case case4 | case5 =>
    cases h
    exact .nil (List.Sublist.refl _) (fun p hp _ => hp)
  case case10 v vs p ps hkind =>
    cases h
    exact .variadic hps hkind
  case case11 v vs p ps hkind ih =>
    obtain ⟨others, hothers, rfl⟩ := cons_eq_ok_iff.1 h
    exact .cons hps (by grind) (by grind) (ih hps.tail hothers)
  case case13 v vs p ps hkind honce ih =>
    obtain ⟨others, hothers, rfl⟩ := cons_eq_ok_iff.1 h
    exact .cons hps (by grind) (fun _ => by simpa [OrderedMap.contains] using honce)
      (ih hps.tail hothers)
  all_goals cases h

/-! ## Arguments by keyword -/

/-- The arguments by keyword that no parameter has the name of. -/
def furtherKeywords (keywords : OrderedMap Value) (ps : List Parameter) : List (Text × Value) :=
  keywords.entries.filter fun e => !ps.any fun p => p.kind.takesKeyword && p.name == e.1

/-- The arguments by keyword go to the parameters of their names, and the others are left over. -/
structure AssignsKeywords (keywords : OrderedMap Value) (ps : List Parameter)
    (assigned : Assignment) (others : OrderedMap Value) : Prop where
  lookup : ∀ p ∈ ps, p.kind.takesKeyword = true →
    assigned.lookup p.name = (keywords.get? p.name).map .one
  lookup_eq_none : ∀ name, (∀ p ∈ ps, p.kind.takesKeyword = true → p.name ≠ name) →
    assigned.lookup name = none
  once : ∀ p ∈ ps, p.kind = .positionalOnly → keywords.get? p.name = none
  default : ∀ p ∈ ps, p.kind ≠ .variadic → p.kind ≠ .keywords → keywords.get? p.name = none →
    p.default.isSome = true
  others : others.entries = furtherKeywords keywords ps

theorem furtherKeywords_cons (habsent : p.kind.takesKeyword = true → keywords.get? p.name = none) :
    furtherKeywords keywords (p :: ps) = furtherKeywords keywords ps := by
  refine List.filter_congr fun e he => ?_
  have hsome : keywords.get? e.1 = some e.2 := keywords.get?_eq_some_iff.2 he
  grind

theorem furtherKeywords_erase (hkind : p.kind.takesKeyword = true) :
    furtherKeywords (keywords.erase p.name) ps = furtherKeywords keywords (p :: ps) := by
  rw [furtherKeywords, OrderedMap.erase, List.filter_filter]
  refine List.filter_congr fun e _ => ?_
  grind

namespace AssignsKeywords

/-- A parameter that no argument by keyword is for. -/
theorem skip (hps : Declarable (p :: ps))
    (habsent : p.kind ≠ .variadic → p.kind ≠ .keywords →
      keywords.get? p.name = none ∧ p.default.isSome = true)
    (h : AssignsKeywords keywords ps assigned others) :
    AssignsKeywords keywords (p :: ps) assigned others where
  lookup := by
    refine List.forall_mem_cons.2 ⟨fun hkind => ?_, h.lookup⟩
    rw [(habsent (by grind) (by grind)).1]
    exact h.lookup_eq_none p.name fun q hq _ => (hps.name_ne hq).symm
  lookup_eq_none name hname := h.lookup_eq_none name (List.forall_mem_cons.1 hname).2
  once := List.forall_mem_cons.2 ⟨fun hkind => (habsent (by grind) (by grind)).1, h.once⟩
  default := List.forall_mem_cons.2 ⟨fun hv hk _ => (habsent hv hk).2, h.default⟩
  others := by
    rw [h.others, furtherKeywords_cons fun hkind => (habsent (by grind) (by grind)).1]

/-- A parameter that the first argument of its name is for. -/
theorem cons {v : Value} (hps : Declarable (p :: ps)) (hkind : p.kind.takesKeyword = true)
    (hv : keywords.get? p.name = some v)
    (h : AssignsKeywords (keywords.erase p.name) ps assigned others) :
    AssignsKeywords keywords (p :: ps) ((p.name, .one v) :: assigned) others := by
  have herase : ∀ q ∈ ps, (keywords.erase p.name).get? q.name = keywords.get? q.name := by
    intro q hq
    rw [OrderedMap.get?_erase, if_neg (hps.name_ne hq).symm]
  constructor
  case lookup =>
    refine List.forall_mem_cons.2 ⟨fun _ => by simp [hv], fun q hq hq' => ?_⟩
    have hname := hps.name_ne hq
    rw [← herase q hq, ← h.lookup q hq hq']
    grind
  case lookup_eq_none =>
    intro name hname
    obtain ⟨hp, hrest⟩ := List.forall_mem_cons.1 hname
    have hnot := hp hkind
    have hnone := h.lookup_eq_none name hrest
    grind
  case once =>
    refine List.forall_mem_cons.2 ⟨by grind, fun q hq hq' => ?_⟩
    rw [← herase q hq, h.once q hq hq']
  case default =>
    refine List.forall_mem_cons.2 ⟨by simp [hv], fun q hq hvariadic hkeywords hnone => ?_⟩
    exact h.default q hq hvariadic hkeywords (by rw [herase q hq, hnone])
  case others => rw [h.others, furtherKeywords_erase hkind]

end AssignsKeywords

theorem assignsKeywords_of_eq_ok (hps : Declarable ps)
    (h : assignKeywords keywords ps = .ok (assigned, others)) :
    AssignsKeywords keywords ps assigned others := by
  fun_induction assignKeywords keywords ps generalizing assigned others
  case case1 keywords =>
    cases h
    constructor
    case others => exact (List.filter_eq_self.2 fun e _ => rfl).symm
    all_goals simp
  case case2 keywords p ps hkind ih | case3 keywords p ps hkind ih =>
    exact .skip hps (by grind) (ih hps.tail h)
  case case5 keywords p ps habsent hdefault _ _ ih =>
    refine .skip hps (fun _ _ => ⟨habsent, ?_⟩) (ih hps.tail h)
    simpa [Option.isSome_iff_ne_none] using hdefault
  case case7 keywords p ps v hv hnot hnot' hnot'' ih =>
    obtain ⟨others, hothers, rfl⟩ := cons_eq_ok_iff.1 h
    have hkind : p.kind.takesKeyword = true := by
      cases hkind : p.kind <;> simp_all [ParameterKind.takesKeyword]
    exact .cons hps hkind hv (ih hps.tail hothers)
  all_goals cases h

/-! ## What a call gives -/

/-- The arguments by keyword that no parameter takes by its name. -/
def further (c : Call) (ps : List Parameter) : List (Text × Value) :=
  furtherKeywords c.keywords ps

/-- No argument by position is for the parameter at the place. -/
def Omits (c : Call) (place : Nat) (p : Parameter) : Prop :=
  p.kind.takesPosition = true → c.positional.length ≤ place

/-- What the parameter at a place receives: the argument by position at that place, or else the
argument by keyword under its name, or else its default; or all arguments that are left. -/
inductive Receives (c : Call) (ps : List Parameter) (place : Nat) (p : Parameter) : Bound → Prop
  | position {v : Value} (kind : p.kind.takesPosition = true)
    (given : c.positional[place]? = some v)
    (once : p.kind.takesKeyword = true → c.keywords.get? p.name = none) :
    Receives c ps place p (.one v)
  | keyword {v : Value} (kind : p.kind.takesKeyword = true) (omitted : c.Omits place p)
    (given : c.keywords.get? p.name = some v) : Receives c ps place p (.one v)
  | default {v : Value} (omitted : c.Omits place p) (absent : c.keywords.get? p.name = none)
    (kind : p.kind ≠ .variadic ∧ p.kind ≠ .keywords) (given : p.default = some v) :
    Receives c ps place p (.one v)
  | rest (kind : p.kind = .variadic) : Receives c ps place p (.rest (c.positional.drop place))
  | named (kind : p.kind = .keywords) : Receives c ps place p (.named (c.further ps))

/-- No argument is left over: there are parameters enough for the arguments by position, and a
parameter for every argument by keyword. -/
structure Fits (c : Call) (ps : List Parameter) : Prop where
  positional : HasRoom ps c.positional.length
  keywords : c.further ps = [] ∨ ∃ p ∈ ps, p.kind = .keywords

/-- No argument is left over, and each parameter is listed with what it receives. -/
structure Binds (c : Call) (ps : List Parameter) (bound : List (Parameter × Bound)) : Prop where
  fits : c.Fits ps
  parameters : bound.map Prod.fst = ps
  receives : ∀ place p b, bound[place]? = some (p, b) → c.Receives ps place p b

/-- A parameter receives one thing only. -/
theorem Receives.unique {b' : Bound} (h : c.Receives ps place p b)
    (h' : c.Receives ps place p b') : b = b' := by
  cases h <;> cases h' <;> grind [Omits]

/-! ## What binding gives -/

variable {rest byPosition byKeyword : Assignment} {bound : List (Parameter × Bound)}

/-- What a parameter receives if the arguments are assigned so. -/
def receivedFrom (assigned : Assignment) (p : Parameter) : Option Bound :=
  (assigned.lookup p.name).orElse fun _ => defaultFor p

theorem assignRest_eq_ok_iff :
    assignRest others left = .ok rest ↔
      others.entries = [] ∧ rest = [] ∨
        others.entries ≠ [] ∧ ∃ p, left.find? (·.kind = .keywords) = some p ∧
          rest = [(p.name, .named others.entries)] := by
  unfold assignRest
  split <;> grind

/-- A parameter whose name is among the keywords is left by the arguments by position. -/
theorem AssignsPositional.mem_left_of_takesKeyword
    (h : AssignsPositional keywords vs ps assigned left) (hp : ps[place]? = some p)
    (hkind : p.kind.takesKeyword = true) (hgiven : keywords.get? p.name ≠ none) : p ∈ left := by
  have honce := h.once place p hp
  refine (h.mem_left place p hp (by grind)).2 ?_
  cases hk : p.kind <;> grind [givenByPosition]

theorem AssignsPositional.furtherKeywords_eq
    (h : AssignsPositional keywords vs ps assigned left) :
    furtherKeywords keywords left = furtherKeywords keywords ps := by
  refine List.filter_congr fun e he => congrArg not (Bool.eq_iff_iff.2 ?_)
  have hgiven : keywords.get? e.1 = some e.2 := keywords.get?_eq_some_iff.2 he
  simp only [List.any_eq_true, Bool.and_eq_true, beq_iff_eq]
  constructor
  · rintro ⟨p, hp, hkind, hname⟩
    exact ⟨p, h.subset.subset hp, hkind, hname⟩
  · rintro ⟨p, hp, hkind, hname⟩
    obtain ⟨place, hplace⟩ := List.getElem?_of_mem hp
    exact ⟨p, h.mem_left_of_takesKeyword hplace hkind (by simp [hname, hgiven]), hkind, hname⟩

/-- The arguments that are left over go to the parameter for them. -/
theorem lookup_assignRest (hps : Declarable ps) (hsub : left ⊆ ps) (hp : p ∈ ps)
    (hrest : assignRest others left = .ok rest) :
    rest.lookup p.name =
      if p.kind = .keywords ∧ others.entries ≠ [] then some (.named others.entries) else none := by
  obtain ⟨hempty, rfl⟩ | ⟨hsome, q, hq, rfl⟩ := assignRest_eq_ok_iff.1 hrest
  · simp [hempty]
  · have hkind : q.kind = .keywords := by simpa using List.find?_some hq
    have hmem : q ∈ ps := hsub (List.mem_of_find?_eq_some hq)
    by_cases hpq : p.kind = .keywords
    · obtain rfl := hps.eq_of_keywords hp hmem hpq hkind
      simp [hpq, hsome]
    · have hname : p.name ≠ q.name := fun hname => hpq (hps.eq_of_mem hp hmem hname ▸ hkind)
      simp [hpq, hname]

/-- A parameter for one argument has been given one by position, or is left. -/
theorem AssignsPositional.given_or_left (h : AssignsPositional keywords vs ps assigned left)
    (hp : ps[place]? = some p) (hvariadic : p.kind ≠ .variadic) (hkeywords : p.kind ≠ .keywords) :
    (∃ v, assigned.lookup p.name = some (.one v) ∧ p.kind.takesPosition = true ∧
        vs[place]? = some v ∧ (p.kind.takesKeyword = true → keywords.get? p.name = none)) ∨
      assigned.lookup p.name = none ∧ p ∈ left ∧
        (p.kind.takesPosition = true → vs.length ≤ place) := by
  have honce := h.once place p hp
  have hleft := h.mem_left place p hp hvariadic
  rw [h.lookup place p hp]
  cases hkind : p.kind <;> cases hgiven : vs[place]? <;>
    grind [givenByPosition]

theorem AssignsKeywords.lookup_of_not_takesKeyword
    (h : AssignsKeywords keywords left assigned others) (hps : Declarable ps) (hsub : left ⊆ ps)
    (hp : p ∈ ps) (hkind : p.kind.takesKeyword = false) : assigned.lookup p.name = none := by
  refine h.lookup_eq_none p.name fun q hq hq' hname => ?_
  rw [hps.eq_of_mem (hsub hq) hp hname, hkind] at hq'
  cases hq'

/-- A parameter for one argument that is left has been given one by keyword, or has a default. -/
theorem AssignsKeywords.given_or_default (h : AssignsKeywords keywords ps assigned others)
    (hps : Declarable ps) (hp : p ∈ ps) (hvariadic : p.kind ≠ .variadic)
    (hkeywords : p.kind ≠ .keywords) :
    (∃ v, assigned.lookup p.name = some (.one v) ∧ p.kind.takesKeyword = true ∧
        keywords.get? p.name = some v) ∨
      assigned.lookup p.name = none ∧ keywords.get? p.name = none ∧ ∃ v, p.default = some v := by
  have honce := h.once p hp
  have hdefault := h.default p hp hvariadic hkeywords
  have hlookup := h.lookup p hp
  have hnone := h.lookup_of_not_takesKeyword hps (List.Subset.refl _) hp
  cases hkind : p.kind <;> cases hgiven : keywords.get? p.name <;> grind [Option.isSome_iff_exists]

/-- Whatever the three passes over the parameters assign, each parameter receives what the call
gives to it. -/
theorem receives_of_assigned (hps : Declarable ps)
    (hposition : AssignsPositional c.keywords c.positional ps byPosition left)
    (hkeyword : AssignsKeywords c.keywords left byKeyword others)
    (hrest : assignRest others left = .ok rest) (hp : ps[place]? = some p) :
    ∃ b, receivedFrom (byPosition ++ byKeyword ++ rest) p = some b ∧
      c.Receives ps place p b := by
  have hmem : p ∈ ps := List.mem_of_getElem? hp
  have hsub := hposition.subset.subset
  have hnamed := lookup_assignRest hps hsub hmem hrest
  have hothers : others.entries = c.further ps := by
    rw [hkeyword.others, hposition.furtherKeywords_eq, further]
  simp only [receivedFrom, List.lookup_append]
  by_cases hvariadic : p.kind = .variadic
  · have hunnamed := hkeyword.lookup_of_not_takesKeyword hps hsub hmem (by grind)
    have hplain := hps.plain p hmem (.inl hvariadic)
    refine ⟨.rest (c.positional.drop place), ?_, .rest hvariadic⟩
    rw [hposition.lookup place p hp, hunnamed, hnamed]
    by_cases hlt : place < c.positional.length
    · simp [givenByPosition, hvariadic, hlt]
    · simp [givenByPosition, hvariadic, hlt, defaultFor, hplain]
      omega
  by_cases hkeywords : p.kind = .keywords
  · have hunnamed := hkeyword.lookup_of_not_takesKeyword hps hsub hmem (by grind)
    have hplain := hps.plain p hmem (.inr hkeywords)
    refine ⟨.named (c.further ps), ?_, .named hkeywords⟩
    rw [hposition.lookup place p hp, hunnamed, hnamed, hothers]
    by_cases hempty : c.further ps = []
    · simp [givenByPosition, hkeywords, hempty, defaultFor, hplain]
    · simp [givenByPosition, hkeywords, hempty]
  obtain ⟨v, hlookup, htakes, hgiven, honce⟩ | ⟨hlookup, hleft, homits⟩ :=
    hposition.given_or_left hp hvariadic hkeywords
  · exact ⟨.one v, by simp [hlookup], .position htakes hgiven honce⟩
  obtain ⟨v, hlookup', htakes, hgiven⟩ | ⟨hlookup', habsent, v, hdefault⟩ :=
    hkeyword.given_or_default (hps.sublist hposition.subset) hleft hvariadic hkeywords
  · exact ⟨.one v, by simp [hlookup, hlookup'], .keyword htakes homits hgiven⟩
  · exact ⟨.one v, by simp [hlookup, hlookup', hnamed, hkeywords, defaultFor, hdefault],
      .default homits habsent ⟨hvariadic, hkeywords⟩ hdefault⟩

/-! ## When binding succeeds -/

variable {all : List Parameter}

/-- Behind a parameter that takes the first argument the places are counted from the next one. -/
theorem Receives.of_succ {v : Value} (h : Receives ⟨v :: vs, keywords⟩ all (place + 1) p b) :
    Receives ⟨vs, keywords⟩ all place p b := by
  cases h with
  | position kind given once => exact .position kind (by simpa using given) once
  | keyword kind omitted given =>
    exact .keyword kind (fun htakes => Nat.le_of_succ_le_succ (omitted htakes)) given
  | default omitted absent kind given =>
    exact .default (fun htakes => Nat.le_of_succ_le_succ (omitted htakes)) absent kind given
  | rest kind => exact .rest kind
  | named kind => exact .named kind

theorem exists_assignPositional_eq_ok (hps : Declarable ps) (hroom : HasRoom ps vs.length)
    (h : ∀ place p, ps[place]? = some p → ∃ b, Receives ⟨vs, keywords⟩ all place p b) :
    ∃ assigned left, assignPositional keywords vs ps = .ok (assigned, left) := by
  fun_induction assignPositional keywords vs ps
  case case1 | case2 | case4 | case5 | case10 => exact ⟨_, _, rfl⟩
  case case3 p ps _ hgiven hkind =>
    obtain ⟨b, hb⟩ := h 0 p rfl
    cases hb <;> grind [OrderedMap.contains]
  case case6 p ps hvariadic hgiven hplain =>
    obtain ⟨b, hb⟩ := h 0 p rfl
    cases hb <;> grind [OrderedMap.contains]
  case case7 => simp [HasRoom] at hroom
  case case8 hkind => exact absurd hroom (hps.not_hasRoom (.inr hkind) (Nat.succ_pos _))
  case case9 hkind => exact absurd hroom (hps.not_hasRoom (.inl hkind) (Nat.succ_pos _))
  case case11 v vs p ps hkind ih =>
    obtain ⟨assigned, left, hassigned⟩ := ih hps.tail ((hasRoom_cons_succ (by grind)).1 hroom)
      fun place q hq => (h (place + 1) q hq).imp fun _ => .of_succ
    exact ⟨_, left, cons_eq_ok_iff.2 ⟨assigned, hassigned, rfl⟩⟩
  case case12 v vs p ps hkind hgiven =>
    obtain ⟨b, hb⟩ := h 0 p rfl
    cases hb <;> grind [OrderedMap.contains, Omits]
  case case13 v vs p ps hkind _ ih =>
    obtain ⟨assigned, left, hassigned⟩ := ih hps.tail ((hasRoom_cons_succ (by grind)).1 hroom)
      fun place q hq => (h (place + 1) q hq).imp fun _ => .of_succ
    exact ⟨_, left, cons_eq_ok_iff.2 ⟨assigned, hassigned, rfl⟩⟩

/-- A parameter that is left has an argument by keyword or a default, or takes further ones. -/
def Supplied (keywords : OrderedMap Value) (p : Parameter) : Prop :=
  p.kind = .variadic ∨ p.kind = .keywords ∨
    (p.kind.takesKeyword = true ∧ ∃ v, keywords.get? p.name = some v) ∨
    (keywords.get? p.name = none ∧ ∃ v, p.default = some v)

theorem exists_assignKeywords_eq_ok (hps : Declarable ps) (h : ∀ p ∈ ps, Supplied keywords p) :
    ∃ assigned others, assignKeywords keywords ps = .ok (assigned, others) := by
  fun_induction assignKeywords keywords ps
  case case1 => exact ⟨_, _, rfl⟩
  case case2 ih | case3 ih => exact ih hps.tail (List.forall_mem_cons.1 h).2
  case case4 keywords p ps hnone hdefault hkeywords hvariadic =>
    have hp := (List.forall_mem_cons.1 h).1
    grind [Supplied]
  case case5 ih => exact ih hps.tail (List.forall_mem_cons.1 h).2
  case case6 keywords p ps v hv hkeywords hvariadic hkind =>
    have hp := (List.forall_mem_cons.1 h).1
    grind [Supplied]
  case case7 keywords p ps v hv hnot hnot' hnot'' ih =>
    obtain ⟨assigned, others, hassigned⟩ := ih hps.tail fun q hq => by
      have hq' := (List.forall_mem_cons.1 h).2 q hq
      have hname := hps.name_ne hq
      rw [Supplied, OrderedMap.get?_erase, if_neg hname.symm]
      exact hq'
    exact ⟨_, others, cons_eq_ok_iff.2 ⟨assigned, hassigned, rfl⟩⟩

theorem supplied_of_receives (h : AssignsPositional c.keywords c.positional ps assigned left)
    (hp : ps[place]? = some p) (hleft : p ∈ left) (hb : c.Receives all place p b) :
    Supplied c.keywords p := by
  have hnone := h.mem_left place p hp
  cases hb with
  | position kind given once =>
    have hkind : p.kind ≠ .variadic := by grind
    have habsent := (hnone hkind).1 hleft
    cases hk : p.kind <;> grind [givenByPosition]
  | keyword kind _ given => exact .inr (.inr (.inl ⟨kind, _, given⟩))
  | default _ absent _ given => exact .inr (.inr (.inr ⟨absent, _, given⟩))
  | rest kind => exact .inl kind
  | named kind => exact .inr (.inl kind)

/-! ## Binding -/

theorem Binds.exists_receives (h : c.Binds ps bound) (hp : ps[place]? = some p) :
    ∃ b, bound[place]? = some (p, b) ∧ c.Receives ps place p b := by
  rw [← h.parameters, List.getElem?_map, Option.map_eq_some_iff] at hp
  obtain ⟨⟨q, b⟩, hbound, rfl⟩ := hp
  exact ⟨b, hbound, h.receives place q b hbound⟩

/-- A call binds in one way only. -/
theorem Binds.unique {bound' : List (Parameter × Bound)} (h : c.Binds ps bound)
    (h' : c.Binds ps bound') : bound = bound' := by
  refine List.ext_getElem? fun place => ?_
  cases hp : ps[place]? with
  | none =>
    have hnone : ∀ {es : List (Parameter × Bound)}, es.map Prod.fst = ps → es[place]? = none := by
      rintro es rfl
      simpa using hp
    rw [hnone h.parameters, hnone h'.parameters]
  | some p =>
    obtain ⟨b, hbound, hb⟩ := h.exists_receives hp
    obtain ⟨b', hbound', hb'⟩ := h'.exists_receives hp
    rw [hbound, hbound', hb.unique hb']

theorem assign_eq_ok_iff :
    c.assign ps = .ok assigned ↔
      ∃ byPosition left byKeyword others rest,
        assignPositional c.keywords c.positional ps = .ok (byPosition, left) ∧
        assignKeywords c.keywords left = .ok (byKeyword, others) ∧
        assignRest others left = .ok rest ∧ byPosition ++ byKeyword ++ rest = assigned := by
  simp [assign, except_bind_eq_ok_iff, pure, Except.pure]

theorem bind_eq_ok_iff_assign :
    c.bind ps = .ok bound ↔ ∃ assigned, c.assign ps = .ok assigned ∧
      ps.filterMap (fun p => (receivedFrom assigned p).map (p, ·)) = bound := by
  simp [bind, receivedFrom, except_bind_eq_ok_iff, pure, Except.pure]

theorem exists_assignRest_eq_ok (h : others.entries = [] ∨ ∃ p ∈ left, p.kind = .keywords) :
    ∃ rest, assignRest others left = .ok rest := by
  simp only [assignRest_eq_ok_iff]
  by_cases hempty : others.entries = []
  · exact ⟨[], .inl ⟨hempty, rfl⟩⟩
  · obtain ⟨p, hp, hkind⟩ := h.resolve_left hempty
    have hfound : (left.find? (·.kind = .keywords)).isSome = true := by
      simpa using ⟨p, hp, hkind⟩
    obtain ⟨q, hq⟩ := Option.isSome_iff_exists.1 hfound
    exact ⟨_, .inr ⟨hempty, q, hq, rfl⟩⟩

theorem fits_of_assigned (hposition : AssignsPositional c.keywords c.positional ps byPosition left)
    (hkeyword : AssignsKeywords c.keywords left byKeyword others)
    (hrest : assignRest others left = .ok rest) : c.Fits ps where
  positional := hposition.room
  keywords := by
    rw [further, ← hposition.furtherKeywords_eq, ← hkeyword.others]
    obtain ⟨hempty, -⟩ | ⟨-, p, hp, -⟩ := assignRest_eq_ok_iff.1 hrest
    · exact .inl hempty
    · have hkind := List.find?_some hp
      exact .inr ⟨p, hposition.subset.subset (List.mem_of_find?_eq_some hp), by simpa using hkind⟩

/-- A call that is bound is bound as the parameters receive. -/
theorem binds_of_bind_eq_ok (hps : Declarable ps) (h : c.bind ps = .ok bound) :
    c.Binds ps bound := by
  obtain ⟨assigned, hassign, rfl⟩ := bind_eq_ok_iff_assign.1 h
  obtain ⟨byPosition, left, byKeyword, others, rest, hposition, hkeyword, hrest, rfl⟩ :=
    assign_eq_ok_iff.1 hassign
  have hposition := assignsPositional_of_eq_ok hps hposition
  have hkeyword := assignsKeywords_of_eq_ok (hps.sublist hposition.subset) hkeyword
  have hreceives : ∀ place p, ps[place]? = some p →
      ∃ b, receivedFrom (byPosition ++ byKeyword ++ rest) p = some b ∧ c.Receives ps place p b :=
    fun place p hp => receives_of_assigned hps hposition hkeyword hrest hp
  have hparameters : (ps.filterMap fun p =>
      (receivedFrom (byPosition ++ byKeyword ++ rest) p).map (p, ·)).map Prod.fst = ps := by
    rw [List.map_filterMap]
    refine (List.filterMap_congr fun p hp => ?_).trans List.filterMap_some
    obtain ⟨place, hplace⟩ := List.getElem?_of_mem hp
    obtain ⟨b, hb, -⟩ := hreceives place p hplace
    rw [hb]
    rfl
  refine ⟨fits_of_assigned hposition hkeyword hrest, hparameters, fun place p b hbound => ?_⟩
  have hp : ps[place]? = some p := by
    rw [← hparameters, List.getElem?_map, hbound]
    rfl
  obtain ⟨b', hb', hreceive⟩ := hreceives place p hp
  obtain ⟨q, -, hq⟩ := List.mem_filterMap.1 (List.mem_of_getElem? hbound)
  obtain ⟨b'', hb'', heq⟩ := Option.map_eq_some_iff.1 hq
  obtain ⟨rfl, rfl⟩ := Prod.mk.inj heq
  obtain rfl := Option.some.inj (hb'.symm.trans hb'')
  exact hreceive

/-- Binding succeeds exactly if no argument is left over and each parameter receives something. -/
theorem bind_eq_ok_iff (hps : Declarable ps) : c.bind ps = .ok bound ↔ c.Binds ps bound := by
  refine ⟨binds_of_bind_eq_ok hps, fun h => ?_⟩
  obtain ⟨byPosition, left, hposition⟩ := exists_assignPositional_eq_ok hps h.fits.positional
    fun place p hp => (h.exists_receives hp).imp fun _ => And.right
  have hassigns := assignsPositional_of_eq_ok hps hposition
  obtain ⟨byKeyword, others, hkeyword⟩ : ∃ byKeyword others,
      assignKeywords c.keywords left = .ok (byKeyword, others) := by
    refine exists_assignKeywords_eq_ok (hps.sublist hassigns.subset) fun p hp => ?_
    obtain ⟨place, hplace⟩ := List.getElem?_of_mem (hassigns.subset.subset hp)
    obtain ⟨b, -, hb⟩ := h.exists_receives hplace
    exact supplied_of_receives hassigns hplace hp hb
  obtain ⟨rest, hrest⟩ : ∃ rest, assignRest others left = .ok rest := by
    refine exists_assignRest_eq_ok (h.fits.keywords.imp (fun hempty => ?_) fun ⟨p, hp, hkind⟩ => ?_)
    · rw [(assignsKeywords_of_eq_ok (hps.sublist hassigns.subset) hkeyword).others,
        hassigns.furtherKeywords_eq]
      exact hempty
    · obtain ⟨place, hplace⟩ := List.getElem?_of_mem hp
      have hleft := hassigns.mem_left place p hplace (by simp [hkind])
      exact ⟨p, hleft.2 (by simp [givenByPosition, hkind]), hkind⟩
  have hbind := bind_eq_ok_iff_assign.2 ⟨_, assign_eq_ok_iff.2
    ⟨byPosition, left, byKeyword, others, rest, hposition, hkeyword, hrest, rfl⟩, rfl⟩
  rw [hbind, (binds_of_bind_eq_ok hps hbind).unique h]

end Call

end RoleGate
