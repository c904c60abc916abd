import Mathlib.Logic.Relation
import RoleGate.Proofs.Guard.Enforcement

/-!
# How a call is written

The same arguments may be given to the same parameters in more ways than one: by position or by
keyword, in this order or that, and by default or explicitly. The parameters receive the same
whichever way is chosen, so a guard cannot be talked round by writing a call in another way.

## Main definitions

* `Call.Respelling` — a call written in another way.
* `Call.Restates` — what all such ways have in common.
* `Guard.Alike` — what a guard sees of two calls is the same.

## Main statements

* `Call.Restates.binds` — the parameters receive the same.
* `Call.exists_byKeyword` — arguments can be given by keyword in any order.
* `Guard.check_eq_of_respelled` — a guard treats the call as before.
-/

namespace RoleGate

namespace OrderedMap

variable {α : Type} {m n : OrderedMap α} {extra : List (Text × α)} {key : Text} {value : α}

/-- A map with some entries more has the values of both. -/
theorem get?_eq_some_iff_of_perm (h : n.entries.Perm (extra ++ m.entries)) :
    n.get? key = some value ↔ (key, value) ∈ extra ∨ m.get? key = some value := by
  rw [get?_eq_some_iff, h.mem_iff, List.mem_append, get?_eq_some_iff]

theorem get?_eq_none_of_perm (h : n.entries.Perm (extra ++ m.entries)) (hm : m.get? key = none)
    (hextra : ∀ e ∈ extra, e.1 ≠ key) : n.get? key = none := by
  refine Option.eq_none_iff_forall_ne_some.2 fun value hvalue => ?_
  obtain hmem | hmem := (get?_eq_some_iff_of_perm h).1 hvalue
  · exact hextra _ hmem rfl
  · rw [hm] at hmem
    cases hmem

end OrderedMap

/-- What a parameter receives, with other arguments for it if it takes all further ones by
keyword. -/
def Bound.withNamed (entries : List (Text × Value)) : Bound → Bound
  | .named _ => .named entries
  | b => b

@[simp] theorem Bound.values_withNamed (entries : List (Text × Value)) (b : Bound) :
    (b.withNamed entries).values = b.values := by
  cases b <;> rfl

theorem HasRoom.mono {ps : List Parameter} {count other : Nat} (h : HasRoom ps count)
    (hle : other ≤ count) : HasRoom ps other :=
  h.imp_left (Nat.le_trans hle)

namespace Call

variable {c c' : Call} {p : Parameter} {ps : List Parameter} {place k : Nat} {b : Bound}
  {bound : List (Parameter × Bound)} {extra : List (Text × Value)}

/-! ## Ways to write a call -/

/-- The arguments by position from a place on, each under the name of the parameter at its place. -/
def namedFrom (c : Call) (ps : List Parameter) (k : Nat) : List (Text × Value) :=
  ((ps.map Parameter.name).zip c.positional).drop k

/-- The arguments by position from a place on can be given by keyword. -/
def Renamable (c : Call) (ps : List Parameter) (k : Nat) : Prop :=
  ∀ place, k ≤ place → place < c.positional.length →
    ∃ p, ps[place]? = some p ∧ p.kind = .positional

/-- The same call in another way: the last arguments by position, all for parameters that can be
given either way, are given by keyword, or a default that applies is given by keyword. The arguments
by keyword come in any order. -/
inductive Respelling (ps : List Parameter) : Call → Call → Prop
  | byKeyword {c c' : Call} (k : Nat) (fills : c.Renamable ps k)
    (positional : c'.positional = c.positional.take k)
    (keywords : c'.keywords.entries.Perm (c.namedFrom ps k ++ c.keywords.entries)) :
    Respelling ps c c'
  | explicitDefault {c c' : Call} {place : Nat} {p : Parameter} {v : Value}
    (declared : ps[place]? = some p) (kind : p.kind.takesKeyword = true)
    (omitted : c.Omits place p) (absent : c.keywords.get? p.name = none)
    (default : p.default = some v) (positional : c'.positional = c.positional)
    (keywords : c'.keywords.entries.Perm ((p.name, v) :: c.keywords.entries)) :
    Respelling ps c c'

/-- The second call gives some entries more by keyword, for parameters that receive the same from
the first call, and it gives no more by position than what comes before a place. -/
structure Restates (ps : List Parameter) (k : Nat) (extra : List (Text × Value)) (c c' : Call) :
    Prop where
  positional : c'.positional = c.positional.take k
  keywords : c'.keywords.entries.Perm (extra ++ c.keywords.entries)
  fills : c.Renamable ps k
  moved : ∀ place p v, k ≤ place → ps[place]? = some p → c.positional[place]? = some v →
    (p.name, v) ∈ extra
  given : ∀ e ∈ extra, ∃ place p, ps[place]? = some p ∧ p.name = e.1 ∧
    p.kind.takesKeyword = true ∧ c'.Omits place p ∧ c.Receives ps place p (.one e.2)

namespace Restates

variable (h : Restates ps k extra c c') (hps : Declarable ps)
include h

theorem length_le : c'.positional.length ≤ c.positional.length := by
  rw [h.positional, List.length_take]
  exact Nat.min_le_right _ _

theorem omits (hc : c.Omits place p) : c'.Omits place p := fun hkind =>
  Nat.le_trans h.length_le (hc hkind)

theorem get?_eq_some_of_mem {e : Text × Value} (he : e ∈ extra) :
    c'.keywords.get? e.1 = some e.2 :=
  (OrderedMap.get?_eq_some_iff_of_perm h.keywords).2 (.inl he)

include hps

/-- What is given by keyword was received before, by a parameter that no argument by position is
for any longer. -/
theorem given_of_name_eq (hp : ps[place]? = some p) {e : Text × Value} (he : e ∈ extra)
    (hname : e.1 = p.name) :
    p.kind.takesKeyword = true ∧ c'.Omits place p ∧ c.Receives ps place p (.one e.2) := by
  obtain ⟨other, q, hq, hqname, hkind, homits, hreceives⟩ := h.given e he
  obtain rfl := hps.eq_of_name_eq hq hp (hqname.trans hname)
  obtain rfl := Option.some.inj (hq.symm.trans hp)
  exact ⟨hkind, homits, hreceives⟩

/-- The arguments that one parameter takes all of are still there. -/
theorem drop_eq (hp : ps[place]? = some p) (hkind : p.kind = .variadic) :
    c'.positional.drop place = c.positional.drop place := by
  rw [h.positional]
  by_cases hk : c.positional.length ≤ k
  · rw [List.take_of_length_le hk]
  -- the parameter at place `k` takes one argument, so this one stands behind it and has none left
  obtain ⟨q, hq, hpositional⟩ := h.fills k (Nat.le_refl k) (by omega)
  have hle : k ≤ place := by
    by_contra hlt
    have hprecede := hps.mayPrecede_of_lt hp hq (by omega)
    grind
  have hlength : c.positional.length ≤ place := by
    by_contra hlt
    obtain ⟨q, hq, hpositional⟩ := h.fills place hle (by omega)
    grind
  rw [List.drop_eq_nil_of_le hlength, List.drop_eq_nil_of_le]
  exact Nat.le_trans (List.length_take_le k _) hle

/-- Each parameter receives what it received before, in the order of the new call if it takes all
further arguments by keyword. -/
theorem receives (hp : ps[place]? = some p) (hb : c.Receives ps place p b) :
    c'.Receives ps place p (b.withNamed (c'.further ps)) := by
  cases hb with
  | rest kind =>
    rw [← h.drop_eq hps hp kind]
    exact .rest kind
  | named kind => exact .named kind
  | keyword kind omitted given =>
    exact .keyword kind (h.omits omitted)
      ((OrderedMap.get?_eq_some_iff_of_perm h.keywords).2 (.inr given))
  | @default v omitted absent kind given =>
    by_cases hextra : ∃ e ∈ extra, e.1 = p.name
    · obtain ⟨e, he, hname⟩ := hextra
      obtain ⟨htakes, homits, hreceives⟩ := h.given_of_name_eq hps hp he hname
      have hvalue : Bound.one e.2 = .one v := hreceives.unique (.default omitted absent kind given)
      rw [← hvalue]
      exact .keyword htakes homits (hname ▸ h.get?_eq_some_of_mem he)
    · refine .default (h.omits omitted) ?_ kind given
      exact OrderedMap.get?_eq_none_of_perm h.keywords absent fun e he hname =>
        hextra ⟨e, he, hname⟩
  | @position v kind given once =>
    by_cases hplace : place < k
    · have hgiven : c'.positional[place]? = some v := by
        rw [h.positional, List.getElem?_take_of_lt hplace, given]
      refine .position kind hgiven fun htakes => ?_
      refine OrderedMap.get?_eq_none_of_perm h.keywords (once htakes) fun e he hname => ?_
      obtain ⟨hlt, -⟩ := List.getElem?_eq_some_iff.1 hgiven
      have hle := (h.given_of_name_eq hps hp he hname).2.1 kind
      omega
    · have hmem := h.moved place p v (by omega) hp given
      obtain ⟨htakes, homits, -⟩ := h.given_of_name_eq hps hp hmem rfl
      exact .keyword htakes homits (h.get?_eq_some_of_mem hmem)

omit hps in
/-- What is given by keyword has a parameter of its name, so nothing more is left over. -/
theorem further_perm : (c'.further ps).Perm (c.further ps) := by
  have hextra : (furtherKeywords c'.keywords ps).Perm _ := h.keywords.filter _
  have htaken : extra.filter (fun e => !ps.any fun p => p.kind.takesKeyword && p.name == e.1) =
      [] := by
    refine List.filter_eq_nil_iff.2 fun e he => ?_
    obtain ⟨place, p, hp, hname, hkind, -⟩ := h.given e he
    have htakes : (ps.any fun p => p.kind.takesKeyword && p.name == e.1) = true :=
      List.any_eq_true.2 ⟨p, List.mem_of_getElem? hp, by simp [hkind, hname]⟩
    simp [htakes]
  rw [List.filter_append, htaken, List.nil_append] at hextra
  exact hextra

/-- The new call is bound like the old one. -/
theorem binds (hbound : c.Binds ps bound) :
    c'.Binds ps (bound.map fun e => (e.1, e.2.withNamed (c'.further ps))) where
  fits := by
    refine ⟨hbound.fits.positional.mono h.length_le, hbound.fits.keywords.imp_left fun hnone => ?_⟩
    exact List.perm_nil.1 (hnone ▸ h.further_perm)
  parameters := by
    rw [List.map_map]
    exact hbound.parameters
  receives place p b hb := by
    rw [List.getElem?_map] at hb
    obtain ⟨⟨q, b⟩, hb', heq⟩ := Option.map_eq_some_iff.1 hb
    obtain ⟨rfl, rfl⟩ := Prod.mk.inj heq
    have hq : ps[place]? = some q := by
      rw [← hbound.parameters, List.getElem?_map, hb']
      rfl
    exact h.receives hps hq (hbound.receives place q b hb')

end Restates

theorem namedFrom_eq_some_iff {e : Text × Value} {i : Nat} :
    (c.namedFrom ps k)[i]? = some e ↔
      ∃ p, ps[k + i]? = some p ∧ p.name = e.1 ∧ c.positional[k + i]? = some e.2 := by
  obtain ⟨name, v⟩ := e
  rw [namedFrom, List.getElem?_drop, List.getElem?_zip_eq_some, List.getElem?_map]
  simp only [Option.map_eq_some_iff]
  grind

theorem receives_of_mem_namedFrom (hbound : c.Binds ps bound) (hk : c.Renamable ps k)
    {e : Text × Value} (he : e ∈ c.namedFrom ps k) :
    ∃ place p, k ≤ place ∧ ps[place]? = some p ∧ p.name = e.1 ∧ p.kind = .positional ∧
      c.keywords.get? p.name = none ∧ c.Receives ps place p (.one e.2) := by
  obtain ⟨i, hi⟩ := List.getElem?_of_mem he
  obtain ⟨p, hp, hname, hv⟩ := namedFrom_eq_some_iff.1 hi
  obtain ⟨hlt, -⟩ := List.getElem?_eq_some_iff.1 hv
  obtain ⟨q, hq, hkind⟩ := hk (k + i) (Nat.le_add_right k i) hlt
  obtain rfl := Option.some.inj (hp.symm.trans hq)
  obtain ⟨b, -, hb⟩ := hbound.exists_receives hp
  have habsent : c.keywords.get? p.name = none := by
    cases hb <;> grind [Omits]
  exact ⟨k + i, p, Nat.le_add_right k i, hp, hname, hkind, habsent,
    .position (by grind) hv fun _ => habsent⟩

/-- Arguments that bind can be given by keyword in any order: no name is given twice. -/
theorem exists_byKeyword (hps : Declarable ps) (hbound : c.Binds ps bound)
    (hk : c.Renamable ps k) {es : List (Text × Value)}
    (hes : es.Perm (c.namedFrom ps k ++ c.keywords.entries)) :
    ∃ c', Respelling ps c c' ∧ c'.positional = c.positional.take k ∧
      c'.keywords.entries = es := by
  have hnodup : (es.map Prod.fst).Nodup := by
    rw [(hes.map Prod.fst).nodup_iff, List.map_append, List.nodup_append]
    refine ⟨?_, c.keywords.nodup_keys, ?_⟩
    · rw [namedFrom, List.zip_eq_zip_take_min, List.map_drop, List.map_fst_zip (by simp)]
      exact hps.nodup.sublist ((List.drop_sublist k _).trans (List.take_sublist _ _))
    · rintro name hname _ hkeyword rfl
      obtain ⟨e, he, rfl⟩ := List.mem_map.1 hname
      obtain ⟨place, p, -, -, hname, -, habsent, -⟩ := receives_of_mem_namedFrom hbound hk he
      have hpresent := (c.keywords.get?_isSome p.name).2 (hname ▸ hkeyword)
      simp [habsent] at hpresent
  exact ⟨⟨c.positional.take k, ⟨es, hnodup⟩⟩, .byKeyword k hk rfl hes, rfl, rfl⟩

/-- A call written in another way restates the call. -/
theorem Respelling.exists_restates (hbound : c.Binds ps bound) (h : Respelling ps c c') :
    ∃ k extra, Restates ps k extra c c' := by
  cases h with
  | byKeyword k fills positional keywords =>
    refine ⟨k, _, positional, keywords, fills, ?moved, ?given⟩
    case moved =>
      intro place p v hk hp hv
      refine List.mem_of_getElem? (namedFrom_eq_some_iff.2 ⟨p, ?_, rfl, ?_⟩) (i := place - k)
      · rwa [Nat.add_sub_cancel' hk]
      · rwa [Nat.add_sub_cancel' hk]
    case given =>
      intro e he
      obtain ⟨place, p, hle, hp, hname, hkind, -, hb⟩ := receives_of_mem_namedFrom hbound fills he
      refine ⟨place, p, hp, hname, by grind, fun _ => ?_, hb⟩
      rw [positional]
      exact Nat.le_trans (List.length_take_le k _) hle
  | @explicitDefault place p v declared kind omitted absent default positional keywords =>
    refine ⟨c.positional.length, [(p.name, v)], ?_, keywords, ?_, ?_, ?_⟩
    · rw [positional, List.take_length]
    · intro place hle hlt
      omega
    · intro place q w hle _ hw
      obtain ⟨hlt, -⟩ := List.getElem?_eq_some_iff.1 hw
      omega
    · rintro e (_ | ⟨_, ⟨⟩⟩)
      refine ⟨place, p, declared, rfl, kind, ?_, .default omitted absent (by grind) default⟩
      rwa [Omits, positional]

end Call

namespace Guard

variable {g : Guard} {e : Engine} {call call' : Call} {bound bound' : List (Parameter × Bound)}
  {es : List (Text × Value)}

/-! ## What a guard makes of it -/

@[simp] theorem received_map_withNamed :
    g.received (bound.map fun e => (e.1, e.2.withNamed es)) = g.received bound := by
  simp [received, List.filter_map, List.flatMap_map, Function.comp_def]

/-- The caller's parameter is found as before. -/
theorem find?_map_withNamed :
    (bound.map fun e => (e.1, e.2.withNamed es)).find? (·.1.name = g.callerParameter) =
      (bound.find? (·.1.name = g.callerParameter)).map fun e => (e.1, e.2.withNamed es) := by
  rw [List.find?_map]
  rfl

/-- Nobody is a caller by arguments that have no parameter of their own. -/
@[simp] theorem caller_map_withNamed :
    g.caller (bound.map fun e => (e.1, e.2.withNamed es)) = g.caller bound := by
  simp only [caller, callerValue, find?_map_withNamed]
  cases bound.find? (·.1.name = g.callerParameter) with
  | none => simp only [Option.map_none]
  | some found =>
    obtain ⟨p, b⟩ := found
    cases b <;> rfl

theorem callerValue_map_withNamed (h : call.Binds g.parameters bound)
    (hplain : ∀ p ∈ g.parameters, p.name = g.callerParameter → p.kind ≠ .keywords) :
    g.callerValue (bound.map fun e => (e.1, e.2.withNamed es)) = g.callerValue bound := by
  simp only [callerValue, find?_map_withNamed]
  cases hfound : bound.find? (·.1.name = g.callerParameter) with
  | none => simp only [Option.map_none]
  | some found =>
    obtain ⟨p, b⟩ := found
    obtain ⟨place, hplace⟩ := List.getElem?_of_mem (List.mem_of_find?_eq_some hfound)
    have hkind : p.kind ≠ .keywords := by
      refine hplain p ?_ (by simpa using List.find?_some hfound)
      rw [← h.parameters]
      exact List.mem_map_of_mem (List.mem_of_getElem? hplace)
    cases h.receives place p b hplace <;> first | rfl | contradiction

section

variable [Pattern.Machine]

/-- A guard goes by who calls and by what the call amounts to. -/
theorem check_congr (hbound : call.bind g.parameters = .ok bound)
    (hbound' : call'.bind g.parameters = .ok bound') (hcaller : g.caller bound' = g.caller bound)
    (hinvocation : g.invocation bound' = g.invocation bound) :
    g.check e call' = g.check e call := by
  simp only [check, hbound, hbound']
  show Check.bind (Check.ofExcept (g.invocation bound')) _ =
    Check.bind (Check.ofExcept (g.invocation bound)) _
  rw [hcaller, hinvocation]

end

/-- The same call to a guard: it has the same user, who is the same caller, and gives the same
values to the same parameters. -/
structure Alike (g : Guard) (bound bound' : List (Parameter × Bound)) : Prop where
  /-- The user is the same value, unless all further arguments by keyword stand for one. -/
  user : (∀ p ∈ g.parameters, p.name = g.callerParameter → p.kind ≠ .keywords) →
    g.callerValue bound' = g.callerValue bound
  caller : g.caller bound' = g.caller bound
  received : g.received bound' = g.received bound

namespace Alike

theorem refl (bound : List (Parameter × Bound)) : g.Alike bound bound :=
  ⟨fun _ => rfl, rfl, rfl⟩

theorem trans {bound'' : List (Parameter × Bound)} (h : g.Alike bound bound')
    (h' : g.Alike bound' bound'') : g.Alike bound bound'' :=
  ⟨fun hplain => (h'.user hplain).trans (h.user hplain), h'.caller.trans h.caller,
    h'.received.trans h.received⟩

end Alike

/-- One step of writing a call in another way. -/
theorem exists_alike_of_respelling (hps : Declarable g.parameters)
    (h : Call.Respelling g.parameters call call') (hbound : call.bind g.parameters = .ok bound) :
    ∃ bound', call'.bind g.parameters = .ok bound' ∧ g.Alike bound bound' := by
  have hbinds := (Call.bind_eq_ok_iff hps).1 hbound
  obtain ⟨k, extra, hrestates⟩ := h.exists_restates hbinds
  exact ⟨_, (Call.bind_eq_ok_iff hps).2 (hrestates.binds hps hbinds),
    callerValue_map_withNamed hbinds, caller_map_withNamed, received_map_withNamed⟩

/-- Any number of such steps. -/
theorem exists_alike_of_respelled (hps : Declarable g.parameters)
    (h : Relation.ReflTransGen (Call.Respelling g.parameters) call call')
    (hbound : call.bind g.parameters = .ok bound) :
    ∃ bound', call'.bind g.parameters = .ok bound' ∧ g.Alike bound bound' := by
  induction h with
  | refl => exact ⟨bound, hbound, .refl bound⟩
  | tail _ hstep ih =>
    obtain ⟨between, hbetween, halike⟩ := ih
    obtain ⟨bound', hbound', halike'⟩ := exists_alike_of_respelling hps hstep hbetween
    exact ⟨bound', hbound', halike.trans halike'⟩

section

variable [Pattern.Machine]

/-- A guard does not care how a call is written. If a call binds, then its last arguments can be
given by keyword instead of by position, in any order; and whatever is given by keyword so, and
whatever defaults are given explicitly, the call binds, with the same user and the same values for
the same parameters, and a guard lets both calls through or refuses both, with the same error. -/
theorem check_eq_of_respelled (g : Guard) (hps : Declarable g.parameters)
    (hbound : call.bind g.parameters = .ok bound) :
    (∀ k es, call.Renamable g.parameters k →
      es.Perm (call.namedFrom g.parameters k ++ call.keywords.entries) →
      ∃ call', Call.Respelling g.parameters call call' ∧
        call'.positional = call.positional.take k ∧ call'.keywords.entries = es) ∧
    ∀ call', Relation.ReflTransGen (Call.Respelling g.parameters) call call' →
      ∃ bound', call'.bind g.parameters = .ok bound' ∧ g.Alike bound bound' ∧
        g.invocation bound' = g.invocation bound ∧ ∀ e, g.check e call' = g.check e call := by
  have hbinds := (Call.bind_eq_ok_iff hps).1 hbound
  refine ⟨fun k es hk hes => Call.exists_byKeyword hps hbinds hk hes, fun call' h => ?_⟩
  obtain ⟨bound', hbound', halike⟩ := exists_alike_of_respelled hps h hbound
  have hinvocation : g.invocation bound' = g.invocation bound := by
    rw [invocation_eq ((Call.bind_eq_ok_iff hps).1 hbound'), invocation_eq hbinds, receivedTypes,
      receivedTypes, halike.received]
  exact ⟨bound', hbound', halike, hinvocation, fun e =>
    check_congr hbound hbound' halike.caller hinvocation⟩

end

/-- The lighting of a lantern. -/
def lantern : Guard where
  resource := "lantern"
  method := "light"
  parameters :=
    [{ name := "wick", kind := .positionalOnly }, { name := "oil", hint := some (.type "int") },
      { name := "user" },
      { name := "dim", kind := .keywordOnly, hint := some (.type "bool"),
        default := some (.bool false) },
      { name := "notes", kind := .keywords }]

/-- A call by position. -/
def lit : Call where
  positional := [.text "long", .int 3, .caller "ann" ["keeper"] []]
  keywords := .ofList [("night", .int 7)]

/-- The same call with the oil and the user by keyword. -/
def litPartly : Call where
  positional := [.text "long"]
  keywords := .ofList
    [("night", .int 7), ("user", .caller "ann" ["keeper"] []), ("oil", .int 3)]

/-- The same call with the default, too. -/
def litByKeyword : Call where
  positional := [.text "long"]
  keywords := .ofList
    [("night", .int 7), ("dim", .bool false), ("user", .caller "ann" ["keeper"] []),
      ("oil", .int 3)]

/-- Both ways to light the lantern are the same to a guard. -/
theorem check_eq_of_respelled_of_lantern :
    Declarable lantern.parameters ∧
      Relation.ReflTransGen (Call.Respelling lantern.parameters) lit litByKeyword ∧
      (∃ bound, lit.bind lantern.parameters = .ok bound) ∧
      ∀ e, lantern.check e litByKeyword = lantern.check e lit := by
  have hps : Declarable lantern.parameters := ⟨by decide, by decide, by decide⟩
  have hpartly : Call.Respelling lantern.parameters lit litPartly := by
    refine .byKeyword 1 (fun place hle hlt => ?_) rfl
      (List.reverse_perm (lit.namedFrom lantern.parameters 1 ++ lit.keywords.entries))
    have hplace : place < 3 := hlt
    obtain rfl | rfl : place = 1 ∨ place = 2 := by omega
    · exact ⟨_, rfl, rfl⟩
    · exact ⟨_, rfl, rfl⟩
  have hdefault : Call.Respelling lantern.parameters litPartly litByKeyword :=
    .explicitDefault (show lantern.parameters[3]? = some _ from rfl) rfl (fun h => by cases h)
      rfl rfl rfl (List.Perm.swap _ _ _)
  have hrespelled := (Relation.ReflTransGen.single hpartly).tail hdefault
  obtain ⟨bound, hbound⟩ : ∃ bound, lit.bind lantern.parameters = .ok bound := ⟨_, rfl⟩
  obtain ⟨-, hsame⟩ := check_eq_of_respelled lantern hps hbound
  obtain ⟨bound', -, -, -, hcheck⟩ := hsame litByKeyword hrespelled
  exact ⟨hps, hrespelled, ⟨bound, hbound⟩, hcheck⟩

end Guard

end RoleGate
