import RoleGate.Proofs.Engine.Decision
import RoleGate.Proofs.Guard.Binding
import RoleGate.Proofs.Value

/-!
# What a guard lets through

A guard asks the engine about the very call that is made: about the values that the parameters
receive, each under the type of its own parameter. The function is reached, once and with the call
as it was made, exactly if the caller may make that invocation. Whatever else happens, the function
has no part in it.

## Main definitions

* `Guard.received` — the values of a call, each with the parameter that received it.
* `Guard.Passes`, `Guard.Stops` — the function is reached, or the call fails.
* `Guard.Enforces` — what becomes of a call, by the engine's decision.

## Main statements

* `Guard.arguments_eq` — what the engine is asked about.
* `Guard.passes_iff_allowed` — which calls reach the function.
-/

namespace RoleGate

/-- The name of a type can be written unless it is the text of a value that cannot be. -/
theorem Parameter.typeName_eq_error_iff {p : Parameter} {cause : Error} :
    p.typeName = .error cause ↔
      ∃ v, p.hint = some (.value v) ∧ v.Oversized ∧ cause = .numeralTooLong := by
  rw [typeName]
  cases p.hint with
  | none => simp
  | some hint =>
    cases hint with
    | type name => simp [TypeHint.typeName]
    | form shown => simp [TypeHint.typeName]
    | value v =>
      simp only [Option.some.injEq, TypeHint.value.injEq, exists_eq_left',
        ← Value.toText_eq_error_iff]
      cases v <;> exact Iff.rfl

/-- The values in what a parameter receives. -/
def Bound.values : Bound → List Value
  | .one v => [v]
  | .rest vs => vs
  | .named _ => []

namespace Guard

variable {g : Guard} {e : Engine} {c : Caller} {call : Call} {bound : List (Parameter × Bound)}
  {i : Invocation} {cause : Error} {notices : List Notice}

/-! ## What the engine is asked about -/

/-- The values of a call in the order of declaration, each with the parameter that received it. The
caller's parameter takes no part, and arguments without a parameter of their name have no place. -/
def received (g : Guard) (bound : List (Parameter × Bound)) : List (Parameter × Value) :=
  (bound.filter fun e => e.1.name != g.callerParameter).flatMap fun e => e.2.values.map (e.1, ·)

/-- The names of the types of these values, each that of the parameter that received it. -/
def receivedTypes (g : Guard) (bound : List (Parameter × Bound)) : Except Error (List Text) :=
  (g.received bound).mapM fun e => e.1.typeName

theorem contribution_eq {ps : List Parameter} {place : Nat} {p : Parameter} {b : Bound}
    (h : call.Receives ps place p b) :
    g.contribution p b =
      if p.name != g.callerParameter then (b.values.mapM fun _ => p.typeName).map (b.values, ·)
      else .ok ([], []) := by
  by_cases hname : p.name = g.callerParameter
  · simp [contribution, hname]
  · rw [if_pos (by simpa using hname)]
    by_cases hkind : p.kind = .keywords
    · have hnone : b.values = [] := by cases h <;> grind [Bound.values]
      simp [contribution, hkind, hnone, Except.map, pure, Except.pure]
    · unfold contribution
      rw [if_neg (by simp [hname, hkind])]
      cases b with
      | named entries =>
        cases h
        contradiction
      | one v =>
        cases p.typeName <;>
          simp [Bound.values, Bound.toValue, bind, Except.bind, Except.map, pure, Except.pure]
      | rest vs =>
        cases htypes : vs.mapM fun _ => p.typeName <;>
          simp [Bound.values, htypes, bind, Except.bind, Except.map, pure, Except.pure]

theorem received_cons (g : Guard) (e : Parameter × Bound) (bound : List (Parameter × Bound)) :
    g.received (e :: bound) =
      (if e.1.name != g.callerParameter then e.2.values.map (e.1, ·) else []) ++
        g.received bound := by
  rw [received, List.filter_cons]
  split <;> simp [received]

/-- What the engine is asked about is what the parameters receive. -/
theorem arguments_eq (h : call.Binds g.parameters bound) :
    g.arguments bound = (g.receivedTypes bound).map ((g.received bound).map Prod.snd, ·) := by
  have hcontribution : ∀ e ∈ bound, g.contribution e.1 e.2 =
      if e.1.name != g.callerParameter then
        (e.2.values.mapM fun _ => e.1.typeName).map (e.2.values, ·)
      else .ok ([], []) := by
    intro e he
    obtain ⟨place, hplace⟩ := List.getElem?_of_mem he
    exact contribution_eq (h.receives place e.1 e.2 hplace)
  clear h
  induction bound with
  | nil => rfl
  | cons e bound ih =>
    obtain ⟨p, b⟩ := e
    obtain ⟨he, hrest⟩ := List.forall_mem_cons.1 hcontribution
    have htypes : g.receivedTypes ((p, b) :: bound) = do
        let types ← if p.name != g.callerParameter then b.values.mapM fun _ => p.typeName
          else .ok []
        return types ++ (← g.receivedTypes bound) := by
      rw [receivedTypes, received_cons, List.mapM_append]
      split
      · rw [List.mapM_map]
        rfl
      · rfl
    rw [arguments, he, ih hrest, received_cons, htypes]
    split
    · cases b.values.mapM fun _ => p.typeName with
      | error cause => rfl
      | ok types =>
        cases g.receivedTypes bound <;>
          simp [bind, Except.bind, Except.map, pure, Except.pure, Function.comp_def]
    · cases g.receivedTypes bound <;> rfl

theorem invocation_eq (h : call.Binds g.parameters bound) :
    g.invocation bound = (g.receivedTypes bound).map fun types =>
      .create g.method (some ((g.received bound).map Prod.snd)) (some types) := by
  rw [invocation, arguments_eq h]
  cases g.receivedTypes bound <;> rfl

theorem exists_receives_of_mem_received {p : Parameter} {v : Value}
    (h : call.Binds g.parameters bound) (hv : (p, v) ∈ g.received bound) :
    ∃ place b, g.parameters[place]? = some p ∧ p.name ≠ g.callerParameter ∧
      call.Receives g.parameters place p b ∧ v ∈ b.values := by
  obtain ⟨⟨q, b⟩, hq, hmem⟩ := List.mem_flatMap.1 hv
  obtain ⟨hbound, hname⟩ := List.mem_filter.1 hq
  obtain ⟨w, hw, hpair⟩ := List.mem_map.1 hmem
  obtain ⟨rfl, rfl⟩ := Prod.mk.inj hpair
  obtain ⟨place, hplace⟩ := List.getElem?_of_mem hbound
  refine ⟨place, b, ?_, by simpa using hname, h.receives place q b hplace, hw⟩
  rw [← h.parameters, List.getElem?_map, hplace]
  rfl

section

variable [Pattern.Machine]

/-! ## What becomes of a call -/

/-- The call reaches the function: whatever the function is, it is run once with the call as it was
made, and the guard adds nothing but notices in front. -/
def Passes (g : Guard) (e : Engine) (call : Call) : Prop :=
  ∃ before, ∀ (α : Type) (function : Call → Check α),
    g.run e function call = ⟨(function call).answer, before ++ (function call).notices⟩

/-- The call fails, whatever the function is, and the function has no part in it. -/
def Stops (g : Guard) (e : Engine) (call : Call) (cause : Error) (notices : List Notice) : Prop :=
  ∀ (α : Type) (function : Call → Check α), g.run e function call = ⟨.error cause, notices⟩

theorem passes_iff : g.Passes e call ↔ (g.check e call).answer = .ok () := by
  constructor
  · rintro ⟨before, hrun⟩
    have hanswer : (g.run e (fun _ => pure ()) call).answer = .ok () := by
      rw [hrun]
      rfl
    rw [run, Check.answer_bind] at hanswer
    obtain ⟨_, hcheck, -⟩ := except_bind_eq_ok_iff.1 hanswer
    exact hcheck
  · intro hcheck
    refine ⟨(g.check e call).notices, fun α function => ?_⟩
    show Check.bind (g.check e call) _ = _
    rw [Check.bind, hcheck]

theorem stops_of_check (h : g.check e call = ⟨.error cause, notices⟩) :
    g.Stops e call cause notices := by
  intro α function
  show Check.bind (g.check e call) _ = _
  rw [h, Check.bind]

theorem check_of_bind_eq_error {fault : BindingFault}
    (h : call.bind g.parameters = .error fault) :
    g.check e call = ⟨.error (.binding fault), []⟩ := by
  rw [check, h]
  rfl

theorem check_of_invocation_eq_error (h : call.bind g.parameters = .ok bound)
    (hi : g.invocation bound = .error cause) : g.check e call = ⟨.error cause, []⟩ := by
  rw [check, h]
  show Check.bind (Check.ofExcept (g.invocation bound)) _ = _
  rw [hi]
  rfl

theorem check_of_caller_eq_error (h : call.bind g.parameters = .ok bound)
    (hi : g.invocation bound = .ok i) (hcaller : g.caller bound = .error cause) :
    g.check e call = ⟨.error cause, []⟩ := by
  rw [check, h]
  show Check.bind (Check.ofExcept (g.invocation bound)) _ = _
  rw [hi]
  show Check.bind (Check.ofExcept (g.caller bound)) _ = _
  rw [hcaller]
  rfl

/-- The check of a call with a caller is the engine's decision and what follows from it. -/
theorem check_of_caller_eq_ok (h : call.bind g.parameters = .ok bound)
    (hi : g.invocation bound = .ok i) (hcaller : g.caller bound = .ok c) :
    g.check e call =
      match (e.judge c g.resource i).answer with
      | .error cause => ⟨.error cause, (e.judge c g.resource i).notices⟩
      | .ok j =>
        if j.allowed then ⟨.ok (), (e.judge c g.resource i).notices⟩
        else
          ⟨.error (g.refusal c j), (e.judge c g.resource i).notices ++
            [.callRefused g.method g.resource c.id j.reason]⟩ := by
  rw [check, h]
  show Check.bind (Check.ofExcept (g.invocation bound)) _ = _
  rw [hi]
  show Check.bind (Check.ofExcept (g.caller bound)) _ = _
  rw [hcaller]
  show Check.bind (e.judge c g.resource i) _ = _
  rw [Check.bind]
  cases (e.judge c g.resource i).answer with
  | error cause => rfl
  | ok j =>
    dsimp only
    split
    · simp [pure, Check.pure]
    · rfl

omit [Pattern.Machine] in
theorem caller_eq_ok_iff :
    g.caller bound = .ok c ↔ ∃ id roles attributes,
      g.callerValue bound = .caller id roles attributes ∧ ⟨id, roles, .ofList attributes⟩ = c := by
  rw [caller]
  cases g.callerValue bound <;> simp

theorem answer_canInvoke_eq_iff {resource : Text} {i : Invocation} {allowed : Bool} :
    (e.canInvoke c resource i).answer = .ok allowed ↔
      ∃ j, (e.judge c resource i).answer = .ok j ∧ j.allowed = allowed := by
  simp [Engine.canInvoke, except_bind_eq_ok_iff]

theorem answer_check_eq_ok_iff (h : call.bind g.parameters = .ok bound)
    (hi : g.invocation bound = .ok i) :
    (g.check e call).answer = .ok () ↔ ∃ c, g.caller bound = .ok c ∧
      (e.canInvoke c g.resource i).answer = .ok true := by
  cases hcaller : g.caller bound with
  | error cause => simp [check_of_caller_eq_error h hi hcaller]
  | ok c =>
    rw [check_of_caller_eq_ok h hi hcaller]
    simp only [Except.ok.injEq, exists_eq_left', answer_canInvoke_eq_iff]
    cases (e.judge c g.resource i).answer with
    | error cause => simp
    | ok j => cases hallowed : j.allowed <;> simp [hallowed]

theorem answer_judge_of_canInvoke {resource : Text} {i : Invocation}
    (h : (e.canInvoke c resource i).answer = .error cause) :
    (e.judge c resource i).answer = .error cause := by
  rw [Engine.canInvoke, Check.answer_bind] at h
  cases hj : (e.judge c resource i).answer <;> simp_all [bind, Except.bind]

/-- What becomes of a call of a function, where `user` is what the caller's parameter receives and
`i` is the invocation that the call amounts to. -/
structure Enforces (g : Guard) (e : Engine) (call : Call) (user : Value) (i : Invocation) :
    Prop where
  /-- Exactly the caller who may make the invocation reaches the function. -/
  passes_iff : g.Passes e call ↔ ∃ id roles attributes, user = .caller id roles attributes ∧
    (e.canInvoke ⟨id, roles, .ofList attributes⟩ g.resource i).answer = .ok true
  /-- Without a caller the engine is not asked. -/
  nobody : user = .absent →
    g.Stops e call (.refused "unknown" g.method g.resource "No user context provided" []) []
  /-- A refusal gives the engine's reason and the roles of which one was needed. -/
  refused : ∀ id roles attributes, user = .caller id roles attributes →
    (e.canInvoke ⟨id, roles, .ofList attributes⟩ g.resource i).answer = .ok false →
    ∃ j, (e.judge ⟨id, roles, .ofList attributes⟩ g.resource i).answer = .ok j ∧
      ∃ notices, g.Stops e call
        (.refused id g.method g.resource j.reason (j.basis.requiredRoles.getD [])) notices
  /-- Where the engine has no answer, neither has the guarded function. -/
  failed : ∀ id roles attributes cause, user = .caller id roles attributes →
    (e.canInvoke ⟨id, roles, .ofList attributes⟩ g.resource i).answer = .error cause →
    ∃ notices, g.Stops e call cause notices

theorem enforces (h : call.bind g.parameters = .ok bound) (hi : g.invocation bound = .ok i) :
    g.Enforces e call (g.callerValue bound) i := by
  have hcaller : ∀ id roles attributes, g.callerValue bound = .caller id roles attributes →
      g.caller bound = .ok ⟨id, roles, .ofList attributes⟩ := fun id roles attributes huser =>
    caller_eq_ok_iff.2 ⟨id, roles, attributes, huser, rfl⟩
  constructor
  case passes_iff =>
    rw [passes_iff, answer_check_eq_ok_iff h hi]
    constructor
    · rintro ⟨c, hc, hallowed⟩
      obtain ⟨id, roles, attributes, huser, rfl⟩ := caller_eq_ok_iff.1 hc
      exact ⟨id, roles, attributes, huser, hallowed⟩
    · rintro ⟨id, roles, attributes, huser, hallowed⟩
      exact ⟨_, hcaller id roles attributes huser, hallowed⟩
  case nobody =>
    intro hnobody
    exact stops_of_check (check_of_caller_eq_error h hi (by rw [caller, hnobody]; rfl))
  case refused =>
    intro id roles attributes huser hrefused
    obtain ⟨j, hj, hallowed⟩ := answer_canInvoke_eq_iff.1 hrefused
    have hcheck := check_of_caller_eq_ok (e := e) h hi (hcaller id roles attributes huser)
    simp only [hj, hallowed, Bool.false_eq_true, if_false] at hcheck
    exact ⟨j, hj, _, stops_of_check hcheck⟩
  case failed =>
    intro id roles attributes cause huser hfailed
    have hcheck := check_of_caller_eq_ok (e := e) h hi (hcaller id roles attributes huser)
    rw [answer_judge_of_canInvoke hfailed] at hcheck
    exact ⟨_, stops_of_check hcheck⟩

/-! ## Enforcement -/

/-- A call that does not fit the function fails as such, and no engine has a part in it. Otherwise
the engine is asked about the values that the parameters receive, in the order of declaration, each
under the type of the parameter that received it; the function is reached, once and with the call as
it was made, exactly if the caller may make that invocation. If the name of such a type cannot be
written, which is so for no type but for a value in its place, then the call fails instead. -/
theorem passes_iff_allowed (g : Guard) (hps : Declarable g.parameters) (call : Call) :
    (∀ fault, call.bind g.parameters = .error fault →
      (Error.binding fault).kind = "TypeError" ∧ ∀ e, g.Stops e call (.binding fault) []) ∧
    ∀ bound, call.bind g.parameters = .ok bound →
      let values : List Value := (g.received bound).map Prod.snd
      call.Binds g.parameters bound ∧
        (∀ types, g.receivedTypes bound = .ok types →
          values.length = types.length ∧
          (∀ (i : Nat) (v : Value), values[i]? = some v → ∃ place p b t,
            g.parameters[place]? = some p ∧ p.name ≠ g.callerParameter ∧
            call.Receives g.parameters place p b ∧ v ∈ b.values ∧
            p.typeName = .ok t ∧ types[i]? = some t) ∧
          ∀ e, g.Enforces e call (g.callerValue bound)
            (.create g.method (some values) (some types))) ∧
        ∀ cause, g.receivedTypes bound = .error cause →
          cause = .numeralTooLong ∧
          (∃ e ∈ g.received bound, ∃ w, e.1.hint = some (.value w) ∧ w.Oversized) ∧
          ∀ e, g.Stops e call cause [] := by
  refine ⟨fun fault hfault => ⟨rfl, fun e => stops_of_check (check_of_bind_eq_error hfault)⟩, ?_⟩
  intro bound hbound values
  have hbinds := (Call.bind_eq_ok_iff hps).1 hbound
  refine ⟨hbinds, fun types htypes => ?_, fun cause hfails => ?_⟩
  · obtain ⟨hlength, htype⟩ := List.forall₂_iff_get.1 (mapM_eq_ok_iff.1 htypes)
    refine ⟨by rw [List.length_map, hlength], fun i v hv => ?_, fun e => ?_⟩
    · rw [List.getElem?_map] at hv
      obtain ⟨⟨p, v⟩, hreceived, rfl⟩ := Option.map_eq_some_iff.1 hv
      obtain ⟨place, b, hp, hname, hb, hmem⟩ :=
        exists_receives_of_mem_received hbinds (List.mem_of_getElem? hreceived)
      obtain ⟨hi, hget⟩ := List.getElem?_eq_some_iff.1 hreceived
      have hname' := htype i hi (hlength ▸ hi)
      rw [List.get_eq_getElem, hget] at hname'
      exact ⟨place, p, b, _, hp, hname, hb, hmem, hname', List.getElem?_eq_getElem _⟩
    · refine enforces hbound ?_
      rw [invocation_eq hbinds, htypes]
      rfl
  · obtain ⟨⟨p, v⟩, hreceived, htype⟩ := exists_mem_of_mapM_eq_error hfails
    obtain ⟨w, hw, hsize, rfl⟩ := Parameter.typeName_eq_error_iff.1 htype
    refine ⟨rfl, ⟨(p, v), hreceived, w, hw, hsize⟩, fun e => stops_of_check ?_⟩
    exact check_of_invocation_eq_error hbound (by rw [invocation_eq hbinds, hfails]; rfl)

end

/-- The opening of a gate, with parameters of every kind. -/
def opening : Guard where
  resource := "gate"
  method := "open"
  parameters :=
    [{ name := "door", kind := .positionalOnly },
      { name := "way", hint := some (.type "str"), default := some (.text "in") },
      { name := "counts", kind := .variadic, hint := some (.type "int") },
      { name := "user", kind := .keywordOnly, default := some .absent },
      { name := "force", kind := .keywordOnly, hint := some (.type "bool"),
        default := some (.bool false) },
      { name := "notes", kind := .keywords }]

/-- Porters open a door for two, wardens for any number. -/
def gate : Engine where
  settings := {}
  resolver := .flat []
  source := .ofMaps
    (.ofList [("gate", .ofList
      [("open(object, str, int, int, bool)", .text "porter"), ("open", .text "warden")])])
    .empty

/-- A call that opens the north door for some. -/
def northward (counts : List Value) (user : Value) : Call where
  positional := [.text "north", .text "out"] ++ counts
  keywords := .ofList [("lamp", .text "lit"), ("user", user)]

/-- A porter opens the door for two but not for one, nobody opens it, and there has to be a door. -/
theorem passes_iff_allowed_of_opening :
    Declarable opening.parameters ∧
      opening.Passes gate (northward [.int 1, .int 2] (.caller "ann" ["porter"] [])) ∧
      (∃ reason notices, opening.Stops gate (northward [.int 1] (.caller "ann" ["porter"] []))
        (.refused "ann" "open" "gate" reason ["warden"]) notices) ∧
      opening.Stops gate (northward [] .absent)
        (.refused "unknown" "open" "gate" "No user context provided" []) [] ∧
      opening.Stops gate {} (.binding (.missing "door")) [] := by
  have hps : Declarable opening.parameters := ⟨by decide, by decide, by decide⟩
  have henforces := fun call bound types (hbound : call.bind opening.parameters = .ok bound)
      (htypes : opening.receivedTypes bound = .ok types) =>
    (((passes_iff_allowed opening hps call).2 bound hbound).2.1 types htypes).2.2 gate
  refine ⟨hps, ?_, ?_, ?_, ?_⟩
  · exact (henforces _ _ _ rfl rfl).passes_iff.2 ⟨"ann", ["porter"], [], rfl, by decide +kernel⟩
  · obtain ⟨j, hj, notices, hstops⟩ :=
      (henforces (northward [.int 1] (.caller "ann" ["porter"] [])) _ _ rfl rfl).refused
        "ann" ["porter"] [] rfl (by decide +kernel)
    have hanswer : (Except.ok j : Except Error Judgement).map (fun j => j.basis.requiredRoles) =
        .ok (some ["warden"]) := by
      rw [← hj]
      decide +kernel
    have hroles : j.basis.requiredRoles = some (["warden"] : List Text) := Except.ok.inj hanswer
    rw [hroles] at hstops
    exact ⟨j.reason, notices, hstops⟩
  · exact (henforces _ _ _ rfl rfl).nobody rfl
  · exact ((passes_iff_allowed opening hps {}).1 _ rfl).2 gate

end Guard

end RoleGate
