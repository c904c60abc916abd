import RoleGate.Proofs.Session.Recollection
import RoleGate.Session

/-!
# Checks with remembered keys

Engines parse keys anew for every check. Here they look each key up in a recollection first, parse
it only if it is not there, and write down its record only then. Keys that a check needs for a
whole table are read one after the other before anything else happens; a search among keys reads no
further than it has to. Answers stay the same whatever is remembered, as long as it is true.

## Main definitions

* `Logbook` — what is remembered, and the records written down.
* `Recall` — a computation that reads and writes a logbook, and may fail.
* `Recall.reply` — the reply of an engine to a question.
* `Recall.Follows` — a recalled computation has the answer of a check and writes down its notices.

## Main statements

* `Recall.Follows.bind` — computations that follow checks may be put together.
* `Recall.follows_reply` — recalled replies follow those of the engine.
-/

namespace RoleGate

/-- What is remembered of keys, and the records written down. -/
structure Logbook where
  memory : Recollection
  records : List Record

namespace Logbook

/-- The record of a key, unless the key is remembered. -/
def news (b : Logbook) (key : Text) : List Record :=
  if b.memory.keys.contains key then [] else (Notice.ofFirstReading key).toList

/-- What a key says, and the logbook after it was read. -/
def read (b : Logbook) (key : Text) : RuleKey × Logbook :=
  ((b.memory.read key).1, ⟨(b.memory.read key).2, b.records ++ b.news key⟩)

/-- The logbook after a notice. -/
def note (b : Logbook) : Notice → Logbook
  | .keyRead key => (b.read key).2
  | n => { b with records := b.records ++ n.record?.toList }

/-- The logbook after notices in a row. -/
def after (b : Logbook) (notices : List Notice) : Logbook :=
  notices.foldl note b

variable {b : Logbook}

theorem sound_note (h : b.memory.Sound) (n : Notice) : (b.note n).memory.Sound := by
  cases n with
  | keyRead key => exact h.read key
  | checkFailed | accessFailed | operationSkipped | rowRefused | callRefused => exact h

theorem sound_after (h : b.memory.Sound) (notices : List Notice) :
    (b.after notices).memory.Sound := by
  induction notices generalizing b with
  | nil => exact h
  | cons n rest ih => exact ih (sound_note h n)

theorem after_append (b : Logbook) (first second : List Notice) :
    b.after (first ++ second) = (b.after first).after second :=
  List.foldl_append

end Logbook

/-- A computation that looks keys up in a logbook and writes down records. An error keeps what was
written before it. -/
abbrev Recall := ExceptT Error (StateM Logbook)

namespace Recall

variable {α β : Type}

/-- The answer, or the error in its place, and the logbook afterwards. -/
def outcome (x : Recall α) (b : Logbook) : Except Error α × Logbook :=
  StateT.run (ExceptT.run x) b

theorem outcome_bind (x : Recall α) (f : α → Recall β) (b : Logbook) :
    (x >>= f).outcome b =
      match x.outcome b with
      | (.ok a, later) => (f a).outcome later
      | (.error e, later) => (.error e, later) := by
  rw [outcome, outcome, ExceptT.run_bind, StateT.run_bind]
  rcases StateT.run (ExceptT.run x) b with ⟨_ | a, later⟩ <;> rfl

/-- What a key says. -/
def readKey (key : Text) : Recall RuleKey :=
  modifyGet fun b => b.read key

/-- The record of a notice. -/
def notice (n : Notice) : Recall Unit :=
  modify fun b => b.note n

/-- An answer or an error, without a look at the logbook. -/
def ofExcept (x : Except Error α) : Recall α :=
  ExceptT.mk (pure x)

/-! ## Computations that follow checks -/

/-- The computation has the answer of the check, whatever is remembered as long as it is true, and
writes down the notices of the check. -/
def Follows (x : Recall α) (y : Check α) : Prop :=
  ∀ b : Logbook, b.memory.Sound → x.outcome b = (y.answer, b.after y.notices)

namespace Follows

variable {x : Recall α} {y : Check α}

theorem pure (a : α) : Follows (Pure.pure a) (Pure.pure a) := by
  intro b _
  rfl

theorem ofExcept (x : Except Error α) : Follows (Recall.ofExcept x) (Check.ofExcept x) := by
  intro b _
  rfl

theorem notice (n : Notice) : Follows (Recall.notice n) (Check.notice n) := by
  intro b _
  rfl

/-- Where one computation follows a check and the next one follows the next check, both together
follow both. -/
theorem bind {f : α → Recall β} {g : α → Check β} (hx : Follows x y)
    (hf : ∀ a, Follows (f a) (g a)) : Follows (x >>= f) (y >>= g) := by
  intro b hb
  rw [outcome_bind, hx b hb]
  -- What the first computation leaves is still true, so the second one may start from it.
  show _ = ((Check.bind y g).answer, b.after (Check.bind y g).notices)
  unfold Check.bind
  cases y.answer with
  | error e => rfl
  | ok a =>
    show (f a).outcome (b.after y.notices) = ((g a).answer, b.after (y.notices ++ (g a).notices))
    rw [hf a _ (Logbook.sound_after hb y.notices), Logbook.after_append]

theorem map (f : α → β) (h : Follows x y) : Follows (f <$> x) (f <$> y) := by
  rw [map_eq_pure_bind]
  exact h.bind fun a => .pure (f a)

end Follows

/-! ## Rulings -/

/-- The rules of the entries of a table. -/
def readRules : List (Text × Value) → Recall (List Rule)
  | [] => return []
  | (key, v) :: rest => do
    let found ← readKey key
    let others ← readRules rest
    return ⟨key, found, Roles.ofValue v⟩ :: others

variable [Pattern.Machine]

/-- The ruling of a table. All of its keys are read first. -/
def rulingOf (i : Invocation) (table : RuleTable) : Recall (Option Ruling) := do
  let rules ← readRules table.entries
  ofExcept (Ruling.resolve i.method i.args i.signature rules)

/-- The first ruling of the tables of a snapshot, with the id of its table. -/
def rulingIn (i : Invocation) : Snapshot → Recall (Option (Text × Ruling))
  | [] => return none
  | (id, table) :: rest => do
    match ← rulingOf i table with
    | some ruling => return some (id, ruling)
    | none => rulingIn i rest

omit [Pattern.Machine] in
theorem outcome_readKey {b : Logbook} (hb : b.memory.Sound) (key : Text) :
    (readKey key).outcome b = (.ok (.parse key), b.note (.keyRead key)) := by
  show (Except.ok (b.memory.read key).1, _) = _
  rw [Recollection.fst_read hb]
  rfl

omit [Pattern.Machine] in
theorem outcome_readRules {b : Logbook} (hb : b.memory.Sound) (entries : List (Text × Value)) :
    (readRules entries).outcome b =
      (.ok (entries.map Rule.ofEntry), b.after (entries.map fun entry => .keyRead entry.1)) := by
  induction entries generalizing b with
  | nil => rfl
  | cons entry rest ih =>
    have hlater : (b.note (.keyRead entry.1)).memory.Sound := Logbook.sound_note hb _
    simp only [readRules, outcome_bind, outcome_readKey hb, ih hlater]
    rfl

theorem follows_rulingOf (i : Invocation) (table : RuleTable) :
    Follows (rulingOf i table)
      (Check.readingKeys table.keys (Ruling.resolve i.method i.args i.signature table.rules)) := by
  intro b hb
  rw [rulingOf, outcome_bind, outcome_readRules hb]
  show (_, _) = (_, b.after (table.keys.map .keyRead))
  rw [OrderedMap.keys, List.map_map]
  rfl

theorem follows_rulingIn (i : Invocation) (tables : Snapshot) :
    Follows (rulingIn i tables) (Engine.rulingIn i tables) := by
  induction tables with
  | nil => exact .pure none
  | cons entry rest ih =>
    refine (follows_rulingOf i entry.2).bind fun found => ?_
    cases found with
    | none => exact ih
    | some ruling => exact .pure _

variable (e : Engine) (c : Caller) (resource : Text) (i : Invocation)

/-- The roles of which one is needed, or none if no rule decides. -/
def requiredRoles : Recall (Option (List Text)) := do
  let tables ← ofExcept (e.snapshot resource)
  return (← rulingIn i tables).map fun found => found.2.roles

theorem follows_requiredRoles :
    Follows (requiredRoles e resource i) (e.requiredRoles resource i) :=
  (Follows.ofExcept _).bind fun tables => (follows_rulingIn i tables).bind fun _ => .pure _

/-! ## Decisions -/

/-- The decision on an invocation, given the tables of the resource. -/
def judgeIn (tables : Snapshot) : Recall Judgement := do
  let ids := tables.map Prod.fst
  match ← rulingIn i tables with
  | none => return e.undecided resource i.method ids
  | some (table, r) => return e.ruled c i.method ids table r

/-- The decision on an invocation. -/
def judge : Recall Judgement :=
  match e.snapshot resource with
  | .ok tables => judgeIn e c resource i tables
  | .error cause => do
    notice (.checkFailed i.method resource cause)
    return Engine.failed resource cause

/-- The caller may make the invocation. -/
def canInvoke : Recall Bool := do
  return (← judge e c resource i).allowed

/-- The decision on an invocation with all that it was made from. -/
def explain : Recall (OrderedMap Value) := do
  let j ← judge e c resource i
  let request ← ofExcept i.toMap
  return e.explanation c resource request j.verdict

theorem follows_judgeIn (tables : Snapshot) :
    Follows (judgeIn e c resource i tables) (e.judgeIn c resource i tables) := by
  refine (follows_rulingIn i tables).bind fun found => ?_
  cases found with
  | none => exact .pure _
  | some found => exact .pure _

theorem follows_judge : Follows (judge e c resource i) (e.judge c resource i) := by
  rw [judge, Engine.judge]
  cases e.snapshot resource with
  | ok tables => exact follows_judgeIn e c resource i tables
  | error cause => exact (Follows.notice _).bind fun _ => .pure _

theorem follows_canInvoke : Follows (canInvoke e c resource i) (e.canInvoke c resource i) :=
  (follows_judge e c resource i).bind fun _ => .pure _

theorem follows_explain : Follows (explain e c resource i) (e.explain c resource i) :=
  (follows_judge e c resource i).bind fun _ => (Follows.ofExcept _).bind fun _ => .pure _

/-! ## Access to a resource -/

/-- The caller may invoke what one entry of a catalog stands for. -/
def mayOperate (tables : Snapshot) (operation : Text) : Recall Bool :=
  match Invocation.ofQuery operation with
  | .error cause => do
    notice (.operationSkipped resource cause)
    return false
  | .ok i => do
    match ← rulingIn i tables with
    | none => return e.settings.defaultAllow
    | some (_, r) => return e.settings.admits c r.roles

/-- The caller may invoke one of the operations of a catalog. -/
def mayOperateAny (tables : Snapshot) : List Text → Recall Bool
  | [] => return false
  | operation :: rest => do
    if ← mayOperate e c resource tables operation then return true
    else mayOperateAny tables rest

/-- One of the keys is a catch-all wildcard. The keys behind the first such key are not read. -/
def anyCatchAll : List Text → Recall Bool
  | [] => return false
  | key :: rest => do
    if (← readKey key).isCatchAll then return true else anyCatchAll rest

/-- The caller may invoke something that is not in a catalog. -/
def mayByTables (tables : Snapshot) : Recall Bool := do
  if tables.isEmpty then return e.settings.defaultAllow
  if !(← anyCatchAll (Engine.keysOf tables)) && e.settings.defaultAllow then return true
  return e.mayByAnyRule c tables

/-- The caller may invoke some operation of the resource. -/
def canAccess : Recall Bool :=
  match e.grounds resource with
  | .error cause => do
    notice (.accessFailed resource cause)
    return false
  | .ok (tables, some operations) => mayOperateAny e c resource tables operations
  | .ok (tables, none) => mayByTables e c tables

/-- The caller may invoke the method, or some operation of the resource if no method is given. -/
def canInvokeOrAccess : Option Invocation → Recall Bool
  | none => canAccess e c resource
  | some i => canInvoke e c resource i

theorem follows_mayOperate (tables : Snapshot) (operation : Text) :
    Follows (mayOperate e c resource tables operation)
      (e.mayOperate c resource tables operation) := by
  rw [mayOperate, Engine.mayOperate]
  cases Invocation.ofQuery operation with
  | error cause => exact (Follows.notice _).bind fun _ => .pure _
  | ok i =>
    refine (follows_rulingIn i tables).bind fun found => ?_
    cases found with
    | none => exact .pure _
    | some found => exact .pure _

theorem follows_mayOperateAny (tables : Snapshot) (operations : List Text) :
    Follows (mayOperateAny e c resource tables operations)
      (e.mayOperateAny c resource tables operations) := by
  induction operations with
  | nil => exact .pure false
  | cons operation rest ih =>
    refine (follows_mayOperate e c resource tables operation).bind fun allowed => ?_
    cases allowed with
    | true => exact .pure true
    | false => exact ih

omit [Pattern.Machine] in
theorem follows_anyCatchAll (tables : Snapshot) :
    Follows (anyCatchAll (Engine.keysOf tables)) (Engine.hasCatchAll tables) := by
  intro b hb
  rw [Engine.hasCatchAll]
  generalize Engine.keysOf tables = keys
  induction keys generalizing b with
  | nil => rfl
  | cons key rest ih =>
    have hlater : (b.note (.keyRead key)).memory.Sound := Logbook.sound_note hb _
    rw [anyCatchAll, outcome_bind, outcome_readKey hb, Engine.searchCatchAll]
    by_cases hkey : (RuleKey.parse key).isCatchAll = true
    · simp only [hkey, if_true]
      rfl
    · simp only [hkey]
      exact ih _ hlater

omit [Pattern.Machine] in
theorem follows_mayByTables (tables : Snapshot) :
    Follows (mayByTables e c tables) (e.mayByTables c tables) := by
  rw [mayByTables, Engine.mayByTables]
  by_cases hempty : tables.isEmpty = true
  · simp only [hempty, if_true]
    exact .pure _
  · simp only [hempty]
    refine (follows_anyCatchAll tables).bind fun found => ?_
    by_cases hdefault : (!found && e.settings.defaultAllow) = true
    · simp only [hdefault, if_true]
      exact .pure _
    · simp only [hdefault]
      exact .pure _

theorem follows_canAccess : Follows (canAccess e c resource) (e.canAccess c resource) := by
  rw [canAccess, Engine.canAccess]
  cases e.grounds resource with
  | error cause => exact (Follows.notice _).bind fun _ => .pure _
  | ok grounds =>
    obtain ⟨tables, operations⟩ := grounds
    cases operations with
    | some operations => exact follows_mayOperateAny e c resource tables operations
    | none => exact follows_mayByTables e c tables

theorem follows_canInvokeOrAccess (method : Option Invocation) :
    Follows (canInvokeOrAccess e c resource method) (e.canInvokeOrAccess c resource method) := by
  cases method with
  | none => exact follows_canAccess e c resource
  | some i => exact follows_canInvoke e c resource i

/-! ## Many checks at once -/

/-- The caller may make one of the invocations. -/
def canInvokeAny : List Invocation → Recall Bool
  | [] => return false
  | i :: rest => do
    if ← canInvoke e c resource i then return true else canInvokeAny rest

/-- The caller may do what a query asks for. -/
def canQuery : Recall Bool :=
  if i.signature.isSome then canInvoke e c resource i
  else
    match e.overloads resource i.method with
    | .error cause => do
      notice (.checkFailed i.method resource cause)
      return false
    | .ok [] => canInvoke e c resource i
    | .ok found => canInvokeAny e c resource found

/-- The answer to one query of a resource. -/
def row (query : Text) : Recall Row :=
  match Invocation.ofQuery query with
  | .error cause => do
    notice (.rowRefused resource cause)
    return ⟨resource, query, false⟩
  | .ok i => do
    return ⟨resource, query, ← canQuery e c resource i⟩

/-- The answers to the queries of a resource. -/
def rows : List Text → Recall (List Row)
  | [] => return []
  | query :: rest => do
    let first ← row e c resource query
    return first :: (← rows rest)

/-- The answers for a resource: one for each query, or one for access if there are none. -/
def rowsFor (queries : List Text) : Recall (List Row) :=
  if queries.isEmpty then do
    return [⟨resource, [], ← canAccess e c resource⟩]
  else rows e c resource queries

/-- The answers for resources in order. -/
def bulkEntries : List (Text × List Text) → Recall (List Row)
  | [] => return []
  | (resource, queries) :: rest => do
    let first ← rowsFor e c resource queries
    return first ++ (← bulkEntries rest)

theorem follows_canInvokeAny (found : List Invocation) :
    Follows (canInvokeAny e c resource found) (e.canInvokeAny c resource found) := by
  induction found with
  | nil => exact .pure false
  | cons i rest ih =>
    refine (follows_canInvoke e c resource i).bind fun allowed => ?_
    cases allowed with
    | true => exact .pure true
    | false => exact ih

theorem follows_canQuery : Follows (canQuery e c resource i) (e.canQuery c resource i) := by
  rw [canQuery, Engine.canQuery]
  split
  · exact follows_canInvoke e c resource i
  · rcases e.overloads resource i.method with cause | _ | ⟨first, others⟩
    · exact (Follows.notice _).bind fun _ => .pure _
    · exact follows_canInvoke e c resource i
    · exact follows_canInvokeAny e c resource (first :: others)

theorem follows_row (query : Text) : Follows (row e c resource query) (e.row c resource query) := by
  rw [row, Engine.row]
  cases Invocation.ofQuery query with
  | error cause => exact (Follows.notice _).bind fun _ => .pure _
  | ok i => exact (follows_canQuery e c resource i).bind fun _ => .pure _

theorem follows_rows (queries : List Text) :
    Follows (rows e c resource queries) (e.rows c resource queries) := by
  induction queries with
  | nil => exact .pure []
  | cons query rest ih =>
    exact (follows_row e c resource query).bind fun _ => ih.bind fun _ => .pure _

theorem follows_rowsFor (queries : List Text) :
    Follows (rowsFor e c resource queries) (e.rowsFor c resource queries) := by
  rw [rowsFor, Engine.rowsFor]
  split
  · exact (follows_canAccess e c resource).bind fun _ => .pure _
  · exact follows_rows e c resource queries

theorem follows_bulkEntries (entries : List (Text × List Text)) :
    Follows (bulkEntries e c entries) (e.bulkEntries c entries) := by
  induction entries with
  | nil => exact .pure []
  | cons entry rest ih =>
    exact (follows_rowsFor e c entry.1 entry.2).bind fun _ => ih.bind fun _ => .pure _

/-! ## Questions -/

/-- Lets a call through, or fails. -/
def letThrough (g : Guard) (call : Call) : Recall Unit := do
  let bound ← ofExcept ((call.bind g.parameters).mapError .binding)
  let i ← ofExcept (g.invocation bound)
  let c ← ofExcept (g.caller bound)
  let j ← judge e c g.resource i
  if j.allowed then return ()
  else
    notice (.callRefused g.method g.resource c.id j.reason)
    ofExcept (.error (g.refusal c j))

theorem follows_letThrough (g : Guard) (call : Call) :
    Follows (letThrough e g call) (g.check e call) := by
  refine (Follows.ofExcept _).bind fun bound => (Follows.ofExcept _).bind fun i =>
    (Follows.ofExcept _).bind fun c => (follows_judge e c g.resource i).bind fun j => ?_
  split
  · exact .pure ()
  · exact (Follows.notice _).bind fun _ => .ofExcept _

/-- A call that is let through. -/
def pass (g : Guard) (call : Call) : Recall Call := do
  letThrough e g call
  return call

/-- The reply to a question. -/
def reply : Question → Recall Reply
  | .table id => ofExcept ((e.source.table id).map .table)
  | .operations resource => ofExcept ((e.source.operations resource).map .operations)
  | .requiredRoles resource i => .roles <$> requiredRoles e resource i
  | .canInvoke c resource i => .allowed <$> canInvokeOrAccess e c resource i
  | .canAccess c resource => .allowed <$> canAccess e c resource
  | .judge c resource i => .judged <$> judge e c resource i
  | .explain c resource i => .explained <$> explain e c resource i
  | .bulk c query => .rows <$> bulkEntries e c query.entries
  | .guarded g call => .called <$> pass e g call

theorem follows_pass (g : Guard) (call : Call) : Follows (pass e g call) (g.run e pure call) :=
  (follows_letThrough e g call).bind fun _ => .pure call

/-- Recalled replies follow those of the engine. -/
theorem follows_reply (q : Question) : Follows (reply e q) (e.reply q) := by
  cases q with
  | table id => exact .ofExcept _
  | operations resource => exact .ofExcept _
  | requiredRoles resource i => exact (follows_requiredRoles e resource i).map _
  | canInvoke c resource i => exact (follows_canInvokeOrAccess e c resource i).map _
  | canAccess c resource => exact (follows_canAccess e c resource).map _
  | judge c resource i => exact (follows_judge e c resource i).map _
  | explain c resource i => exact (follows_explain e c resource i).map _
  | bulk c query => exact (follows_bulkEntries e c query.entries).map _
  | guarded g call => exact (follows_pass e g call).map _

end Recall

end RoleGate
