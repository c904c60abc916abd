import RoleGate.Engine.Bulk
import RoleGate.Guard
import RoleGate.Store.Change

/-!
# Sessions

An engine in use. Requests come one after the other: changes of the store, and questions to the
engine as it is after the changes made so far. Each request has a reply and leaves records in the
journal.

## Main definitions

* `Question`, `Request`, `Reply` — what is asked and what is answered.
* `Engine.reply` — the reply of an engine to a question.
* `Session` — settings, a resolver, a store and the memory of keys.
* `Session.step` — the reply to a request, its records and the session after it.
* `Session.run` — the same for requests in a row.
-/

namespace RoleGate

/-- What an engine is asked. -/
inductive Question where
  | table (id : Text)
  | operations (resource : Text)
  | requiredRoles (resource : Text) (i : Invocation)
  | canInvoke (c : Caller) (resource : Text) (i : Option Invocation)
  | canAccess (c : Caller) (resource : Text)
  | judge (c : Caller) (resource : Text) (i : Invocation)
  | explain (c : Caller) (resource : Text) (i : Invocation)
  | bulk (c : Caller) (query : OrderedMap (List Text))
  | guarded (g : Guard) (call : Call)

/-- What is asked of a session. -/
inductive Request where
  | change (c : Store.Change)
  | question (q : Question)

/-- What is answered. The answer to a guarded call that is let through is the call that reaches the
function. -/
inductive Reply where
  | changed (answer : Store.Change.Answer)
  | table (found : Option RuleTable)
  | operations (found : Option (List Text))
  | roles (required : Option (List Text))
  | allowed (answer : Bool)
  | judged (judgement : Judgement)
  | explained (explanation : OrderedMap Value)
  | rows (answers : List Row)
  | called (call : Call)

variable [Pattern.Machine]

/-- The reply of an engine to a question. -/
def Engine.reply (e : Engine) : Question → Check Reply
  | .table id => Check.ofExcept ((e.source.table id).map .table)
  | .operations resource => Check.ofExcept ((e.source.operations resource).map .operations)
  | .requiredRoles resource i => .roles <$> e.requiredRoles resource i
  | .canInvoke c resource i => .allowed <$> e.canInvokeOrAccess c resource i
  | .canAccess c resource => .allowed <$> e.canAccess c resource
  | .judge c resource i => .judged <$> e.judge c resource i
  | .explain c resource i => .explained <$> e.explain c resource i
  | .bulk c query => .rows <$> e.bulk c query
  | .guarded g call => .called <$> g.run e pure call

/-- An engine in use. Its tables and catalogs come from its own store, unless they come from
elsewhere. -/
structure Session where
  settings : Settings
  resolver : Resolver
  elsewhere : Option Source := none
  store : Store := .empty
  memory : KeyMemory := {}

/-- The reply to a request, or the error in its place, and the records it left in the journal. -/
structure Response where
  reply : Except Error Reply
  records : List Record

namespace Session

/-- The engine of a session at the moment. -/
def engine (s : Session) : Engine :=
  ⟨s.settings, s.resolver, s.elsewhere.getD s.store.source⟩

/-- The response to a request, and the session after it. -/
def step (s : Session) : Request → Response × Session
  | .change c =>
    (⟨(s.store.apply c).map fun made => .changed made.1, []⟩, { s with store := s.store.after c })
  | .question q =>
    let check := s.engine.reply q
    let (records, memory) := s.memory.records check.notices
    (⟨check.answer, records⟩, { s with memory := memory })

/-- The responses to requests made one after the other, and the session after them. -/
def run (s : Session) : List Request → List Response × Session
  | [] => ([], s)
  | r :: rest =>
    let (first, between) := s.step r
    let (others, after) := run between rest
    (first :: others, after)

end Session

end RoleGate
