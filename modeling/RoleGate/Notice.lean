import RoleGate.Error
import RoleGate.Key.Reader
import Std.Data.HashMap

/-!
# Notices

What a check has to say besides its answer: that a key was read, that something failed and was
answered with a refusal, that a call was refused. Notices become records in a journal. A key that
was read makes a record if it is invalid and has not been read lately.

## Main definitions

* `Notice` — what a check has to say.
* `Record` — a line of the journal.
* `KeyMemory` — the keys read lately.
* `KeyMemory.records` — the records of some notices, and the memory after them.
-/

namespace RoleGate

/-- What a check has to say besides its answer. -/
inductive Notice where
  | keyRead (key : Text)
  | checkFailed (method resource : Text) (cause : Error)
  | accessFailed (resource : Text) (cause : Error)
  | operationSkipped (resource : Text) (cause : Error)
  | rowRefused (resource : Text) (cause : Error)
  | callRefused (method resource user reason : Text)

/-- How much a record matters. -/
inductive Level where
  | info
  | warning
  deriving DecidableEq

/-- The part of the program that a record comes from. -/
inductive Channel where
  | keys
  | engine
  | guard
  deriving DecidableEq

/-- A line of the journal. -/
structure Record where
  level : Level
  channel : Channel
  message : Text

/-- The record of a refusal because something failed. -/
def Record.failure (words subject : Text) (cause : Error) : Record :=
  ⟨.warning, .engine, words ++ Text.inApostrophes subject ++ (": " : Text) ++ cause.message⟩

namespace Notice

/-- The record of a key that was read for the first time: none unless the key is invalid. -/
def ofFirstReading (key : Text) : Option Record :=
  (RuleKey.parse key).fault?.map fun fault => ⟨.warning, .keys, fault.warning key⟩

/-- The record of a notice. -/
def record? : Notice → Option Record
  | keyRead key => ofFirstReading key
  | checkFailed method resource cause =>
    some (.failure (("Denying " : Text) ++ Text.inApostrophes method ++ (" on " : Text)) resource
      cause)
  | accessFailed resource cause =>
    some (.failure "Denying resource-level access to " resource cause)
  | operationSkipped resource cause => some (.failure "Skipping operation of " resource cause)
  | rowRefused resource cause => some (.failure "Bulk check on " resource cause)
  | callRefused method resource user reason =>
    some ⟨.info, .guard, ("Denied " : Text) ++ Text.inApostrophes method ++ (" on " : Text) ++
      Text.inApostrophes resource ++ (" for user " : Text) ++ user ++ (": " : Text) ++ reason⟩

end Notice

/-! ## The memory of keys -/

/-- Texts are hashed character by character. -/
instance hashableText : Hashable Text :=
  @instHashableList Char instHashableChar

/-- The keys read lately, each with the time at which it was last read. Times count readings. -/
structure KeyMemory where
  lastRead : Std.HashMap Text Nat := {}
  time : Nat := 0

namespace KeyMemory

/-- The number of keys that are remembered. -/
def capacity : Nat := 2048

/-- The key has been read lately. -/
def contains (m : KeyMemory) (key : Text) : Bool :=
  m.lastRead.contains key

/-- The key whose last reading is longest ago. -/
def oldest? (m : KeyMemory) : Option (Text × Nat) :=
  m.lastRead.fold (fun best key time =>
    match best with
    | none => some (key, time)
    | some (k, t) => if time < t then some (key, time) else some (k, t)) none

/-- The keys among which there is room for a key: all of them if it is one of them or if there are
few, otherwise all but the oldest. -/
def withRoomFor (m : KeyMemory) (key : Text) : Std.HashMap Text Nat :=
  if m.contains key || m.lastRead.size < capacity then m.lastRead
  else
    match m.oldest? with
    | some (k, _) => m.lastRead.erase k
    | none => m.lastRead

/-- The memory after a key was read. -/
def read (m : KeyMemory) (key : Text) : KeyMemory :=
  ⟨(m.withRoomFor key).insert key m.time, m.time + 1⟩

/-- The records of some notices, in order, and the memory after them. -/
def records (m : KeyMemory) : List Notice → List Record × KeyMemory
  | [] => ([], m)
  | .keyRead key :: rest =>
    let found := if m.contains key then none else Notice.ofFirstReading key
    let (others, after) := records (m.read key) rest
    (found.toList ++ others, after)
  | n :: rest =>
    let (others, after) := records m rest
    (n.record?.toList ++ others, after)

end KeyMemory

end RoleGate
