import RoleGate.Value

/-!
# Error reports

The texts in which errors are shown: a message for people, and the details that it was made from.
The text of a report is its message, followed by the details if there are any.
-/

namespace RoleGate

/-- What a report says about one point: nothing, a text or some texts. -/
inductive Detail where
  | absent
  | text (t : Text)
  | texts (ts : List Text)

namespace Detail

/-- The text, or nothing if there is none. -/
def ofText? : Option Text → Detail
  | none => absent
  | some t => text t

/-- The detail as it is written. -/
def written : Detail → Text
  | absent => "None"
  | text t => Text.quoted t
  | texts ts => Value.writtenTexts ts

end Detail

/-- How a report shows a value that it complains about: as it is written, and by its text. Of an
absent value nothing is shown. -/
inductive Shown where
  | nothing
  | value (written text : Text)

namespace Shown

/-- A text that a report complains about. -/
def ofText (t : Text) : Shown :=
  value (Text.quoted t) t

/-- The value, unless it cannot be written. -/
def ofValue? : Value → Option Shown
  | .absent => some nothing
  | v => do return value (← v.written?) (← v.toText?)

end Shown

/-- An error as it is shown: its kind, its message and the details behind it. -/
structure Report where
  kind : Text
  message : Text
  details : OrderedMap Detail

namespace Report

/-- The text of a report. -/
def text (r : Report) : Text :=
  if r.details.entries.isEmpty then r.message
  else
    let entries := r.details.entries.map fun e => Text.quoted e.1 ++ ':' :: ' ' :: e.2.written
    r.message ++ (" | Details: \x7b" : Text) ++ Value.commaSeparated entries ++ ['}']

/-- A resource identifier that names no rule tables. -/
def resolution (resource : Text) (reason : Option Text) : Report :=
  let reason := (Text.present? reason).getD "unrecognized resource identifier"
  { kind := "ResourceResolutionError"
    message := ("Cannot resolve resource " : Text) ++ Text.inApostrophes resource ++
      (": " : Text) ++ reason
    details := .ofList [("resource", .text resource), ("reason", .text reason)] }

/-- A call that was refused. -/
def authorization (user action resource : Text) (reason : Option Text) (requiredRoles : List Text) :
    Report :=
  let reason := (Text.present? reason).getD "Insufficient credentials"
  let roles : Text :=
    if requiredRoles.isEmpty then []
    else (" | Required roles: " : Text) ++ Value.commaSeparated requiredRoles
  { kind := "AuthorizationError"
    message := ("Authorization denied: User " : Text) ++ Text.inApostrophes user ++
      (" cannot invoke " : Text) ++ Text.inApostrophes action ++ (" on resource " : Text) ++
      Text.inApostrophes resource ++ (". Reason: " : Text) ++ reason ++ roles
    details := .ofList
      [("user", .text user), ("action", .text action), ("resource", .text resource),
        ("reason", .text reason), ("required_roles", .texts requiredRoles)] }

/-- A setting, a table or a catalog that cannot be used. -/
def configuration (key : Text) (expected : Option Text) (received : Shown) : Report :=
  let expectation : Text :=
    match Text.present? expected with
    | none => []
    | some t => (": expected " : Text) ++ t
  let (got, shown) : Text × Detail :=
    match received with
    | .nothing => ([], .absent)
    | .value written text => ((", got " : Text) ++ written, .text text)
  { kind := "ConfigurationError"
    message := ("Configuration error for " : Text) ++ Text.inApostrophes key ++ expectation ++ got
    details := .ofList
      [("config_key", .text key), ("expected", .ofText? expected), ("received", shown)] }

/-- A text that asks for no method. -/
def invalidQuery (query reason : Text) : Report where
  kind := "InvalidQueryError"
  message := ("Invalid method query " : Text) ++ Text.inApostrophes query ++ (": " : Text) ++ reason
  details := .ofList [("query", .text query), ("reason", .text reason)]

/-- The message of an engine, behind the engine's name. -/
def engineMessage (message : Text) (engine : Option Text) : Text :=
  '[' :: ((Text.present? engine).getD "unknown" ++ ']' :: ' ' :: message)

/-- A name under which no engine is registered. -/
def engineNotAvailable (message : Text) (engine : Option Text) : Report :=
  ⟨"EngineNotAvailableError", engineMessage message engine, .empty⟩

end Report

end RoleGate
