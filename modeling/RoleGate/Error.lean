import RoleGate.Pattern.Reader
import RoleGate.Report

/-!
# Errors

The causes for which an operation fails, and the report of each.

## Main definitions

* `Error` — the causes.
* `Error.report` — how a cause is shown.
* `Error.about` — the complaint about a value.
* `Value.toText`, `Value.argumentText` — the text of a value, and the text by which rules know it.
-/

namespace RoleGate

/-- What keeps a resource identifier from naming rule tables. -/
inductive ResourceFault where
  | blank
  | noColon
  | noDomain
  | noProperties
  | malformedProperty (piece : Text)
  deriving DecidableEq

/-- The words for a fault of a resource identifier. -/
def ResourceFault.reason : ResourceFault → Text
  | blank => "empty resource identifier"
  | noColon => "missing ':' between domain and key properties"
  | noDomain => "empty domain"
  | noProperties => "no key properties"
  | malformedProperty piece => ("malformed key property " : Text) ++ Text.inApostrophes piece

/-- What keeps a text from asking for a method. -/
inductive QueryFault where
  | noMethod
  | unbalanced
  | blankType
  deriving DecidableEq

/-- The words for a fault of a method query. -/
def QueryFault.reason : QueryFault → Text
  | noMethod => "empty method name"
  | unbalanced => "unbalanced parentheses"
  | blankType => "empty parameter type"

/-- What keeps a setting, a table or a catalog from being used. -/
inductive ConfigurationFault where
  | defaultAllow (received : Shown)
  | roleWildcard (received : Shown)
  | tableIsNoMapping (tableId : Text) (typeName : Text)
  | keyIsNoText (tableId : Text) (key : Shown)
  | catalogIsText (resource catalog : Text)

/-- How a fault of the configuration is shown. -/
def ConfigurationFault.report : ConfigurationFault → Report
  | defaultAllow v => .configuration "default_allow" (some "a boolean") v
  | roleWildcard v => .configuration "role_wildcard" (some "a non-empty string or None") v
  | tableIsNoMapping id name =>
    .configuration id (some "a mapping of rule keys to role strings") (.ofText name)
  | keyIsNoText id key => .configuration id (some "string rule keys") key
  | catalogIsText resource catalog =>
    .configuration resource (some "a sequence of method queries") (.ofText catalog)

theorem ConfigurationFault.kind_report (fault : ConfigurationFault) :
    fault.report.kind = "ConfigurationError" := by
  cases fault <;> rfl

/-- What keeps the arguments of a call from being assigned to parameters. -/
inductive BindingFault where
  | missing (parameter : Text)
  | tooMany
  | repeated (parameter : Text)
  | unexpected (keyword : Text)
  | positionalOnly (parameter : Text)
  deriving DecidableEq

/-- The words for a fault of a call. -/
def BindingFault.message : BindingFault → Text
  | missing p => ("missing a required argument: " : Text) ++ Text.quoted p
  | tooMany => "too many positional arguments"
  | repeated p => ("multiple values for argument " : Text) ++ Text.quoted p
  | unexpected k => ("got an unexpected keyword argument " : Text) ++ Text.quoted k
  | positionalOnly p =>
    Text.quoted p ++ (" parameter is positional only, but was passed as a keyword" : Text)

/-- The words for a numeral that is too long, with what is known of it between them. -/
def numeralMessage (measured : Text) : Text :=
  ("Exceeds the limit (" : Text) ++ Text.ofNat Text.maxNumeral ++
    (" digits) for integer string conversion" : Text) ++ measured ++
    ("; use sys.set_int_max_str_digits() to increase the limit" : Text)

/-- How a pattern that is worse than malformed is shown. -/
def Pattern.Abort.report : Pattern.Abort → Report
  | numeralTooLong length =>
    ⟨"ValueError",
      numeralMessage ((": value has " : Text) ++ Text.ofNat length ++ (" digits" : Text)), .empty⟩
  | countTooLarge => ⟨"OverflowError", "the repetition number is too large", .empty⟩
  | alphabetsConflict => ⟨"ValueError", "ASCII and UNICODE flags are incompatible", .empty⟩
  | looksTooFarBack => ⟨"RuntimeError", "invalid SRE code", .empty⟩
  | groupReversed =>
    ⟨"SystemError",
      "The span of capturing group is wrong, please report a bug for the re module.", .empty⟩

/-- The causes for which an operation fails. -/
inductive Error where
  | resource (identifier : Text) (fault : ResourceFault)
  | query (query : Text) (fault : QueryFault)
  | configuration (fault : ConfigurationFault)
  | refused (user action resource reason : Text) (requiredRoles : List Text)
  | unknownEngine (name : Text) (available : List Text)
  | backend (kind message : Text)
  | pattern (cause : Pattern.Abort)
  | numeralTooLong
  | binding (fault : BindingFault)
  | notACaller (typeName : Text)

namespace Error

/-- How an error is shown. -/
def report : Error → Report
  | resource id fault => .resolution id (some fault.reason)
  | query q fault => .invalidQuery q fault.reason
  | configuration fault => fault.report
  | refused user action target reason roles =>
    .authorization user action target (some reason) roles
  | unknownEngine name available =>
    .engineNotAvailable
      (("Unknown engine type: " : Text) ++ Text.inApostrophes name ++
        (". Available engines: " : Text) ++ Value.commaSeparated available)
      (some name)
  | backend kind message => ⟨kind, message, .empty⟩
  | pattern cause => cause.report
  | numeralTooLong => ⟨"ValueError", numeralMessage [], .empty⟩
  | binding fault => ⟨"TypeError", fault.message, .empty⟩
  | notACaller typeName =>
    ⟨"AttributeError", Text.inApostrophes typeName ++ (" object has no attribute " : Text) ++
      Text.inApostrophes "user_id", .empty⟩

/-- The name of an error's kind. -/
def kind (e : Error) : Text :=
  e.report.kind

/-- The text of an error. -/
def message (e : Error) : Text :=
  e.report.text

/-- The complaint about a value. If the value cannot be written, then neither can the complaint. -/
def about (fault : Shown → ConfigurationFault) (v : Value) : Error :=
  match Shown.ofValue? v with
  | some shown => configuration (fault shown)
  | none => numeralTooLong

/-- Whether an answer is given can be decided, even though errors cannot be compared. -/
instance decidableEqOk {α : Type} [DecidableEq α] (x : Except Error α) (a : α) :
    Decidable (x = .ok a) :=
  match x with
  | .ok b => decidable_of_iff (b = a) (by simp)
  | .error _ => .isFalse nofun

end Error

namespace Value

/-- The text of a value, unless it cannot be written. -/
def toText (v : Value) : Except Error Text :=
  match v.toText? with
  | some t => .ok t
  | none => .error .numeralTooLong

/-- The text by which rules know an argument. -/
def argumentText (v : Value) : Except Error Text :=
  Text.trim <$> v.toText

end Value

end RoleGate
