import RoleGate.Error
import RoleGate.Key.Basic
import RoleGate.Text.Blank

/-!
# Invocations

What a caller asks to do: to call a method, one overload of it, or one overload with certain
arguments. A check without arguments is advisory.
-/

namespace RoleGate

/-- A method, the parameter types of the overload if they are known, and the arguments if they are
known. -/
structure Invocation where
  method : Text
  signature : Option (List Text) := none
  args : Option (List Value) := none

namespace Invocation

/-- The invocation with the blanks around the types taken away. -/
def create (method : Text) (args : Option (List Value)) (signature : Option (List Text)) :
    Invocation :=
  ⟨method, signature.map (·.map Text.trim), args⟩

/-- The arguments are not known. -/
def isAdvisory (i : Invocation) : Bool :=
  i.args.isNone

/-- The method, or the overload of it, that is asked for. -/
def shape (i : Invocation) : Shape :=
  ⟨i.method, i.signature⟩

/-- The texts of the arguments. -/
def argumentTexts (i : Invocation) : Except Error (Option (List Text)) :=
  match i.args with
  | none => .ok none
  | some values => some <$> values.mapM Value.toText

/-- The invocation as a map, in which arguments stand as texts. -/
def toMap (i : Invocation) : Except Error (OrderedMap Value) := do
  let args ← i.argumentTexts
  return .ofList
    [("method_name", .text i.method), ("signature", .ofTexts? i.signature),
      ("args", .ofTexts? args)]

end Invocation

end RoleGate
