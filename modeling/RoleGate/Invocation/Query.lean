import RoleGate.Error
import RoleGate.Invocation

/-!
# Method queries

A text such as `foo`, `foo()` or `foo(int, long)` that asks for a method or for one overload of it.
Blanks around the name and around each type do not count. The arguments remain unknown.

## Main definitions

* `Invocation.ofQuery` — the invocation that a text asks for.
-/

namespace RoleGate.Invocation

/-- The parameter types between the parentheses of a query. -/
def queryTypes (t : Text) : Except QueryFault (List Text) :=
  if Text.isBlankText t then .ok []
  else
    let types := (Text.splitOn ',' (Text.trim t)).map Text.trim
    if types.any List.isEmpty then .error .blankType else .ok types

/-- The shape that a text without blanks at its ends asks for. Parentheses come in one pair, which
ends the text. -/
def queryShape (t : Text) : Except QueryFault Shape :=
  if t.isEmpty then .error .noMethod
  else
    match Text.cutAt? '(' t with
    | none => if t.contains ')' then .error .unbalanced else .ok ⟨t, none⟩
    | some (before, behind) =>
      let name := Text.trim before
      if name.isEmpty then .error .noMethod
      else if !Text.endsWith ')' t || behind.contains '(' || t.count ')' != 1 then
        .error .unbalanced
      else (queryTypes behind.dropLast).map fun types => ⟨name, some types⟩

/-- The invocation that a text asks for. -/
def ofQuery (query : Text) : Except Error Invocation :=
  match queryShape (Text.trim query) with
  | .ok s => .ok ⟨s.method, s.signature, none⟩
  | .error fault => .error (.query query fault)

end RoleGate.Invocation
