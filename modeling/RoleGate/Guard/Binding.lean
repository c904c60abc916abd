import RoleGate.Error

/-!
# Binding arguments to parameters

A call has arguments by position and arguments by keyword; a function has parameters that take the
one, the other or both, perhaps with defaults, and perhaps one that takes all further arguments by
position and one that takes all further ones by keyword. Binding says which argument each parameter
receives, or why the call fits no such function.

## Main definitions

* `Parameter`, `Call` — the two sides.
* `Parameter.typeName` — the name of the type that a parameter is annotated with.
* `Call.assign` — the arguments that parameters receive from a call.
* `Call.bind` — the same with defaults filled in.
-/

namespace RoleGate

/-- How a parameter takes its arguments. -/
inductive ParameterKind where
  | positionalOnly
  | positional
  | variadic
  | keywordOnly
  | keywords
  deriving DecidableEq

/-- What a parameter is annotated with: a type, a form of types such as a union, or any other
value. -/
inductive TypeHint where
  | type (qualifiedName : Text)
  | form (shown : Text)
  | value (v : Value)

/-- The name of the type that a hint stands for. A text stands for itself, and what is neither a
type nor a text goes by its text. -/
def TypeHint.typeName : TypeHint → Except Error Text
  | type qualifiedName => .ok qualifiedName
  | value (.text t) => .ok t
  | form shown => .ok shown
  | value v => v.toText

/-- A parameter, with the hint of its type and its default if it has them. -/
structure Parameter where
  name : Text
  kind : ParameterKind := .positional
  hint : Option TypeHint := none
  default : Option Value := none

/-- The name of a parameter's type. -/
def Parameter.typeName (p : Parameter) : Except Error Text :=
  match p.hint with
  | none => .ok "object"
  | some hint => hint.typeName

/-- The arguments of a call. -/
structure Call where
  positional : List Value := []
  keywords : OrderedMap Value := .empty

/-- What a parameter receives: one argument, all further ones by position, or all further ones by
keyword. -/
inductive Bound where
  | one (v : Value)
  | rest (vs : List Value)
  | named (entries : List (Text × Value))

/-- What a parameter receives, as one value. -/
def Bound.toValue : Bound → Value
  | one v => v
  | rest vs => .tuple vs
  | named entries => .mapping (entries.map fun e => (.text e.1, e.2))

/-- What parameters receive, by name. -/
abbrev Assignment := List (Text × Bound)

namespace Call

/-- The arguments by position, assigned to parameters in order, and the parameters that are left. A
parameter that has to be given and is not found by keyword is missing. -/
def assignPositional (keywords : OrderedMap Value) :
    List Value → List Parameter → Except BindingFault (Assignment × List Parameter)
  | [], [] => .ok ([], [])
  | [], p :: ps =>
    if p.kind = .variadic then .ok ([], ps)
    else if keywords.contains p.name then
      if p.kind = .positionalOnly then .error (.positionalOnly p.name) else .ok ([], p :: ps)
    else if p.kind = .keywords || p.default.isSome then .ok ([], p :: ps)
    else .error (.missing p.name)
  | _ :: _, [] => .error .tooMany
  | v :: vs, p :: ps =>
    match p.kind with
    | .keywords | .keywordOnly => .error .tooMany
    | .variadic => .ok ([(p.name, .rest (v :: vs))], ps)
    | .positionalOnly => do
      let (assigned, left) ← assignPositional keywords vs ps
      return ((p.name, .one v) :: assigned, left)
    | .positional =>
      if keywords.contains p.name then .error (.repeated p.name)
      else do
        let (assigned, left) ← assignPositional keywords vs ps
        return ((p.name, .one v) :: assigned, left)

/-- The arguments by keyword, assigned to the parameters that are left, and the arguments that no
parameter has the name of. -/
def assignKeywords (keywords : OrderedMap Value) :
    List Parameter → Except BindingFault (Assignment × OrderedMap Value)
  | [] => .ok ([], keywords)
  | p :: ps =>
    match p.kind with
    | .keywords | .variadic => assignKeywords keywords ps
    | kind =>
      match keywords.get? p.name with
      | none =>
        if p.default.isNone then .error (.missing p.name) else assignKeywords keywords ps
      | some v =>
        if kind = .positionalOnly then .error (.positionalOnly p.name)
        else do
          let (assigned, left) ← assignKeywords (keywords.erase p.name) ps
          return ((p.name, .one v) :: assigned, left)

/-- What becomes of the arguments by keyword that no parameter has the name of. -/
def assignRest (left : OrderedMap Value) (ps : List Parameter) : Except BindingFault Assignment :=
  match left.entries, ps.find? (·.kind = .keywords) with
  | [], _ => .ok []
  | entries, some p => .ok [(p.name, .named entries)]
  | (keyword, _) :: _, none => .error (.unexpected keyword)

/-- What parameters receive from a call. -/
def assign (c : Call) (ps : List Parameter) : Except BindingFault Assignment := do
  let (byPosition, left) ← assignPositional c.keywords c.positional ps
  let (byKeyword, others) ← assignKeywords c.keywords left
  let rest ← assignRest others left
  return byPosition ++ byKeyword ++ rest

/-- What a parameter receives if the call has no argument for it. -/
def defaultFor (p : Parameter) : Option Bound :=
  match p.default, p.kind with
  | some v, _ => some (.one v)
  | none, .variadic => some (.rest [])
  | none, .keywords => some (.named [])
  | none, _ => none

/-- Each parameter with what it receives, in the order of declaration. -/
def bind (c : Call) (ps : List Parameter) : Except BindingFault (List (Parameter × Bound)) := do
  let assigned ← c.assign ps
  return ps.filterMap fun p =>
    ((assigned.lookup p.name).orElse fun _ => defaultFor p).map (p, ·)

end Call

end RoleGate
