import RoleGate.Error
import RoleGate.Text.Blank

/-!
# Resources

A resource is known by an identifier. A resolver says which rule tables may govern the resource, the
most specific first, or that the identifier cannot be understood.

## Main definitions

* `Resolver` — from identifiers to table ids.
* `Resolver.flat` — the identifier is the only table id.
* `Resolver.management` — the table ids of an object name such as `domain:type=Bundle,name=root`.
-/

namespace RoleGate

/-- The ids of the tables that may govern a resource, the most specific first. -/
structure Resolver where
  candidates : Text → Except Error (List Text)

namespace Resolver

/-- An id behind a dotted beginning. An empty beginning adds nothing. -/
def under (beginning id : Text) : Text :=
  if beginning.isEmpty then id else beginning ++ '.' :: id

/-- The resolver for resources with one table each, whose id is the identifier. -/
def flat (beginning : Text) : Resolver where
  candidates resource :=
    let name := Text.trim resource
    if name.isEmpty then .error (.resource resource .blank) else .ok [under beginning name]

/-! ## Object names -/

/-- The value of a key property `key=value`. -/
def propertyValue (piece : Text) : Except ResourceFault Text :=
  match Text.cutAt? '=' piece with
  | some (key, value) =>
    if Text.isBlankText key then .error (.malformedProperty piece) else .ok (Text.trim value)
  | none => .error (.malformedProperty piece)

/-- The values of key properties, up to the first that is malformed. -/
def propertyValues : List Text → Except ResourceFault (List Text)
  | [] => .ok []
  | piece :: rest => do
    let value ← propertyValue piece
    let values ← propertyValues rest
    return value :: values

/-- The domain of an object name and the values of its key properties, in the order of
declaration. -/
def nameSegments (name : Text) : Except ResourceFault (List Text) :=
  match Text.cutAt? ':' name with
  | none => .error .noColon
  | some (domain, properties) =>
    if Text.isBlankText domain then .error .noDomain
    else if Text.isBlankText properties then .error .noProperties
    else (propertyValues (Text.splitOn ',' properties)).map (Text.trim domain :: ·)

/-- The segments of an object name. -/
def segments (resource : Text) : Except Error (List Text) :=
  (nameSegments resource).mapError (.resource resource)

/-- The beginnings of a list that are not empty, the longest first. -/
def beginnings (segments : List Text) : List (List Text) :=
  (List.range segments.length).map fun i => segments.take (segments.length - i)

/-- The resolver for object names. Its table ids are the dotted texts of the segments, from all of
them down to the domain alone. -/
def management (beginning : Text) : Resolver where
  candidates resource := do
    let found ← segments resource
    return (beginnings found).map fun ids => under beginning (Text.join ['.'] ids)

/-- The resolver that knows the same tables for every resource. -/
def fixed (ids : List Text) : Resolver where
  candidates _ := .ok ids

end Resolver

end RoleGate
