import RoleGate.Decimal.Notation
import RoleGate.OrderedMap
import RoleGate.Text.Blank
import RoleGate.Text.Quoted

/-!
# Values

The values that callers pass as arguments and that administrators write into configurations and rule
tables. Rules look at a value through its text only.

## Main definitions

* `Value` — the values.
* `Value.written?` — the value as it is written inside another one, where texts are quoted. Numbers
  with very many digits cannot be written, nor can what holds one.
* `Value.toText?` — the text of a value; a text is its own text.
* `Value.setMappingEntry` — setting a key of a mapping.
-/

namespace RoleGate

/-- An argument, a setting or the right-hand side of a rule. -/
inductive Value where
  | absent
  | bool (b : Bool)
  | int (n : Int)
  | real (d : Decimal.Double)
  | text (t : Text)
  | bytes (bs : List UInt8)
  | list (items : List Value)
  | tuple (items : List Value)
  | mapping (entries : List (Value × Value))
  | caller (id : Text) (roles : List Text) (attributes : List (Text × Value))

namespace Value

instance : Inhabited Value := ⟨absent⟩

/-- The list of some texts. -/
def texts (ts : List Text) : Value :=
  list (ts.map text)

/-- The text, or no value if there is none. -/
def ofText? : Option Text → Value
  | none => absent
  | some t => text t

/-- The list of some texts, or no value if there is none. -/
def ofTexts? : Option (List Text) → Value
  | none => absent
  | some ts => texts ts

/-- A map from texts as a mapping. -/
def ofMap (m : OrderedMap Value) : Value :=
  mapping (m.entries.map fun e => (text e.1, e.2))

/-- The name of a value's type. -/
def typeName : Value → Text
  | absent => "NoneType"
  | bool _ => "bool"
  | int _ => "int"
  | real _ => "float"
  | text _ => "str"
  | bytes _ => "bytes"
  | list _ => "list"
  | tuple _ => "tuple"
  | mapping _ => "dict"
  | caller _ _ _ => "UserContext"

/-! ## The text of a value -/

/-- Items with a comma and a space between them. -/
def commaSeparated (items : List Text) : Text :=
  Text.join ", " items

/-- A list of texts as it is written. -/
def writtenTexts (ts : List Text) : Text :=
  '[' :: (commaSeparated (ts.map Text.quoted) ++ [']'])

/-- The items of a tuple, where a single item is followed by a comma. -/
def tupleText : List Text → Text
  | [item] => '(' :: (item ++ [',', ')'])
  | items => '(' :: (commaSeparated items ++ [')'])

mutual

/-- The value as it is written inside another value, unless a numeral in it is too long. -/
def written? : Value → Option Text
  | absent => some "None"
  | bool b => some (if b then "True" else "False")
  | int n => Text.ofInt? n
  | real d => some d.text
  | text t => some (Text.quoted t)
  | bytes bs => some (Text.quotedBytes bs)
  | list items => do
    let items ← writtenAll? items
    return '[' :: (commaSeparated items ++ [']'])
  | tuple items => do return tupleText (← writtenAll? items)
  | mapping entries => do
    let entries ← writtenEntries? entries
    return '{' :: (commaSeparated entries ++ ['}'])
  | caller id roles attributes => do
    let attributes ← writtenAttributes? attributes
    return ("UserContext(user_id=" : Text) ++ Text.quoted id ++ (", roles=" : Text) ++
      writtenTexts roles ++ (", attributes=\x7b" : Text) ++ commaSeparated attributes ++
      ("\x7d)" : Text)

/-- Each of the values as it is written inside another one. -/
def writtenAll? : List Value → Option (List Text)
  | [] => some []
  | v :: rest => do return (← written? v) :: (← writtenAll? rest)

/-- An entry of a mapping, with a colon behind its key. -/
def writtenPair? : Value × Value → Option Text
  | (k, v) => do return (← written? k) ++ ':' :: ' ' :: (← written? v)

/-- The entries of a mapping. -/
def writtenEntries? : List (Value × Value) → Option (List Text)
  | [] => some []
  | e :: rest => do return (← writtenPair? e) :: (← writtenEntries? rest)

/-- An attribute of a caller, with a colon behind its name. -/
def writtenAttribute? : Text × Value → Option Text
  | (k, v) => do return Text.quoted k ++ ':' :: ' ' :: (← written? v)

/-- The attributes of a caller. -/
def writtenAttributes? : List (Text × Value) → Option (List Text)
  | [] => some []
  | e :: rest => do return (← writtenAttribute? e) :: (← writtenAttributes? rest)

end

/-- The text of a value, unless it cannot be written. -/
def toText? : Value → Option Text
  | text t => some t
  | v => written? v

/-! ## Mappings -/

/-- A number as a fraction: its numerator and its denominator. -/
def fraction? : Value → Option (Int × Nat)
  | bool b => some (if b then 1 else 0, 1)
  | int n => some (n, 1)
  | real d =>
    if d.exponentBits == 2047 then none
    else
      let m := d.magnitude
      let sign : Int := if d.isNegative then -1 else 1
      some (sign * (m.significand * Nat.pow 2 m.exponent.toNat : Nat),
        Nat.pow 2 (-m.exponent).toNat)
  | _ => none

mutual

/-- Two keys of a mapping name the same entry: numbers of equal value do, whatever their type,
and so do equal texts, and tuples of such keys. -/
def sameKey : Value → Value → Bool
  | absent, absent => true
  | text s, text t => s == t
  | bytes s, bytes t => s == t
  | tuple s, tuple t => sameKeys s t
  | v, w =>
    match fraction? v, fraction? w with
    | some (n, d), some (m, e) => n * e == m * d
    | none, none =>
      match v, w with
      | real a, real b => a == b && a.fractionBits == 0
      | _, _ => false
    | _, _ => false

/-- Two sequences agree key by key. -/
def sameKeys : List Value → List Value → Bool
  | [], [] => true
  | v :: vs, w :: ws => sameKey v w && sameKeys vs ws
  | _, _ => false

end

/-- The entries of a mapping with a key set to a value: in its old place and spelling, or at the
end if it is new. -/
def setMappingEntry (key value : Value) : List (Value × Value) → List (Value × Value)
  | [] => [(key, value)]
  | e :: rest =>
    if sameKey e.1 key then (e.1, value) :: rest else e :: setMappingEntry key value rest

/-- The mapping that a sequence of assignments leaves behind. -/
def mappingOfList (assignments : List (Value × Value)) : Value :=
  mapping (assignments.foldl (fun es e => setMappingEntry e.1 e.2 es) [])

end Value

end RoleGate
