import RoleGate.Key.Basic
import RoleGate.Text.Blank

/-!
# Normal form of rule keys

Blanks in a key do not count, except inside the literals of its argument list. The normal form of a
key leaves out the blanks that do not count.

A quote or a slash directly behind an opening bracket or a comma begins a literal. The literal ends
with the next such delimiter behind which, blanks aside, there is a comma or nothing but the closing
bracket. A literal without an end reaches to the end of the key.
-/

namespace RoleGate.Key

/-- The delimiters of literals. -/
def isDelimiter (c : Char) : Bool :=
  c == '"' || c == '/'

/-- The characters behind which a literal may begin. -/
def isOpener (c : Char) : Bool :=
  c == '[' || c == ','

/-- A delimiter with this text behind it ends a literal. -/
def closes (behind : Text) : Bool :=
  match Text.trimLeft behind with
  | ',' :: _ => true
  | ']' :: rest => Text.isBlankText rest
  | _ => false

/-- Where in a key a reader stands: outside of literals behind some character, or inside a
literal. -/
inductive Place where
  | outside (last : Option Char)
  | inside (delimiter : Char)
  deriving DecidableEq

/-- A literal may begin at this place. -/
def Place.opensLiteral : Place → Bool
  | .outside (some c) => isOpener c
  | _ => false

/-- The place behind a character that is kept. -/
def Place.behind (p : Place) (c : Char) (rest : Text) : Place :=
  match p with
  | .outside _ => if isDelimiter c && p.opensLiteral then .inside c else .outside (some c)
  | .inside d => if c == d && closes rest then .outside (some c) else .inside d

/-- The character does not count at this place. -/
def Place.drops (p : Place) (c : Char) : Bool :=
  match p with
  | .outside _ => Text.isBlank c
  | .inside _ => false

/-- The normal form of what follows a place. -/
def normalizeFrom (p : Place) : Text → Text
  | [] => []
  | c :: rest =>
    if p.drops c then normalizeFrom p rest
    else c :: normalizeFrom (p.behind c rest) rest

/-- The normal form of a key. -/
def normalize (key : Text) : Text :=
  normalizeFrom (.outside none) key

end RoleGate.Key
