import RoleGate.Text.Blank

/-!
# Runs of names

The names of consecutive characters, written without repeating the stem they begin with.
-/

namespace RoleGate.Text.CharName

/-- Names of consecutive characters from `first` on. Each is the stem and an ending; the endings are
separated by commas, and lines may be broken between them. -/
structure NameRun where
  first : Nat
  stem : String
  endings : String

namespace NameRun

/-- What follows the stem in each name. -/
def endingList (r : NameRun) : List Text :=
  (splitOn ',' r.endings.toList).map trim

/-- The code point of the character with the given name. -/
def codeOf? (r : NameRun) (name : Text) : Option Nat :=
  match behind? r.stem.toList name with
  | none => none
  | some ending => (r.endingList.idxOf? ending).map (r.first + ·)

end NameRun

end RoleGate.Text.CharName
