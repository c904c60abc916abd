import RoleGate.Text.CharName.Alias
import RoleGate.Text.CharName.Ancient
import RoleGate.Text.CharName.Coded
import RoleGate.Text.CharName.EastAsian
import RoleGate.Text.CharName.European
import RoleGate.Text.CharName.Extended
import RoleGate.Text.CharName.Forms
import RoleGate.Text.CharName.Hieroglyphs
import RoleGate.Text.CharName.Indic
import RoleGate.Text.CharName.MiddleEastern
import RoleGate.Text.CharName.Notation
import RoleGate.Text.CharName.Pictographs
import RoleGate.Text.CharName.Regional
import RoleGate.Text.CharName.Syllabaries
import RoleGate.Text.CharName.Syllable
import RoleGate.Text.CharName.Symbols

/-!
# Character names

The names by which Unicode 14 knows its characters, with their aliases. Small and capital letters of
a name are the same, but in the names of ideographs and syllables, which are capitals.

## Main definitions

* `Text.charNamed?` — the character with a name.
-/

namespace RoleGate.Text

namespace CharName

/-- All names that are listed, in order of their code points. -/
def listedNames : List (List NameRun) := [
  europeanNames, middleEasternNames, indicNames, regionalNames, extendedNames,
  symbolNames, eastAsianNames, formNames, ancientNames,
  hieroglyphNames, syllabaryNames, notationNames, pictographNames]

/-- The code point of the character that is listed under the given name in capital letters. -/
def listed? (name : Text) : Option Nat :=
  (listedNames.flatten ++ selectorAliases).findSome? (·.codeOf? name)

/-- The capital of a small ASCII letter; any other character is its own. -/
def toUpperAscii (c : Char) : Char :=
  if 97 ≤ c.toNat && c.toNat ≤ 122 then Char.ofNat (c.toNat - 32) else c

end CharName

/-- The code point of the character with the given name. -/
def charNamed? (name : Text) : Option Nat :=
  let capitals := name.map CharName.toUpperAscii
  CharName.ideographNamed? name <|> CharName.syllableNamed? name <|>
    CharName.codedNamed? capitals <|> CharName.aliases.lookup (String.ofList capitals) <|>
    CharName.listed? capitals

end RoleGate.Text
