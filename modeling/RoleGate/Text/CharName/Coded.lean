import RoleGate.Text.Basic
import RoleGate.Text.CodeRange

/-!
# Names that hold a code point

The unified ideographs, and the characters of some blocks, are named by their code point in capital
hexadecimal digits.
-/

namespace RoleGate.Text.CharName

/-- The value of a capital hexadecimal digit. -/
def hexValue? (c : Char) : Option Nat :=
  if '0' ≤ c && c ≤ '9' then some (c.toNat - 48)
  else if 'A' ≤ c && c ≤ 'F' then some (c.toNat - 55)
  else none

/-- The number that capital hexadecimal digits stand for. -/
def hexadecimal? (digits : Text) : Option Nat :=
  (digits.mapM hexValue?).map fun values => values.foldl (fun n d => n * 16 + d) 0

/-- The unified ideographs. -/
def ideographs : CodeRanges := [
  (0x3400, 0x4DBF), (0x4E00, 0x9FFF), (0x20000, 0x2A6DF), (0x2A700, 0x2B738), (0x2B740, 0x2B81D),
  (0x2B820, 0x2CEA1), (0x2CEB0, 0x2EBE0), (0x30000, 0x3134A)]

/-- The code point of the unified ideograph with the given name: four or five digits, where a zero
may stand in front. -/
def ideographNamed? (name : Text) : Option Nat :=
  match behind? "CJK UNIFIED IDEOGRAPH-".toList name with
  | none => none
  | some digits =>
    if digits.length = 4 || digits.length = 5 then
      (hexadecimal? digits).filter ideographs.covers
    else none

/-- The blocks of other characters that are named by a stem and their code point. -/
def codedBlocks : List (String × CodeRanges) := [
  ("CJK COMPATIBILITY IDEOGRAPH-", [(0xF900, 0xFA6D), (0xFA70, 0xFAD9), (0x2F800, 0x2FA1D)]),
  ("KHITAN SMALL SCRIPT CHARACTER-", [(0x18B00, 0x18CD5)]),
  ("NUSHU CHARACTER-", [(0x1B170, 0x1B2FB)])]

/-- The code point of the character of such a block with the given name: as many digits as the code
point has. -/
def codedNamed? (name : Text) : Option Nat :=
  codedBlocks.findSome? fun (stem, ranges) =>
    match behind? stem.toList name with
    | none => none
    | some digits =>
      (hexadecimal? digits).filter fun n => ranges.covers n && digits.head? != some '0'

end RoleGate.Text.CharName
