import RoleGate.Text.Basic
import RoleGate.Decimal.Shortest

/-!
# Decimal notation of floating point numbers

How a number in double precision is written: by its shortest digits, in positional notation if its
first digit stands between the fourth place behind the point and the sixteenth before it, otherwise
with an exponent of at least two digits. A whole number keeps one zero behind the point.
-/

namespace RoleGate.Decimal

/-- A number in double precision, given by its sign, exponent and fraction bits. -/
abbrev Double := UInt64

namespace Double

/-- The sign bit is set. -/
def isNegative (d : Double) : Bool :=
  d.toNat / Nat.pow 2 63 == 1

/-- The eleven exponent bits. -/
def exponentBits (d : Double) : Nat :=
  d.toNat / Nat.pow 2 52 % Nat.pow 2 11

/-- The fifty-two fraction bits. -/
def fractionBits (d : Double) : Nat :=
  d.toNat % Nat.pow 2 52

/-- The magnitude of a finite number. -/
def magnitude (d : Double) : Binary :=
  if d.exponentBits == 0 then ⟨d.fractionBits, -1074, false⟩
  else
    ⟨d.fractionBits + Nat.pow 2 52, (d.exponentBits : Int) - 1075,
      d.fractionBits == 0 && d.exponentBits != 1⟩

/-- Digits with the point behind the first of them, and the exponent that makes up for it. -/
def withExponent (digits : Text) (position : Int) : Text :=
  let mantissa : Text :=
    match digits with
    | [] => []
    | [d] => [d]
    | d :: rest => d :: '.' :: rest
  let size := Text.ofNat position.natAbs
  let padded := if size.length < 2 then '0' :: size else size
  mantissa ++ 'e' :: (if position < 0 then '-' else '+') :: padded

/-- Digits with the first of them at `position`, counted from the last place before the point. -/
def positional (digits : Text) (position : Int) : Text :=
  if position < 0 then
    '0' :: '.' :: (List.replicate (-position - 1).toNat '0' ++ digits)
  else
    let whole := position.toNat + 1
    if digits.length ≤ whole then
      digits ++ List.replicate (whole - digits.length) '0' ++ ['.', '0']
    else digits.take whole ++ '.' :: digits.drop whole

/-- The text of a finite magnitude. -/
def magnitudeText (d : Double) : Text :=
  if d.exponentBits == 0 && d.fractionBits == 0 then ['0', '.', '0']
  else
    let s := d.magnitude.shortest
    let written := Text.ofNat s.coefficient
    let position := (written.length : Int) - 1 + s.exponent
    let digits := (written.reverse.dropWhile (· == '0')).reverse
    if -4 ≤ position && position < 16 then positional digits position
    else withExponent digits position

/-- The text of a number; infinities and values that are not numbers have words of their own. -/
def text (d : Double) : Text :=
  if d.exponentBits == 2047 && d.fractionBits != 0 then "nan"
  else
    let magnitude : Text := if d.exponentBits == 2047 then "inf" else d.magnitudeText
    if d.isNegative then '-' :: magnitude else magnitude

end Double

end RoleGate.Decimal
