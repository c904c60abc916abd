/-!
# Shortest decimals

The decimal with the fewest digits among those that read back as a given binary fraction, and the
nearest of them to it.

A positive binary fraction `m * 2 ^ q` is read from every real in an interval around it, which
reaches half way to its neighbours and contains its ends if `m` is even. A decimal with `n` digits
lies on the grid of the multiples of a power of ten; if the interval holds a point of that grid, it
holds one of the two points next to the fraction itself.
-/

namespace RoleGate.Decimal

/-- A positive number `significand * 2 ^ exponent`. The gap below it is half the gap above it if
`narrowBelow` holds. -/
structure Binary where
  significand : Nat
  exponent : Int
  narrowBelow : Bool

/-- A number `coefficient * 10 ^ exponent`. -/
structure Scaled where
  coefficient : Nat
  exponent : Int

namespace Binary

/-- The number in quarters of its last place, over a common denominator: `4 * m * 2 ^ (q - 2)`. -/
def quarter (b : Binary) : Nat × Nat :=
  let e := b.exponent - 2
  (Nat.pow 2 e.toNat, Nat.pow 2 (-e).toNat)

/-- The position of the first decimal digit: the number lies between `10 ^ p` and `10 ^ (p + 1)`. -/
def leadingPosition (b : Binary) : Int :=
  let (up, down) := b.quarter
  let scaled := 4 * b.significand * up * Nat.pow 10 400 / down
  ((Nat.toDigits 10 scaled).length : Int) - 401

/-- The number `coefficient * 10 ^ exponent` reads back as `b`. -/
def isReadFrom (b : Binary) (s : Scaled) : Bool :=
  let (up, down) := b.quarter
  let decimalUp := Nat.pow 10 s.exponent.toNat
  let decimalDown := Nat.pow 10 (-s.exponent).toNat
  let point := s.coefficient * decimalUp * down
  let low := (4 * b.significand - if b.narrowBelow then 1 else 2) * up * decimalDown
  let high := (4 * b.significand + 2) * up * decimalDown
  if b.significand % 2 == 0 then low ≤ point && point ≤ high else low < point && point < high

/-- The point of the grid of `10 ^ exponent` next below the number, and how far the number lies
beyond it: the excess over the whole step. -/
def gridBelow (b : Binary) (exponent : Int) : Nat × Nat × Nat :=
  let (up, down) := b.quarter
  let num := 4 * b.significand * up * Nat.pow 10 (-exponent).toNat
  let den := down * Nat.pow 10 exponent.toNat
  (num / den, num % den, den)

/-- The nearest decimal with `digits` digits that reads back as `b`; of two equally near the one
with the even last digit. -/
def withDigits? (b : Binary) (digits : Nat) : Option Scaled :=
  let exponent := b.leadingPosition - digits + 1
  let (below, excess, step) := b.gridBelow exponent
  let lower : Scaled := ⟨below, exponent⟩
  let upper : Scaled := ⟨below + 1, exponent⟩
  match b.isReadFrom lower, b.isReadFrom upper with
  | false, false => none
  | true, false => some lower
  | false, true => some upper
  | true, true =>
    if 2 * excess < step || (2 * excess == step && below % 2 == 0) then some lower else some upper

/-- The shortest decimal that reads back as `b`, and the nearest of that length. Seventeen digits
always suffice. -/
def shortest (b : Binary) : Scaled :=
  ((List.range 17).findSome? fun n => b.withDigits? (n + 1)).getD ⟨0, 0⟩

end Binary

end RoleGate.Decimal
