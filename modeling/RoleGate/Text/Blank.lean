import RoleGate.Text.Basic

/-!
# Blank characters

The characters that separate words without being seen, and the removal of blanks from the two
ends of a text. The set holds the blanks of every script and the four information separators; the
zero-width characters are not in it.
-/

namespace RoleGate.Text

/-- Spaces, tabs, line ends, information separators and the blanks of other scripts. -/
def isBlank (c : Char) : Bool :=
  let n := c.toNat
  (0x09 ≤ n && n ≤ 0x0D) || (0x1C ≤ n && n ≤ 0x20) || n == 0x85 || n == 0xA0 || n == 0x1680 ||
    (0x2000 ≤ n && n ≤ 0x200A) || n == 0x2028 || n == 0x2029 || n == 0x202F || n == 0x205F ||
    n == 0x3000

/-- The information separators. -/
def isSeparator (c : Char) : Bool :=
  0x1C ≤ c.toNat && c.toNat ≤ 0x1F

/-- The text without the characters of a kind at either end. -/
def trimBy (kind : Char → Bool) (t : Text) : Text :=
  ((t.dropWhile kind).reverse.dropWhile kind).reverse

/-- The text without the blanks at its start. -/
def trimLeft (t : Text) : Text :=
  t.dropWhile isBlank

/-- The text without the blanks at either end. -/
def trim (t : Text) : Text :=
  trimBy isBlank t

/-- Nothing but blanks. -/
def isBlankText (t : Text) : Bool :=
  t.all isBlank

theorem isBlankText_iff {t : Text} : isBlankText t = true ↔ ∀ c ∈ t, isBlank c = true :=
  List.all_eq_true

theorem isBlankText_cons_iff {c : Char} {t : Text} :
    isBlankText (c :: t) = true ↔ isBlank c = true ∧ isBlankText t = true :=
  Bool.and_eq_true_iff

end RoleGate.Text
