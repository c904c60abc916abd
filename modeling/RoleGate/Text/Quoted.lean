import RoleGate.Text.Basic
import RoleGate.Text.Printable

/-!
# Quoted text

A text written between quotes so that every character of it can be seen. The quotes are apostrophes,
or double quotes if the text holds apostrophes and no double quote. A backslash, the quote in use,
the line ends and the tab have short escapes; other characters that cannot be shown are written by
their code in two, four or eight hexadecimal digits.
-/

namespace RoleGate.Text

/-- The hexadecimal numeral of `n`, filled with zeros to `width` digits. -/
def hex (width n : Nat) : Text :=
  let digits := Nat.toDigits 16 n
  List.replicate (width - digits.length) '0' ++ digits

/-- The quote that encloses the text. -/
def quoteFor (t : Text) : Char :=
  if t.contains apostrophe && !t.contains '"' then '"' else apostrophe

/-- The escape of a character that has a short one, or that is the quote in use. -/
def shortEscape? (quote c : Char) : Option Text :=
  if c == quote || c == '\\' then some ['\\', c]
  else if c == '\n' then some ['\\', 'n']
  else if c == '\r' then some ['\\', 'r']
  else if c == '\t' then some ['\\', 't']
  else none

/-- The code of a character behind the letter that says how many digits it has. -/
def codeEscape (n : Nat) : Text :=
  if n < 0x100 then '\\' :: 'x' :: hex 2 n
  else if n < 0x10000 then '\\' :: 'u' :: hex 4 n
  else '\\' :: 'U' :: hex 8 n

/-- A character as it is written between quotes. -/
def quoteChar (quote c : Char) : Text :=
  match shortEscape? quote c with
  | some t => t
  | none => if isPrintable c.toNat then [c] else codeEscape c.toNat

/-- The text between quotes. -/
def quoted (t : Text) : Text :=
  let quote := quoteFor t
  quote :: (t.flatMap (quoteChar quote) ++ [quote])

/-- A sequence of bytes between quotes, behind the letter that tells it from a text. Only the
visible ASCII characters and the space stand for themselves. -/
def quotedBytes (bytes : List UInt8) : Text :=
  let chars := bytes.map fun b => Char.ofNat b.toNat
  let quote := quoteFor chars
  let writeChar (c : Char) : Text :=
    match shortEscape? quote c with
    | some t => t
    | none => if 0x20 ≤ c.toNat && c.toNat < 0x7F then [c] else codeEscape c.toNat
  'b' :: quote :: (chars.flatMap writeChar ++ [quote])

end RoleGate.Text
