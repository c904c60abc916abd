import RoleGate.Pattern.Syntax
import RoleGate.Text.Blank
import RoleGate.Text.Digit
import RoleGate.Text.LetterCase
import RoleGate.Text.Word

/-!
# Character sets

Which characters the one-character nodes of a pattern accept under the flags in force.

Where case is ignored, a character is compared by its lower case. A set accepts the lower case of
its members and the other letters with the same upper case; a set that holds no cased character
compares characters as they are. Beyond the first `0x10000` code points a member stands for itself,
and a range also for the characters whose upper case it holds.
-/

namespace RoleGate.Pattern

/-- The character belongs to a class, among the ASCII characters only or among all. -/
def Category.holds (ascii : Bool) (kind : Category) (n : Nat) : Bool :=
  match kind, ascii with
  | .digit, true => 48 ≤ n && n ≤ 57
  | .digit, false => Text.isDigit n
  | .blank, true => (9 ≤ n && n ≤ 13) || n == 32
  | .blank, false => Text.isBlank (Char.ofNat n)
  | .word, true => Text.isAsciiLetter n || (48 ≤ n && n ≤ 57) || n == 95
  | .word, false => Text.isWord n

/-- Lower case and cased characters, of the ASCII alphabet or of all. -/
structure Folding where
  ascii : Bool

namespace Folding

/-- The lower case of a character. -/
def lower (f : Folding) (n : Nat) : Nat :=
  if f.ascii then Text.toLowerAscii n else Text.toLower n

/-- The character has case. -/
def isCased (f : Folding) (n : Nat) : Bool :=
  if f.ascii then Text.isAsciiLetter n else Text.isCased n

/-- The other lower case letters that count as equal to the lower case letter `n`. -/
def variants (f : Folding) (n : Nat) : List Nat :=
  if f.ascii then [] else Text.lowerVariants n

/-- The characters whose lower case is `n`. -/
def preimages (f : Folding) (n : Nat) : List Nat :=
  if f.ascii then
    if 97 ≤ n && n ≤ 122 then [n - 32, n]
    else if 65 ≤ n && n ≤ 90 then [] else [n]
  else Text.lowerPreimages n

/-- The range holds a cased character. -/
def rangeIsCased (f : Folding) (first last : Nat) : Bool :=
  if f.ascii then
    (first ≤ 90 && 65 ≤ last) || (first ≤ 122 && 97 ≤ last)
  else
    let meets (r : Text.CaseRun) : Bool :=
      let start := if first ≤ r.first then r.first
        else r.first + (first - r.first + r.step - 1) / r.step * r.step
      start ≤ r.last && start ≤ last
    Text.lowerRuns.any meets || Text.upperRuns.any meets

/-- A member of a set has case, or lies where case is always looked at. -/
def itemIsCased (f : Folding) : SetItem → Bool
  | .code n => 0x10000 ≤ f.lower n || f.isCased n
  | .range first last => 0x10000 ≤ last || f.rangeIsCased first last
  | .category _ _ => false

/-- A member of a set accepts the character `n`, which stands for its lower case if the set has
cased members. -/
def itemAccepts (f : Folding) (n : Nat) : SetItem → Bool
  | .code c =>
    let low := f.lower c
    if 0x10000 ≤ low then n == c else n == low || (f.variants low).contains n
  | .range first last =>
    let inPlane := (n :: f.variants n).any fun low =>
      (f.preimages low).any fun c => first ≤ c && c ≤ last && c < 0x10000
    let beyond := 0x10000 ≤ last &&
      ((first ≤ n && n ≤ last) || (first ≤ Text.toUpper n && Text.toUpper n ≤ last))
    inPlane || beyond
  | .category kind negated => negated != kind.holds f.ascii n

end Folding

/-- The set member accepts exactly this character. -/
def SetItem.accepts (ascii : Bool) (n : Nat) : SetItem → Bool
  | .code c => n == c
  | .range first last => first ≤ n && n ≤ last
  | .category kind negated => negated != kind.holds ascii n

/-- What more is known of the test of a one-character node. -/
inductive CharForm where
  /-- The test accepts one character and compares it as it is. -/
  | exact (n : Nat)
  /-- The test asks a set for the character as it is. -/
  | member
  /-- The test asks a set for the lower case of the character. -/
  | folded
  /-- Any other test. -/
  | other
  deriving DecidableEq

/-- How a one-character node looks at a character. -/
structure CharTest where
  accepts : Nat → Bool
  form : CharForm

namespace CharTest

/-- The test does not decide whether a way that begins with it is entered. -/
@[inline] def mayMiss (t : CharTest) : Bool :=
  match t.form with
  | .exact _ | .member => false
  | .folded | .other => true

/-- There is a character at the position and the test accepts it. -/
@[inline] def admits (t : CharTest) (input : Array Char) (pos : Nat) : Bool :=
  if h : pos < input.size then t.accepts input[pos].toNat else false

/-- The test of the node for any character: where the dot does not stand for all, a line end is
left out. -/
def ofAny (flags : List Flag) : CharTest :=
  let all := flags.contains .dotAll
  ⟨fun n => all || n != 10, .other⟩

/-- The test of a set. -/
def ofSet (flags : List Flag) (negated : Bool) (items : List SetItem) : CharTest :=
  let ascii := flags.contains .ascii
  if flags.contains .ignoreCase then
    let folding : Folding := ⟨ascii⟩
    if items.any folding.itemIsCased then
      ⟨fun n => negated != items.any (folding.itemAccepts (folding.lower n)), .folded⟩
    else ⟨fun n => negated != items.any (folding.itemAccepts n), .member⟩
  else ⟨fun n => negated != items.any (·.accepts ascii n), .member⟩

/-- The test of a literal. A letter with several lower case forms is compared with the set of
them. -/
def ofLiteral (flags : List Flag) (c : Nat) : CharTest :=
  let folding : Folding := ⟨flags.contains .ascii⟩
  if flags.contains .ignoreCase && folding.isCased c then
    let low := folding.lower c
    let variants := folding.variants low
    let accepted := low :: variants
    ⟨fun n => accepted.contains (folding.lower n), if variants.isEmpty then .other else .folded⟩
  else ⟨(· == c), .exact c⟩

/-- The test that accepts what another one does not. -/
def negate (t : CharTest) : CharTest where
  accepts n := !t.accepts n
  form := if t.form = .folded then .folded else .other

end CharTest

/-- How a node looks at a character if it goes over exactly one. -/
def Node.charTest? (flags : List Flag) : Node → Option CharTest
  | literal c => some (.ofLiteral flags c)
  | notLiteral c => some (CharTest.ofLiteral flags c).negate
  | any => some (.ofAny flags)
  | set negated items => some (.ofSet flags negated items)
  | flagged on off body => body.charTest? (Flag.combine flags on off)
  | _ => none

/-- How what begins with a node looks at its first character, if it begins with a one-character
node. `follow` tells it of what stands behind the node. -/
def Node.head? (flags : List Flag) (follow : Option CharTest) : Node → Option CharTest
  | empty => follow
  | seq a b => a.head? flags (b.head? flags follow)
  | flagged on off body => body.head? (Flag.combine flags on off) follow
  | n => n.charTest? flags

end RoleGate.Pattern
