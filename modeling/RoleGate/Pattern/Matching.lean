import RoleGate.Pattern.Reader
import RoleGate.Pattern.Repetition

/-!
# Matching

Matching with backtracking. Each node becomes a step: from a position, and from the trail so far, it
tries its ways to go on in order of preference, and hands each to the continuation until one of them
succeeds.

Steps know where they stand: whether they are part of a round of a repetition, and how the part of
the pattern behind them looks at its first character. A choice does not enter a way whose first
character does not fit.

## Main definitions

* `Node.step` — the step of a node.
* `Pattern.accepts` — whether a pattern goes over a whole text.
-/

namespace RoleGate.Pattern

namespace Step

/-! ## Steps -/

/-- A line ends at the character. -/
def isLineEnd (c : Option Char) : Bool :=
  c == some '\n'

/-- The anchor holds at a position. -/
def holdsAt (input : Array Char) (flags : List Flag) (pos : Nat) : Anchor → Bool
  | .textStart => pos == 0
  | .textEnd => pos == input.size
  | .lineStart =>
    pos == 0 || (flags.contains .multiLine && isLineEnd input[pos - 1]?)
  | .lineEnd =>
    pos == input.size || (isLineEnd input[pos]? &&
      (flags.contains .multiLine || pos + 1 == input.size))
  | .boundary => !input.isEmpty && wordBefore != wordAfter
  | .nonBoundary => !input.isEmpty && wordBefore == wordAfter
where
  isWord (c : Option Char) : Bool :=
    c.any fun c => Category.holds (flags.contains .ascii) .word c.toNat
  wordBefore : Bool := pos != 0 && isWord input[pos - 1]?
  wordAfter : Bool := isWord input[pos]?

/-- The characters from one position equal those from another for a given length. -/
def repeats (input : Array Char) (same : Nat → Nat → Bool) (source pos : Nat) : Nat → Bool
  | 0 => true
  | length + 1 =>
    match input[source]?, input[pos]? with
    | some c, some d => same c.toNat d.toNat && repeats input same (source + 1) (pos + 1) length
    | _, _ => false

/-- Two characters count as equal under the flags. -/
def sameChar (flags : List Flag) (c d : Nat) : Bool :=
  if flags.contains .ignoreCase then
    let folding : Folding := ⟨flags.contains .ascii⟩
    folding.lower c == folding.lower d
  else c == d

/-- One accepted character. -/
def ofTest (input : Array Char) (test : CharTest) : Step := fun pos t next =>
  if test.admits input pos then next (pos + 1) t else .failed t

/-- One step after the other. -/
def andThen (first second : Step) : Step := fun pos t next =>
  first pos t fun p t => second p t next

/-- One way, and another if it fails. `start` tells how the first way looks at its first
character. -/
def either (input : Array Char) (inLoop : Bool) (start : Option CharTest) (first second : Step) :
    Step := fun pos t next =>
  if mayEnter pos then
    (first pos (t.moveTo pos) next).orElse fun failed =>
      second pos (failed.takeBack inLoop t.marks) next
  else second pos t next
where
  mayEnter (pos : Nat) : Bool :=
    match start with
    | some test => test.mayMiss || test.admits input pos
    | none => true

/-- A step that marks where it begins and ends as the ends of a group. -/
def marking (group : Nat) (body : Step) : Step := fun pos t next =>
  body pos (t.mark (2 * (group - 1)) pos) fun p t => next p (t.mark (2 * (group - 1) + 1) p)

/-- The first way through a step and no other. -/
def committed (body : Step) : Step := fun pos t next =>
  let o := body.alone pos (t.moveTo pos)
  if o.matched then next o.trail.cursor o.trail else o.orBackAt pos

/-- What a group went over, once more. -/
def ofBackref (input : Array Char) (flags : List Flag) (group : Nat) : Step := fun pos t next =>
  match t.marks.span? group with
  | some (first, last) =>
    if repeats input (sameChar flags) first pos (last - first) then next (pos + (last - first)) t
    else .failed t
  | none => .failed t

/-- What can be seen from a position, ahead or some way back. -/
def ofLook (body : Step) (back : Nat) : Step := fun pos t next =>
  if pos < back then .failed t
  else
    let o := body.alone (pos - back) (t.moveTo (pos - back))
    if o.matched then next pos o.trail else o

/-- What cannot be seen from a position, ahead or some way back. -/
def ofNegatedLook (body : Step) (inLoop : Bool) (back : Nat) : Step := fun pos t next =>
  if pos < back then next pos t
  else
    let o := body.alone (pos - back) (t.moveTo (pos - back))
    if o.matched then .failed o.trail else next pos (o.trail.takeBack inLoop t.marks)

/-- One step if a group took part, and another if it did not. -/
def whether (group : Nat) (yes no : Step) : Step := fun pos t next =>
  if (t.marks.span? group).isSome then yes pos t next else no pos t next

end Step

variable [Machine]

/-- The step of a node under the flags in force around it, in a round of a repetition or not.
`follow` tells how what stands behind the node looks at its first character. -/
def Node.step (input : Array Char) :
    (inLoop : Bool) → List Flag → (follow : Option CharTest) → Node → Step
  | _, _, _, empty => fun pos t next => next pos t
  | _, _, _, never => fun _ t _ => .failed t
  | _, flags, _, literal c => Step.ofTest input (.ofLiteral flags c)
  | _, flags, _, notLiteral c => Step.ofTest input (CharTest.ofLiteral flags c).negate
  | _, flags, _, any => Step.ofTest input (.ofAny flags)
  | _, flags, _, set negated items => Step.ofTest input (.ofSet flags negated items)
  | _, flags, _, anchor a => fun pos t next =>
    if Step.holdsAt input flags pos a then next pos t else .failed t
  | inLoop, flags, follow, seq a b =>
    (a.step input inLoop flags (b.head? flags follow)).andThen (b.step input inLoop flags follow)
  | inLoop, flags, _, alt a b =>
    Step.either input inLoop (a.head? flags none) (a.step input inLoop flags none)
      (b.step input inLoop flags none)
  | inLoop, flags, _, group index body => (body.step input inLoop flags none).marking index
  | inLoop, flags, follow, flagged on off body =>
    body.step input inLoop (Flag.combine flags on off) follow
  | inLoop, flags, follow, repetition min max greed body =>
    match body.charTest? flags with
    | some test => Step.ofRuns input test inLoop follow min max greed
    | none =>
      let round := body.step input (inLoop || greed ≠ .possessive) flags none
      Step.ofRounds input round inLoop min max greed
  | inLoop, flags, _, atomic body => (body.step input inLoop flags none).committed
  | inLoop, flags, _, look ahead negated body =>
    let seen := body.step input inLoop flags none
    let back := if ahead then 0 else body.width.1
    if negated then seen.ofNegatedLook inLoop back else seen.ofLook back
  | _, flags, _, backref index _ => Step.ofBackref input flags index
  | inLoop, flags, follow, conditional index yes no =>
    let behindYes := if no = empty then follow else none
    Step.whether index (yes.step input inLoop flags behindYes) (no.step input inLoop flags follow)

/-- The node goes over the whole text. A text shorter than the least width is not looked at. -/
def Node.run (node : Node) (flags : List Flag) (text : Text) : Outcome :=
  let input := text.toArray
  let start : Trail := ⟨0, #[]⟩
  if input.size < node.width.1 then .failed start
  else node.step input false flags none 0 start fun p t => ⟨p == input.size, t⟩

/-- The pattern accepts the whole text. A malformed pattern accepts nothing, and one that is worse
than malformed has no answer; nor is there one if a group of the match ends before it begins. -/
def accepts (pattern text : Text) : Except Abort Bool :=
  match Node.read pattern with
  | .ok (node, flags) =>
    let o := node.run flags text
    if o.matched && o.trail.marks.isReversed then .error .groupReversed else .ok o.matched
  | .error .malformed => .ok false
  | .error (.abort cause) => .error cause

end RoleGate.Pattern
