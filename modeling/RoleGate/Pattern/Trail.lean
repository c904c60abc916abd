import RoleGate.Pattern.Syntax

/-!
# Trails

What a matching writes down on its way: a cursor, and where groups begin and end. A failed attempt
leaves its trail behind, and the next one starts from it. Within a repetition all marks are taken
back first; elsewhere only their number is, so that a mark written over stays so. The cursor is put
where an attempt begins. Machines differ in whether it is put back after the failed round of a
possessive repetition, behind which the rest goes on from it.

## Main definitions

* `Machine` — what may differ between matching machines.
* `Marks` — where groups begin and end.
* `Trail` — the cursor and the marks.
* `Outcome` — whether an attempt reached the end, and its trail.
* `Step` — a way through a part of a pattern, given what is left to match behind it.
-/

namespace RoleGate.Pattern

/-- What may differ between matching machines. A machine puts the cursor back after the failed round
of a possessive repetition, or, as a fault of early ones, leaves it where the round failed. -/
class Machine where
  restoresCursor : Bool

/-- Unless another machine is given, the cursor is put back. -/
instance (priority := low) Machine.restoring : Machine := ⟨true⟩

/-- Where groups begin and end: entry `2 * i` is the start of group `i + 1` and entry `2 * i + 1`
its end. There are no entries behind the last one that was written. -/
abbrev Marks := Array (Option Nat)

namespace Marks

/-- The marks with one more entry written, and nothing at the entries skipped on the way. -/
def write (m : Marks) (i position : Nat) : Marks :=
  if i < m.size then m.setIfInBounds i (some position)
  else (m ++ Array.replicate (i - m.size) none).push (some position)

/-- The marks of a group, if both are written. -/
def ends? (m : Marks) (group : Nat) : Option (Nat × Nat) :=
  match m[2 * (group - 1)]?.join, m[2 * (group - 1) + 1]?.join with
  | some first, some last => some (first, last)
  | _, _ => none

/-- Where a group that took part began and ended. -/
def span? (m : Marks) (group : Nat) : Option (Nat × Nat) :=
  (m.ends? group).filter fun (first, last) => first ≤ last

/-- A group ends before it begins: its marks stem from different rounds. -/
def isReversed (m : Marks) : Bool :=
  (List.range ((m.size + 1) / 2)).any fun i =>
    (m.ends? (i + 1)).any fun (first, last) => last < first

end Marks

/-- What a matching has written down. -/
structure Trail where
  cursor : Nat
  marks : Marks

namespace Trail

/-- The trail with the cursor at a place. -/
@[inline] def moveTo (t : Trail) (position : Nat) : Trail :=
  { t with cursor := position }

/-- The trail with one more mark. -/
@[inline] def mark (t : Trail) (i position : Nat) : Trail :=
  { t with marks := t.marks.write i position }

/-- The trail with the marks taken back: all of them within a repetition, else their number. -/
@[inline] def takeBack (t : Trail) (inLoop : Bool) (saved : Marks) : Trail :=
  { t with marks := if inLoop then saved else t.marks.shrink saved.size }

end Trail

/-- How an attempt ended, and the trail it leaves. -/
structure Outcome where
  matched : Bool
  trail : Trail

namespace Outcome

/-- The outcome of an attempt that fails. -/
@[inline] def failed (t : Trail) : Outcome :=
  ⟨false, t⟩

/-- Another attempt from the trail of a failed one. -/
@[inline] def orElse (o : Outcome) (next : Trail → Outcome) : Outcome :=
  if o.matched then o else next o.trail

/-- The outcome with the cursor put back if the attempt failed. -/
@[inline] def orBackAt (o : Outcome) (position : Nat) : Outcome :=
  o.orElse fun t => failed (t.moveTo position)

end Outcome

/-- What is left to match from a position on. -/
abbrev Continuation := Nat → Trail → Outcome

/-- A way through a part of a pattern, given what is left to match behind it. -/
abbrev Step := Nat → Trail → Continuation → Outcome

/-- The step by itself, which leaves the cursor where it ends. -/
@[inline] def Step.alone (s : Step) (position : Nat) (t : Trail) : Outcome :=
  s position t fun p t => ⟨true, t.moveTo p⟩

end RoleGate.Pattern
