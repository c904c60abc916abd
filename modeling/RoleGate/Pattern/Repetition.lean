import RoleGate.Pattern.CharSet
import RoleGate.Pattern.Trail

/-!
# Repetitions

The steps of repetitions: of one character, and of any other step. An optional round that went over
nothing is the last one.

## Main definitions

* `Step.ofRuns` — the repetition of one character.
* `Step.ofRounds` — the repetition of a step.
-/

namespace RoleGate.Pattern.Step

/-! ## Repetitions of one character -/

/-- The end of the longest run of at most `limit` accepted characters from a position on. -/
def runEnd (input : Array Char) (test : Nat → Bool) : (limit pos : Nat) → Nat
  | 0, pos => pos
  | limit + 1, pos =>
    if h : pos < input.size then
      if test input[pos].toNat then runEnd input test limit (pos + 1) else pos
    else pos

/-- The longest of the lengths up to `extra` behind `start` that lets the rest match. Where the rest
begins with a literal, places without it are passed over. -/
def longest (input : Array Char) (inLoop : Bool) (follow : Option CharTest) (saved : Marks)
    (start : Nat) (next : Continuation) : (extra : Nat) → Trail → Outcome
  | 0, t => attempt start t
  | extra + 1, t =>
    (attempt (start + (extra + 1)) t).orElse (longest input inLoop follow saved start next extra)
where
  isPassedOver (pos : Nat) : Bool :=
    match follow with
    | some ⟨_, .exact c⟩ => if h : pos < input.size then input[pos].toNat != c else true
    | _ => false
  attempt (pos : Nat) (t : Trail) : Outcome :=
    if isPassedOver pos then .failed t
    else (next pos (t.moveTo pos)).orElse fun t => .failed (t.takeBack inLoop saved)

/-- The shortest of the lengths up to `extra` that lets the rest match. -/
def shortest (input : Array Char) (test : CharTest) (inLoop : Bool) (saved : Marks)
    (next : Continuation) : (extra pos : Nat) → Trail → Outcome
  | extra, pos, t =>
    (next pos (t.moveTo pos)).orElse fun t =>
      let t := (t.takeBack inLoop saved).moveTo pos
      if test.admits input pos then
        match extra with
        | 0 => .failed (if test.form = .folded then t.moveTo (pos + 1) else t)
        | extra + 1 => shortest input test inLoop saved next extra (pos + 1) t
      else .failed t

/-- A repetition of one character. Counting with a folded set takes the cursor along. -/
def ofRuns (input : Array Char) (test : CharTest) (inLoop : Bool) (follow : Option CharTest)
    (min : Nat) (max : Option Nat) (greed : Greed) : Step := fun pos t next =>
  let room := input.size - pos
  if room < min then .failed t
  else
    let most := (max.getD room).min room
    let stop := runEnd input test.accepts (if greed = .lazy then min else most) pos
    let t := t.moveTo (if test.form = .folded then stop else pos)
    if stop < pos + min then .failed t
    else
      match greed with
      | .greedy => longest input inLoop follow t.marks (pos + min) next (stop - (pos + min)) t
      | .lazy => shortest input test inLoop t.marks next (most - min) stop t
      | .possessive => next stop t

/-! ## Repetitions of a step -/

/-- One more optional round is allowed: there are not too many yet, and the last one did not begin
here. -/
def mayRepeat (max : Option Nat) (rounds : Nat) (last : Option Nat) (pos : Nat) : Bool :=
  (match max with
    | none => true
    | some n => rounds < n) &&
  (match last with
    | none => true
    | some p => p != pos)

/-- As many rounds as possible, then fewer. `last` is where the last optional round began. -/
def greedy (body : Step) (min : Nat) (max : Option Nat) (next : Continuation) :
    (fuel rounds : Nat) → (last : Option Nat) → Continuation
  | 0, _, _, _, t => .failed t
  | fuel + 1, rounds, last, pos, t =>
    let t := t.moveTo pos
    if rounds < min then
      (body pos t (greedy body min max next fuel (rounds + 1) last)).orBackAt pos
    else if mayRepeat max rounds last pos then
      (body pos t (greedy body min max next fuel (rounds + 1) (some pos))).orElse fun failed =>
        (next pos ((failed.takeBack true t.marks).moveTo pos)).orBackAt pos
    else (next pos t).orBackAt pos

/-- As few rounds as possible, then more. -/
def lazy (body : Step) (inLoop : Bool) (min : Nat) (max : Option Nat) (next : Continuation) :
    (fuel rounds : Nat) → (last : Option Nat) → Continuation
  | 0, _, _, _, t => .failed t
  | fuel + 1, rounds, last, pos, t =>
    let t := t.moveTo pos
    if rounds < min then
      (body pos t (lazy body inLoop min max next fuel (rounds + 1) last)).orBackAt pos
    else
      (next pos t).orElse fun failed =>
        let t := (failed.takeBack inLoop t.marks).moveTo pos
        if mayRepeat max rounds last pos then
          (body pos t (lazy body inLoop min max next fuel (rounds + 1) (some pos))).orBackAt pos
        else .failed t

variable [Machine]

/-- As many rounds as possible, each of them by itself from where the cursor is. The rest goes on
behind the last of them, if the machine puts the cursor back there after the round that fails. -/
def possessive (body : Step) (min : Nat) (max : Option Nat) :
    (fuel rounds : Nat) → (last : Option Nat) → Trail → Outcome
  | 0, _, _, t => .failed t
  | fuel + 1, rounds, last, t =>
    if rounds < min then
      let o := body.alone t.cursor t
      if o.matched then possessive body min max fuel (rounds + 1) last o.trail else o
    else if mayRepeat max rounds last t.cursor then
      let o := body.alone t.cursor t
      if o.matched then possessive body min max fuel (rounds + 1) (some t.cursor) o.trail
      else
        let failed := o.trail.takeBack true t.marks
        ⟨true, if Machine.restoresCursor then failed.moveTo t.cursor else failed⟩
    else ⟨true, t⟩

/-- More rounds than a repetition over `size` characters takes. -/
def roundLimit (size min : Nat) (max : Option Nat) : Nat :=
  match max with
  | some n => n + 2
  | none => min + (size + 2) * (size + 2)

/-- A repetition of a step. -/
def ofRounds (input : Array Char) (body : Step) (inLoop : Bool) (min : Nat) (max : Option Nat)
    (greed : Greed) : Step := fun pos t next =>
  let fuel := roundLimit input.size min max
  match greed with
  | .greedy => greedy body min max next fuel 0 none pos t
  | .lazy => lazy body inLoop min max next fuel 0 none pos t
  | .possessive =>
    let o := possessive body min max fuel 0 none (t.moveTo pos)
    if o.matched then next o.trail.cursor o.trail else o.orBackAt pos

end RoleGate.Pattern.Step
