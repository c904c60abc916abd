import RoleGate.Pattern.Syntax
import RoleGate.Text.Blank
import RoleGate.Text.CharName
import RoleGate.Text.Digit
import RoleGate.Text.Identifier
import RoleGate.Text.LetterCase

/-!
# Reading patterns

The grammar of patterns: literals and escapes, character sets, groups that capture, name, flag or
look around, conditionals, and repetitions that are greedy, lazy or possessive.

A pattern is read token by token, a token being a character or a backslash with the character behind
it. A text that is no pattern is refused as malformed, unless something worse is met first: a
repetition count beyond all bounds, or flags that ask for two alphabets at once. A pattern that
would look back too far is refused last.

## Main definitions

* `Fault` — why a text is refused.
* `Node.read` — the tree of a pattern and the flags that hold for all of it.
-/

namespace RoleGate.Pattern

/-- Why there is no answer, beyond a pattern being malformed: the first four lie in the pattern, the
last in a match of it. -/
inductive Abort where
  | numeralTooLong (length : Nat)
  | countTooLarge
  | alphabetsConflict
  | looksTooFarBack
  | groupReversed
  deriving DecidableEq

/-- Why a text is not taken for a pattern. -/
inductive Fault where
  | malformed
  | abort (cause : Abort)
  deriving DecidableEq

/-! ## Tokens -/

/-- A character, a backslash with the character behind it, or a backslash with nothing behind it. -/
inductive Token where
  | plain (c : Char)
  | escaped (c : Char)
  | dangling
  deriving DecidableEq

namespace Token

/-- The tokens of a text. -/
def scan : Text → List Token
  | [] => []
  | ['\\'] => [dangling]
  | '\\' :: c :: rest => escaped c :: scan rest
  | c :: rest => plain c :: scan rest

/-- The characters of a token. -/
def chars : Token → Text
  | plain c => [c]
  | escaped c => ['\\', c]
  | dangling => ['\\']

/-- The characters up to a plain terminator, and the tokens behind it. -/
def textUntil? (stop : Char) : List Token → Option (Text × List Token)
  | [] => none
  | t :: rest =>
    if t = plain stop then some ([], rest)
    else (textUntil? stop rest).map fun (text, after) => (t.chars ++ text, after)

/-- The tokens behind the first plain occurrence of a character, or none if it does not occur. -/
def skipPast (stop : Char) (tokens : List Token) : List Token :=
  match textUntil? stop tokens with
  | some (_, rest) => rest
  | none => if tokens.getLast? = some dangling then [dangling] else []

/-- The longest run of at most `n` plain characters of a kind, and the tokens behind it. -/
def takeRun (kind : Char → Bool) : Nat → List Token → Text × List Token
  | n + 1, plain c :: rest =>
    if kind c then
      let (run, after) := takeRun kind n rest
      (c :: run, after)
    else ([], plain c :: rest)
  | _, tokens => ([], tokens)

end Token

/-- A decimal digit of the ASCII alphabet. -/
def isDecimal (c : Char) : Bool :=
  '0' ≤ c && c ≤ '9'

/-- A digit below eight. -/
def isOctal (c : Char) : Bool :=
  '0' ≤ c && c ≤ '7'

/-- A hexadecimal digit. -/
def isHexadecimal (c : Char) : Bool :=
  isDecimal c || ('a' ≤ c && c ≤ 'f') || ('A' ≤ c && c ≤ 'F')

/-- The value of a digit up to sixteen. -/
def digitOf (c : Char) : Nat :=
  if isDecimal c then c.toNat - 48 else (c.toNat - 55) % 32

/-- The number that some digits stand for. -/
def numeral (base : Nat) (digits : Text) : Nat :=
  digits.foldl (fun n c => n * base + digitOf c) 0

/-! ## The state of a reading -/

/-- What has been read so far: the tokens ahead, the flags set for the whole pattern, the names of
groups, the width of each group that is closed, the number of groups before the look-behind that is
being read, and the groups that conditions ask for. -/
structure Reading where
  ahead : List Token
  flags : List Flag
  names : List (Text × Nat)
  widths : List (Option (Nat × Nat))
  lookBehindFrom : Option Nat
  askedFor : List Nat

/-- A step of the reading. -/
abbrev Read := StateT Reading (Except Fault)

namespace Read

/-- The text is no pattern. -/
def malformed {α : Type} : Read α :=
  throw .malformed

/-- Goes on with the given tokens. A backslash with nothing behind it is refused when it comes
next. -/
def goTo (tokens : List Token) : Read Unit :=
  if tokens.head? = some .dangling then malformed
  else modify fun r => { r with ahead := tokens }

/-- The next token. -/
def peek : Read (Option Token) :=
  return (← get).ahead.head?

/-- Takes the next token. -/
def next : Read (Option Token) := do
  let tokens := (← get).ahead
  goTo tokens.tail
  return tokens.head?

/-- Takes the next token, which must be there. -/
def demand : Read Token := do
  match ← next with
  | some t => return t
  | none => malformed

/-- Takes the next token if it is the given character. -/
def accept (c : Char) : Read Bool := do
  if (← peek) = some (.plain c) then
    let _ ← next
    return true
  else return false

/-- Takes the given character, which must come next. -/
def expect (c : Char) : Read Unit := do
  unless ← accept c do malformed

/-- Takes at most `n` characters of a kind. -/
def takeRun (kind : Char → Bool) (n : Nat) : Read Text := do
  let (run, rest) := Token.takeRun kind n (← get).ahead
  goTo rest
  return run

/-- The whole pattern is verbose. -/
def isVerbose : Read Bool :=
  return (← get).flags.contains .verbose

/-- Takes a text that is not empty and the terminator behind it. -/
def nameUntil (stop : Char) : Read Text := do
  match Token.textUntil? stop (← get).ahead with
  | none => malformed
  | some (name, rest) =>
    goTo rest
    if name.isEmpty then malformed else return name

/-! ## Groups -/

/-- The group has been closed. -/
def isClosed (r : Reading) (index : Nat) : Bool :=
  index ≠ 0 && (r.widths[index - 1]?.join).isSome

/-- Inside a look-behind only groups that were closed before it may be referred to. -/
def checkLookBehind (index : Nat) : Read Unit := do
  let r ← get
  match r.lookBehindFrom with
  | none => pure ()
  | some limit => if !isClosed r index || limit ≤ index then malformed

/-- A reference back to a group that has been closed. -/
def backref (index : Nat) : Read Node := do
  let r ← get
  match r.widths[index - 1]?.join with
  | some width =>
    checkLookBehind index
    return .backref index width
  | none => malformed

/-- Opens a group that captures, and gives its index. -/
def openGroup (name : Option Text) : Read Nat := do
  let r ← get
  let index := r.widths.length + 1
  set { r with widths := r.widths ++ [none] }
  match name with
  | none => pure ()
  | some name =>
    if (r.names.lookup name).isSome then malformed
    modify fun r => { r with names := (name, index) :: r.names }
  return index

/-- Closes a group. -/
def closeGroup (index : Nat) (body : Node) : Read Unit :=
  modify fun r => { r with widths := r.widths.set (index - 1) (some body.width) }

/-- A name that is an identifier. -/
def identifier (stop : Char) : Read Text := do
  let name ← nameUntil stop
  if Text.isIdentifier name then return name else malformed

/-! ## Escapes -/

/-- The escapes of the control characters. -/
def controlEscape? : Char → Option Nat
  | 'a' => some 7
  | 'b' => some 8
  | 'f' => some 12
  | 'n' => some 10
  | 'r' => some 13
  | 't' => some 9
  | 'v' => some 11
  | '\\' => some 92
  | _ => none

/-- The escapes of the character classes. -/
def categoryEscape? : Char → Option SetItem
  | 'd' => some (.category .digit false)
  | 'D' => some (.category .digit true)
  | 's' => some (.category .blank false)
  | 'S' => some (.category .blank true)
  | 'w' => some (.category .word false)
  | 'W' => some (.category .word true)
  | _ => none

/-- The escapes of the anchors. -/
def anchorEscape? : Char → Option Anchor
  | 'A' => some .textStart
  | 'Z' => some .textEnd
  | 'b' => some .boundary
  | 'B' => some .nonBoundary
  | _ => none

/-- A code of exactly `n` hexadecimal digits. -/
def hexadecimal (n : Nat) : Read Nat := do
  let digits ← takeRun isHexadecimal n
  let code := numeral 16 digits
  if digits.length = n && code < 0x110000 then return code else malformed

/-- The escapes that give a character by its code or its name, and those of the characters that need
none. -/
def codeEscape (c : Char) : Read Nat := do
  match c with
  | 'x' => hexadecimal 2
  | 'u' => hexadecimal 4
  | 'U' => hexadecimal 8
  | 'N' =>
    expect '{'
    match Text.charNamed? (← nameUntil '}') with
    | some code => return code
    | none => malformed
  | _ => if Text.isAsciiLetter c.toNat || isDecimal c then malformed else return c.toNat

/-- An escape inside a character set. -/
def setEscape (c : Char) : Read SetItem := do
  match controlEscape? c, categoryEscape? c with
  | some code, _ => return .code code
  | none, some item => return item
  | none, none =>
    if isOctal c then
      let code := numeral 8 (c :: (← takeRun isOctal 2))
      if 0o377 < code then malformed else return .code code
    else return .code (← codeEscape c)

/-- An escape that begins with a digit: a character by its octal code or a reference back. -/
def digitEscape (c : Char) : Read Node := do
  if c = '0' then return .literal (numeral 8 (← takeRun isOctal 2))
  let more ← takeRun isDecimal 1
  match more with
  | [d] =>
    if isOctal c && isOctal d then
      match ← takeRun isOctal 1 with
      | [e] =>
        let code := numeral 8 [c, d, e]
        if 0o377 < code then malformed else return .literal code
      | _ => backref (numeral 10 [c, d])
    else backref (numeral 10 [c, d])
  | _ => backref (digitOf c)

/-- An escape outside of character sets. -/
def escape (c : Char) : Read Node := do
  match anchorEscape? c, categoryEscape? c, controlEscape? c with
  | some a, _, _ => return .anchor a
  | none, some item, _ => return .set false [item]
  | none, none, some code => return .literal code
  | none, none, none =>
    if isDecimal c then digitEscape c else return .literal (← codeEscape c)

/-! ## Character sets -/

/-- One member of a set, or one end of a range. -/
def setMember : Token → Read SetItem
  | .plain c => return .code c.toNat
  | .escaped c => setEscape c
  | .dangling => malformed

/-- A range from one character to a later one. -/
def setRange : SetItem → SetItem → Read SetItem
  | .code first, .code last => if last < first then malformed else return .range first last
  | _, _ => malformed

/-- The members of a set behind those already read, up to the closing bracket. A bracket that comes
first is a member. -/
def setItems : Nat → List SetItem → Read (List SetItem)
  | 0, _ => malformed
  | fuel + 1, found => do
    let this ← demand
    if this = .plain ']' && !found.isEmpty then return found
    let first ← setMember this
    if ← accept '-' then
      let that ← demand
      if that = .plain ']' then return found ++ [first, .code 45]
      let last ← setMember that
      setItems fuel (found ++ [← setRange first last])
    else setItems fuel (found ++ [first])

/-- A character set, behind its opening bracket. -/
def charSet : Read Node := do
  let negated ← accept '^'
  let items := (← setItems ((← get).ahead.length + 1) []).eraseDups
  match items with
  | [.code c] => return if negated then .notLiteral c else .literal c
  | _ => return .set negated items

/-! ## Repetitions -/

/-- Counts from here on are refused. -/
def countLimit : Nat := Nat.pow 2 32 - 1

/-- A repetition count. -/
def count (digits : Text) : Read Nat := do
  if Text.maxNumeral < digits.length then throw (.abort (.numeralTooLong digits.length))
  let n := numeral 10 digits
  if countLimit ≤ n then throw (.abort .countTooLarge)
  return n

/-- The bounds between braces, behind the opening one; none if there are no such bounds and the
brace stands for itself. -/
def bounds? : Read (Option (Nat × Option Nat)) := do
  let here := (← get).ahead
  if here.head? = some (.plain '}') then return none
  let low ← takeRun isDecimal here.length
  let comma ← accept ','
  let high ← if comma then takeRun isDecimal here.length else pure low
  if ← accept '}' then
    let min ← if low.isEmpty then pure 0 else count low
    if high.isEmpty then return some (min, none)
    let max ← count high
    if max < min then malformed
    return some (min, some max)
  else
    goTo here
    return none

/-- The last node read with its repetition in its place. Anchors and repetitions cannot be
repeated. -/
def repeatLast (min : Nat) (max : Option Nat) (found : List Node) : Read (List Node) := do
  match found with
  | [] => malformed
  | .anchor _ :: _ => malformed
  | .repetition _ _ _ _ :: _ => malformed
  | item :: before =>
    let greed : Greed ←
      if ← accept '?' then pure .lazy
      else if ← accept '+' then pure .possessive
      else pure .greedy
    return .repetition min max greed (Node.sequence item.openPlainGroup) :: before

/-! ## Flags -/

/-- The letters of the flags. -/
def flagNamed? : Char → Option Flag
  | 'i' => some .ignoreCase
  | 'm' => some .multiLine
  | 's' => some .dotAll
  | 'x' => some .verbose
  | 'a' => some .ascii
  | 'u' => some .unicode
  | 't' => some .template
  | _ => none

/-- The flag of a token, which must name one. -/
def flagOf (t : Token) : Read Flag := do
  match t with
  | .plain c =>
    match flagNamed? c with
    | some f => return f
    | none => malformed
  | _ => malformed

/-- The flags turned on, up to the character that ends them. -/
def flagsOn : Nat → Token → List Flag → Read (List Flag × Char)
  | 0, _, _ => malformed
  | fuel + 1, t, found => do
    let flag ← flagOf t
    if flag.isAlphabet && found.any (fun f => f.isAlphabet && f ≠ flag) then malformed
    let found := if found.contains flag then found else flag :: found
    match ← demand with
    | .plain ')' => return (found, ')')
    | .plain '-' => return (found, '-')
    | .plain ':' => return (found, ':')
    | other => flagsOn fuel other found

/-- The flags turned off, up to the colon. -/
def flagsOff : Nat → Token → List Flag → Read (List Flag)
  | 0, _, _ => malformed
  | fuel + 1, t, found => do
    let flag ← flagOf t
    if flag.isAlphabet then malformed
    match ← demand with
    | .plain ':' => return flag :: found
    | other => flagsOff fuel other (flag :: found)

/-- The flags of a group, behind the first token of them: none if they are for the whole pattern. -/
def groupFlags (first : Token) : Read (Option (List Flag × List Flag)) := do
  let fuel := (← get).ahead.length + 1
  let (on, stop) ← if first = .plain '-' then pure ([], '-') else flagsOn fuel first []
  if stop = ')' then
    modify fun r => { r with flags := r.flags ++ on }
    return none
  if on.contains .template then malformed
  let off ← if stop = '-' then flagsOff fuel (← demand) [] else pure []
  if off.contains .template || on.any off.contains then malformed
  return some (on, off)

/-! ## Groups and sequences -/

/-- The number between the parentheses of a condition: digits of any script, perhaps with a sign,
blanks around them and single low lines between them. Information separators do not count as blanks
here. -/
def conditionNumber? (name : Text) : Option Nat :=
  let trimmed := Text.trimBy (fun c => Text.isBlank c && !Text.isSeparator c) name
  let (negative, digits) :=
    match trimmed with
    | '-' :: rest => (true, rest)
    | '+' :: rest => (false, rest)
    | _ => (false, trimmed)
  let pieces := Text.splitOn '_' digits
  if pieces.any List.isEmpty then none
  else
    match pieces.flatten.mapM fun c => Text.digitValue? c.toNat with
    | none => none
    | some values =>
      let n := values.foldl (fun n d => n * 10 + d) 0
      if Text.maxNumeral < values.length || (negative && n ≠ 0) then none else some n

/-- The group a condition asks for. -/
def condition : Read Nat := do
  let name ← nameUntil ')'
  let index ←
    if Text.isIdentifier name then
      match (← get).names.lookup name with
      | some index => pure index
      | none => malformed
    else
      match conditionNumber? name with
      | some index =>
        if index = 0 || Nat.pow 2 30 - 1 ≤ index then malformed
        modify fun r => { r with askedFor := index :: r.askedFor }
        pure index
      | none => malformed
  checkLookBehind index
  return index

/-- Characters that a verbose pattern may be spaced with. -/
def isLayout (c : Char) : Bool :=
  c = ' ' || (9 ≤ c.toNat && c.toNat ≤ 13)

/-- The nodes that all branches begin with, and what is left of the branches. -/
def commonStart : Nat → List (List Node) → List Node × List (List Node)
  | 0, branches => ([], branches)
  | fuel + 1, branches =>
    match branches with
    | (first :: _) :: _ =>
      if first.isLeaf && branches.all (fun b => b.head? = some first) then
        let (start, rest) := commonStart fuel (branches.map List.tail)
        (first :: start, rest)
      else ([], branches)
    | _ => ([], branches)

/-- The members of the set that accepts what a branch accepts, if the branch is a literal or a
set. -/
def branchItems? : List Node → Option (List SetItem)
  | [.literal c] => some [.code c]
  | [.set false items] => some items
  | _ => none

/-- Several branches as one list of nodes: what they all begin with, and a set or a choice. -/
def joinBranches (branches : List (List Node)) : List Node :=
  match branches with
  | [branch] => branch
  | _ =>
    let (start, rest) := commonStart (branches.flatten.length + 1) branches
    match rest.mapM branchItems? with
    | some items => start ++ [.set false items.flatten.eraseDups]
    | none => start ++ [.choice (rest.map Node.sequence)]

/-- What a pair of parentheses adds to a sequence: a node, or nothing if it holds a comment or flags
for the whole pattern. -/
structure Parenthesis where
  node : Option Node
  flagsChanged : Bool

mutual

/-- Branches separated by bars. At the top, flags set for the whole pattern hold from the second
branch on. -/
def branches : Nat → (top verbose : Bool) → List (List Node) → Read (List Node)
  | 0, _, _, _ => malformed
  | fuel + 1, top, verbose, found => do
    let branch ← nodes fuel (top && found.isEmpty) verbose []
    let found := found ++ [branch]
    if ← accept '|' then
      let verbose ← if top then isVerbose else pure verbose
      branches fuel top verbose found
    else return joinBranches found

/-- One branch, up to a bar, a closing parenthesis or the end. The nodes already read stand last one
first; `leading` holds in the first branch of the whole pattern. -/
def nodes : Nat → (leading verbose : Bool) → List Node → Read (List Node)
  | 0, _, _, _ => malformed
  | fuel + 1, leading, verbose, found => do
    match ← peek with
    | none | some (.plain '|') | some (.plain ')') =>
      return found.reverse.flatMap Node.openPlainGroup
    | some .dangling => malformed
    | some (.escaped c) =>
      let _ ← next
      nodes fuel leading verbose ((← escape c) :: found)
    | some (.plain c) =>
      let _ ← next
      if verbose && isLayout c then nodes fuel leading verbose found
      else if verbose && c = '#' then
        goTo (Token.skipPast '\n' (← get).ahead)
        nodes fuel leading verbose found
      else
        match c with
        | '[' => nodes fuel leading verbose ((← charSet) :: found)
        | '.' => nodes fuel leading verbose (.any :: found)
        | '^' => nodes fuel leading verbose (.anchor .lineStart :: found)
        | '$' => nodes fuel leading verbose (.anchor .lineEnd :: found)
        | '*' => nodes fuel leading verbose (← repeatLast 0 none found)
        | '+' => nodes fuel leading verbose (← repeatLast 1 none found)
        | '?' => nodes fuel leading verbose (← repeatLast 0 (some 1) found)
        | '{' =>
          match ← bounds? with
          | some (min, max) => nodes fuel leading verbose (← repeatLast min max found)
          | none => nodes fuel leading verbose (.literal 123 :: found)
        | '(' =>
          let made ← parenthesis fuel (leading && found.isEmpty) verbose
          let verbose ← if made.flagsChanged then isVerbose else pure verbose
          nodes fuel leading verbose (made.node.toList ++ found)
        | _ => nodes fuel leading verbose (.literal c.toNat :: found)

/-- What stands in parentheses, behind the opening one. Flags for the whole pattern may stand only
at its start. -/
def parenthesis : Nat → (atStart verbose : Bool) → Read Parenthesis
  | 0, _, _ => malformed
  | fuel + 1, atStart, verbose => do
    if !(← accept '?') then return ⟨some (← capture fuel none verbose), false⟩
    match ← demand with
    | .plain 'P' =>
      match ← demand with
      | .plain '<' =>
        let name ← identifier '>'
        return ⟨some (← capture fuel (some name) verbose), false⟩
      | .plain '=' =>
        let name ← identifier ')'
        match (← get).names.lookup name with
        | some index => return ⟨some (← backref index), false⟩
        | none => malformed
      | _ => malformed
    | .plain ':' => return ⟨some (.flagged [] [] (← enclosed fuel verbose)), false⟩
    | .plain '#' =>
      match Token.textUntil? ')' (← get).ahead with
      | some (_, rest) =>
        goTo rest
        return ⟨none, false⟩
      | none => malformed
    | .plain '=' => return ⟨some (.look true false (← enclosed fuel verbose)), false⟩
    | .plain '!' => return ⟨some (.look true true (← enclosed fuel verbose)), false⟩
    | .plain '<' =>
      let negated ←
        match ← demand with
        | .plain '=' => pure false
        | .plain '!' => pure true
        | _ => malformed
      let outer := (← get).lookBehindFrom
      if outer.isNone then
        modify fun r => { r with lookBehindFrom := some (r.widths.length + 1) }
      let body ← branches fuel false verbose []
      if outer.isNone then modify fun r => { r with lookBehindFrom := none }
      expect ')'
      return ⟨some (.look false negated (Node.sequence body)), false⟩
    | .plain '(' =>
      let index ← condition
      let yes ← nodes fuel false verbose []
      let no ← if ← accept '|' then nodes fuel false verbose [] else pure []
      expect ')'
      return ⟨some (.conditional index (Node.sequence yes) (Node.sequence no)), false⟩
    | .plain '>' => return ⟨some (.atomic (← enclosed fuel verbose)), false⟩
    | first =>
      match ← groupFlags first with
      | none => if atStart then return ⟨none, true⟩ else malformed
      | some (on, off) =>
        let verbose := (verbose || on.contains .verbose) && !off.contains .verbose
        return ⟨some (.flagged on off (← enclosed fuel verbose)), false⟩

/-- The branches of a group and its closing parenthesis. -/
def enclosed : Nat → (verbose : Bool) → Read Node
  | 0, _ => malformed
  | fuel + 1, verbose => do
    let body ← branches fuel false verbose []
    expect ')'
    return Node.sequence body

/-- A group that captures, with its closing parenthesis. -/
def capture : Nat → (name : Option Text) → (verbose : Bool) → Read Node
  | 0, _, _ => malformed
  | fuel + 1, name, verbose => do
    let index ← openGroup name
    let body ← enclosed fuel verbose
    closeGroup index body
    return .group index body

end

/-- A whole pattern. Every group that a condition asks for by number has to be there in the end. -/
def pattern (fuel : Nat) : Read (List Node) := do
  goTo (← get).ahead
  let found ← branches fuel true false []
  let r ← get
  if r.flags.contains .ascii && r.flags.contains .unicode then throw (.abort .alphabetsConflict)
  if !r.ahead.isEmpty then malformed
  if r.askedFor.any (r.widths.length < ·) then malformed
  return found

end Read

/-- The tree of a pattern and the flags that hold for all of it. -/
def Node.read (text : Text) : Except Fault (Node × List Flag) := do
  let tokens := Token.scan text
  let (found, r) ← (Read.pattern (8 * tokens.length + 16)).run ⟨tokens, [], [], [], none, []⟩
  let node := Node.sequence found
  if !node.looksBackOver Node.hasFixedWidth then throw .malformed
  if r.flags.contains .template && node.repeats then throw .malformed
  if !node.looksBackOver Node.isWithinLookBack then throw (.abort .looksTooFarBack)
  return (node, r.flags)

end RoleGate.Pattern
