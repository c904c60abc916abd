/-!
# Pattern syntax

The syntax trees of patterns. A node describes a set of ways to go from one position of a text to
another; groups remember what they went over.

## Main definitions

* `Node` — the trees.
* `Node.sequence`, `Node.choice` — the trees of a list of nodes.
* `Node.width` — the least and the greatest length of what a node goes over.
* `Node.looksBackOver` — what the contents of all looks back have in common.
-/

namespace RoleGate.Pattern

/-- Settings that change how parts of a pattern are read and matched. -/
inductive Flag where
  | ignoreCase
  | multiLine
  | dotAll
  | verbose
  | ascii
  | unicode
  | template
  deriving DecidableEq

namespace Flag

/-- The flag chooses an alphabet; at most one such flag holds at a place. -/
def isAlphabet : Flag → Bool
  | ascii | unicode => true
  | _ => false

/-- The flags inside a group that turns some on and others off. An alphabet turned on replaces the
one outside. -/
def combine (outer on off : List Flag) : List Flag :=
  let kept := if on.any isAlphabet then outer.filter (!·.isAlphabet) else outer
  (kept ++ on).filter (!off.contains ·)

end Flag

/-- Classes of characters that have an escape of their own. -/
inductive Category where
  | digit
  | blank
  | word
  deriving DecidableEq

/-- Members of a character set. Characters are given by their code points. -/
inductive SetItem where
  | code (n : Nat)
  | range (first last : Nat)
  | category (kind : Category) (negated : Bool)
  deriving DecidableEq

/-- Conditions on a position of the text. -/
inductive Anchor where
  | lineStart
  | lineEnd
  | textStart
  | textEnd
  | boundary
  | nonBoundary
  deriving DecidableEq

/-- What a repetition tries first, and whether it takes back what it tried. -/
inductive Greed where
  | greedy
  | lazy
  | possessive
  deriving DecidableEq

/-- The trees of patterns. The ways of a choice stand in a chain of `alt`s that ends in `never`. -/
inductive Node where
  | empty
  | never
  | literal (n : Nat)
  | notLiteral (n : Nat)
  | any
  | set (negated : Bool) (items : List SetItem)
  | anchor (a : Anchor)
  | seq (first second : Node)
  | alt (first second : Node)
  | group (index : Nat) (body : Node)
  | flagged (on off : List Flag) (body : Node)
  | repetition (min : Nat) (max : Option Nat) (greed : Greed) (body : Node)
  | atomic (body : Node)
  | look (ahead negated : Bool) (body : Node)
  | backref (index : Nat) (width : Nat × Nat)
  | conditional (index : Nat) (yes no : Node)
  deriving DecidableEq

namespace Node

/-! ## Lists of nodes -/

/-- One node after the other. -/
def sequence : List Node → Node
  | [] => empty
  | [n] => n
  | n :: rest => seq n (sequence rest)

/-- One node or another, the first in the list before the others. -/
def choice : List Node → Node
  | [] => never
  | n :: rest => alt n (choice rest)

/-- The nodes that a node is a sequence of. -/
def items : Node → List Node
  | empty => []
  | seq a b => items a ++ items b
  | n => [n]

/-- The node goes over exactly one character or looks at none, and holds no other node. Such nodes
may be taken out of the branches of a choice that all begin with them. -/
def isLeaf : Node → Bool
  | literal _ | notLiteral _ | any | set _ _ | anchor _ | backref _ _ => true
  | _ => false

/-- A plain group adds nothing to its contents, which take its place. -/
def openPlainGroup : Node → List Node
  | flagged [] [] body => body.items
  | n => [n]

/-! ## Width -/

/-- A greatest width from here on counts as unbounded, and a least width stays below. -/
def maxWidth : Nat := Nat.pow 2 32 - 1

/-- A least and a greatest width within their limits. -/
def capWidth (least greatest : Nat) : Nat × Nat :=
  (min least (maxWidth - 1), min greatest maxWidth)

/-- The least and the greatest number of characters that a node goes over. -/
def width : Node → Nat × Nat
  | empty => (0, 0)
  | never => (maxWidth - 1, 0)
  | literal _ | notLiteral _ | any | set _ _ => (1, 1)
  | anchor _ => (0, 0)
  | seq a b => capWidth (a.width.1 + b.width.1) (a.width.2 + b.width.2)
  | alt a b => (min a.width.1 b.width.1, max a.width.2 b.width.2)
  | group _ body => body.width
  | flagged _ _ body => body.width
  | repetition lo hi _ body =>
    let w := body.width
    capWidth (w.1 * lo) (w.2 * hi.getD maxWidth)
  | atomic body => body.width
  | look _ _ _ => (0, 0)
  | backref _ w => w
  | conditional _ yes no => (min yes.width.1 no.width.1, max yes.width.2 no.width.2)

/-- All looks back, wherever they stand in the node, have contents with a property. -/
def looksBackOver (ok : Node → Bool) : Node → Bool
  | seq a b | alt a b | conditional _ a b => a.looksBackOver ok && b.looksBackOver ok
  | group _ body | flagged _ _ body | repetition _ _ _ body | atomic body => body.looksBackOver ok
  | look ahead _ body => (ahead || ok body) && body.looksBackOver ok
  | _ => true

/-- The node has one width. -/
def hasFixedWidth (n : Node) : Bool :=
  n.width.1 = n.width.2

/-- The longest distance that can be looked back over. -/
def maxLookBack : Nat := Nat.pow 2 31 - 1

/-- The node is short enough to look back over. -/
def isWithinLookBack (n : Node) : Bool :=
  n.width.1 ≤ maxLookBack

/-- The pattern repeats something. -/
def repeats : Node → Bool
  | seq a b | alt a b | conditional _ a b => a.repeats || b.repeats
  | group _ body | flagged _ _ body | atomic body | look _ _ body => body.repeats
  | repetition _ _ _ _ => true
  | _ => false

end Node

end RoleGate.Pattern
