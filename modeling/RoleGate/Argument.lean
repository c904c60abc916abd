import RoleGate.Error
import RoleGate.Key.Basic
import RoleGate.Pattern.Matching

/-!
# Argument matching

A rule with an argument list is for the calls whose arguments its matchers accept, each matcher the
argument at its own place. Arguments are looked at through their text without the blanks around it.

## Main definitions

* `Matcher.accepts`, `Matcher.acceptsArgument` — a matcher accepts a text, or an argument by its
  text.
* `Matcher.acceptAll` — the matchers of a rule accept the arguments of a call.
-/

namespace RoleGate.Matcher

variable [Pattern.Machine]

/-- The matcher accepts the text. A pattern has to go over all of it. -/
def accepts : Matcher → Text → Except Error Bool
  | exact value, t => .ok (t == value)
  | pattern source, t => (Pattern.accepts source t).mapError .pattern

/-- The matcher accepts the argument by its text, which has to be written first. -/
def acceptsArgument (m : Matcher) (v : Value) : Except Error Bool := do
  m.accepts (← v.argumentText)

/-- Each matcher accepts the argument at its place, as far as there are both. The first that does
not settles the matter. -/
def acceptEach : List Matcher → List Value → Except Error Bool
  | m :: ms, v :: vs => do
    if ← m.acceptsArgument v then acceptEach ms vs else return false
  | _, _ => return true

/-- The matchers accept the arguments: there are as many of the one as of the other, and each
accepts its own. -/
def acceptAll (ms : List Matcher) (args : List Value) : Except Error Bool :=
  if ms.length = args.length then acceptEach ms args else .ok false

end RoleGate.Matcher
