import NativeBootstrap.Pattern.Matching
import NativeBootstrap.Pattern.Meaning
import NativeBootstrap.Pattern.Reader
import NativeBootstrap.Pattern.Size

/-!
# Patterns

A pattern is a regular expression that a text may match somewhere. `Pattern.ofString` reads one and
refuses those that are faulty, would need too large an automaton, or ask for words that are not those
of ASCII. `Pattern.matchesIn` decides whether a text matches.
-/

set_option autoImplicit false

namespace NativeBootstrap

/-- A pattern: how it is written, and what it means. -/
structure Pattern where
  source : String
  expression : Pattern.Expression
  deriving Repr

namespace Pattern

/-- Why a text is refused as a pattern. -/
inductive Refusal where
  | faulty (source : String) (fault : Fault)
  | tooLarge
  | unknownWords
  deriving DecidableEq, Repr

/-- The wording of a refusal. -/
def Refusal.message : Refusal → String
  | .faulty source fault => fault.report source
  | .tooLarge => "Compiled regex exceeds size limit of " ++ toString Size.limit ++ " bytes."
  | .unknownWords => "error building NFA"

/-- What a text means as a pattern. -/
def meaning? (source : String) : Except Fault Expression := do
  let tree ← Tree.ofString source
  let (expression, _) ← tree.meaning .initial
  .ok expression

/-- Whether an expression is refused, for one of the reasons that do not lie in its parts. -/
def refusal? (e : Expression) : Option Refusal :=
  if Size.limit < Size.ofAutomaton .forward e then some .tooLarge
  else if e.asksForWords then some .unknownWords
  else if Size.limit < Size.ofAutomaton .backward e then some .tooLarge
  else none

/-- Reads a pattern. -/
def ofString (source : String) : Except Refusal Pattern :=
  match meaning? source with
  | .error fault => .error (.faulty source fault)
  | .ok expression =>
    match refusal? expression with
    | some refusal => .error refusal
    | none => .ok ⟨source, expression⟩

/-- Whether a text matches a pattern somewhere. -/
def matchesIn (p : Pattern) (text : String) : Bool := p.expression.matchesIn text

end Pattern

end NativeBootstrap
