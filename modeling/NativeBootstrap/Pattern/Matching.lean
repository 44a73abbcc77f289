import NativeBootstrap.Pattern.Expression

/-!
# Matching

Whether an expression matches somewhere in a text. The positions of a text are the places before,
between and after its characters. What an expression matches is a relation between positions
(`Reach`): a row for each position, with a bit for each position that a match from there may end at.

The relation of an expression is made from those of its parts: a sequence composes them, a choice
joins them, and a repetition composes one with itself. No match goes back, so that among more
repetitions than there are positions one takes nothing, and further ones add nothing.
-/

set_option autoImplicit false

namespace NativeBootstrap.Pattern

/-- From each position, the positions at which a match may end, as bits. -/
structure Reach where
  rows : Array Nat
  deriving DecidableEq, Repr

namespace Reach

/-- The relation that joins each of this many positions with itself, where a condition holds. -/
def filtered (positions : Nat) (p : Nat → Bool) : Reach :=
  ⟨(Array.range positions).map fun i => if p i then 1 <<< i else 0⟩

/-- The relation that joins each position with itself. -/
def identity (positions : Nat) : Reach := filtered positions fun _ => true

/-- The relation that joins no positions. -/
def none (positions : Nat) : Reach := filtered positions fun _ => false

/-- The positions that either relation leads to. -/
def union (r s : Reach) : Reach := ⟨r.rows.zipWith (· ||| ·) s.rows⟩

/-- The positions that a relation leads to from one of some positions. -/
def image (r : Reach) (positions : Nat) : Nat :=
  (r.rows.foldl
    (fun (found, index) row => (if positions.testBit index then found ||| row else found, index + 1))
    (0, 0)).1

/-- The positions that one relation leads to after another one. -/
def andThen (r s : Reach) : Reach := ⟨r.rows.map s.image⟩

/-- A relation this many times after itself. -/
def power (r : Reach) (times : Nat) : Reach :=
  if times = 0 then identity r.rows.size
  else
    let half := (r.andThen r).power (times / 2)
    if times % 2 = 0 then half else r.andThen half
termination_by times

/-- A relation at least and at most this many times after itself; without a greatest number, any
number of times. -/
def repeated (r : Reach) (least : Nat) (most : Option Nat) : Reach :=
  let positions := r.rows.size
  let optional := (identity positions).union r
  let further := match most with
    | some most => min (most - least) positions
    | Option.none => positions
  (r.power (min least positions)).andThen (optional.power further)

end Reach

/-! ## Places in a text -/

/-- Whether a character belongs to a word of ASCII. -/
def isWordChar (c : Char) : Bool := c.isAlphanum || c == '_'

namespace WordPlace

/-- Whether a place lies between what is and is not a word, given whether a word character is before
it and after it. -/
def holds (place : WordPlace) (before after : Bool) : Bool :=
  match place with
  | .boundary => before != after
  | .noBoundary => before == after
  | .start => !before && after
  | .stop => before && !after
  | .startHalf => !before
  | .stopHalf => !after

end WordPlace

/-- Whether a place in a text is one that is looked for, given the characters before and after it. Only
words of ASCII are known. -/
def Look.holds (look : Look) (before after : Option Char) : Bool :=
  match look with
  | .textStart => before.isNone
  | .textEnd => after.isNone
  | .lineStart => before.all (· == '\n')
  | .lineEnd => after.all (· == '\n')
  | .anyLineStart => before.all fun c => c == '\n' || (c == '\r' && after != some '\n')
  | .anyLineEnd => after.all fun c => c == '\r' || (c == '\n' && before != some '\r')
  | .word place _ => place.holds (before.any isWordChar) (after.any isWordChar)

namespace Expression

/-- The relation that joins each position with the next one, where a condition holds of the character
between them. -/
def reachOfChar (text : Array Char) (p : Char → Bool) : Reach :=
  ⟨(text.map p).mapIdx (fun i holds => if holds then 1 <<< (i + 1) else 0) |>.push 0⟩

mutual

/-- From each position of a text, where a match of an expression may end. -/
def reach (text : Array Char) : Expression → Reach
  | .empty => .identity (text.size + 1)
  | .literal c => reachOfChar text (· == c)
  | .set codes => reachOfChar text fun c => codes.contains c.toNat
  | .look l =>
    .filtered (text.size + 1) fun i => l.holds (if i = 0 then none else text[i - 1]?) text[i]?
  | .captured body => body.reach text
  | .repetition least most body => (body.reach text).repeated least most
  | .choice branches => reachOfAny text branches
  | .sequence parts => reachOfAll text parts

/-- From each position of a text, where a match of one of several expressions may end. -/
def reachOfAny (text : Array Char) : List Expression → Reach
  | [] => .none (text.size + 1)
  | e :: es => (e.reach text).union (reachOfAny text es)

/-- From each position of a text, where a match of several expressions one after the other may
end. -/
def reachOfAll (text : Array Char) : List Expression → Reach
  | [] => .identity (text.size + 1)
  | e :: es => (e.reach text).andThen (reachOfAll text es)

end

/-- Whether an expression matches somewhere in a text. -/
def matchesIn (e : Expression) (text : String) : Bool :=
  (e.reach text.toList.toArray).rows.any (· != 0)

end Expression

end NativeBootstrap.Pattern
