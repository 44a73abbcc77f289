import NativeBootstrap.Pattern.Encoding
import NativeBootstrap.Pattern.Expression
import NativeBootstrap.Text.Utf8

/-!
# The size of automata

A pattern is refused if the automaton for it would be too large. An automaton reads bytes, forward or
backward; its size is that of its states, of the branches of its forks, and of the transitions of its
switches. A repetition is written out, so that its size is that of its body for each time it may be
repeated.

The automaton need not be built for its size to be known.
-/

set_option autoImplicit false

namespace NativeBootstrap.Pattern

/-- The direction in which an automaton reads. -/
inductive Direction where
  | forward
  | backward
  deriving DecidableEq, Repr

namespace Size

/-- The size of a state. -/
def state : Nat := 32

/-- The size of a branch of a fork. -/
def branch : Nat := 4

/-- The size of a transition of a switch. -/
def transition : Nat := 8

/-- The greatest size of an automaton. -/
def limit : Nat := 10 * 1024 * 1024

/-- A fork with this many branches. -/
def fork (branches : Nat) : Nat := state + branches * branch

/-- A switch with this many transitions. -/
def switch (transitions : Nat) : Nat := state + transitions * transition

/-- The size for a set. A set of ASCII is one switch. Forward, the sequences of a larger set share
their endings; backward, they share what is read last. -/
def ofSet (direction : Direction) (codes : CodeSet) : Nat :=
  let sequences := codes.sequences
  if codes.isAscii then state + switch codes.ranges.length
  else
    match direction with
    | .forward =>
      (endings 4 sequences).foldl (fun size after => size + switch (heads after).length) state
    | .backward => fork sequences.length + state + state * beginningCount 4 sequences

/-- The size for a character. -/
def ofLiteral (c : Char) : Nat := state * (Utf8.encode c.toString).length

/-! ## Choices between words -/

/-- The bytes of an expression that is a sequence of characters. -/
def word? : Expression → Option Bytes
  | .literal c => some (Utf8.encode c.toString)
  | .sequence parts => (Expression.literals? parts).map fun chars => Utf8.encode (String.ofList chars)
  | _ => none

/-- Words in groups: a word without bytes ends a group, and is in none. -/
def groups : List Bytes → List (List Bytes)
  | [] => [[]]
  | word :: words =>
    match word, groups words with
    | [], rest => [] :: rest
    | _, group :: rest => (word :: group) :: rest
    | _, [] => [[word]]

/-- The size of the tree for words, whose length the first argument bounds. The words of a group share
their beginnings. A word that ends where others go on is a branch of its own. -/
def tree : Nat → List Bytes → Nat
  | 0, _ => 0
  | length + 1, words =>
    let parts := groups words
    let full := parts.filter (· != [])
    if full = [] then 0
    else
      let group (words : List Bytes) : Nat :=
        let firsts := (words.filterMap List.head?).eraseDups
        let rests := firsts.map fun first =>
          (words.filter (·.head? == some first)).map (List.drop 1)
        (if firsts.length = 1 then state else switch firsts.length)
          + (rests.map (tree length)).sum
      fork (full.length + (parts.length - 1)) + (full.map group).sum

/-- The size for a choice between words. -/
def ofWords (direction : Direction) (words : List Bytes) : Nat :=
  let read := match direction with
    | .forward => words
    | .backward => words.map List.reverse
  state + tree ((words.map List.length).foldl max 0 + 1) read

/-! ## Expressions -/

/-- The size for any number of something, given its own size. What may match nothing takes two
forks. -/
def ofStar (takesSome : Bool) (body : Nat) : Nat :=
  if takesSome then fork 2 + body else body + 2 * fork 2 + state

/-- The size for a repetition, given the size of what is repeated. -/
def ofRepetition (least : Nat) (most : Option Nat) (takesSome : Bool) (body : Nat) : Nat :=
  let exactly := if least = 0 then state else least * body
  match most with
  | none => if least = 0 then ofStar takesSome body else least * body + fork 2
  | some most =>
    if least = 0 ∧ most = 1 then fork 2 + body + state
    else if most = least then exactly
    else exactly + state + (most - least) * (body + fork 2)

mutual

/-- The size for an expression. -/
def ofExpression (direction : Direction) : Expression → Nat
  | .empty => state
  | .literal c => ofLiteral c
  | .set codes => ofSet direction codes
  | .look _ => state
  | .captured body =>
    let marks := match direction with
      | .forward => 2 * state
      | .backward => 0
    marks + ofExpression direction body
  | .repetition least most body =>
    ofRepetition least most (body.minimum?.any (0 < ·)) (ofExpression direction body)
  | .choice branches =>
    match branches.mapM word? with
    | some words => ofWords direction words
    | none => fork branches.length + state + (sizes direction branches).sum
  | .sequence parts => (sizes direction parts).sum

/-- The sizes for several expressions. -/
def sizes (direction : Direction) : List Expression → List Nat
  | [] => []
  | e :: es => ofExpression direction e :: sizes direction es

end

/-- The size of an automaton: what may come before a match, the whole match, and its end. -/
def ofAutomaton (direction : Direction) (e : Expression) : Nat :=
  ofStar true (ofSet direction ⟨[(0x00, 0x7F)]⟩)
    + ofExpression direction (.captured e) + state

end Size

end NativeBootstrap.Pattern
