import NativeBootstrap.Pattern.CodeSet

/-!
# Expressions

What a pattern means: single characters, sets of characters, places in the text, and their
repetitions, sequences and choices. All modes are resolved, and no spans are left.

Expressions are built in a simple form: a set of one character is that character, a sequence holds
neither sequences nor empty parts, a choice between characters or between sets is a set, and what
takes no character is not repeated (`ofSet`, `ofSequence`, `ofChoice`, `ofRepetition`).
-/

set_option autoImplicit false

namespace NativeBootstrap.Pattern

/-- A place in a text with respect to words. -/
inductive WordPlace where
  | boundary
  | noBoundary
  | start
  | stop
  | startHalf
  | stopHalf
  deriving DecidableEq, Repr

/-- A place in a text. -/
inductive Look where
  | textStart
  | textEnd
  | lineStart
  | lineEnd
  /-- Where a line starts if it may end with a carriage return, a line feed, or both. -/
  | anyLineStart
  | anyLineEnd
  /-- A place with respect to words, whose characters are ASCII or not. -/
  | word (place : WordPlace) (isAscii : Bool)
  deriving DecidableEq, Repr

/-- The meaning of a pattern. -/
inductive Expression where
  | empty
  | literal (char : Char)
  | set (codes : CodeSet)
  | look (look : Look)
  | captured (body : Expression)
  | repetition (least : Nat) (most : Option Nat) (body : Expression)
  | choice (branches : List Expression)
  | sequence (parts : List Expression)
  deriving Repr

namespace Expression

/-! ## How much an expression takes -/

mutual

/-- The least number of characters that an expression takes, if it matches anything. -/
def minimum? : Expression → Option Nat
  | .empty => some 0
  | .literal _ => some 1
  | .set codes => if codes.isEmpty then none else some 1
  | .look _ => some 0
  | .captured body => body.minimum?
  | .repetition least _ body => body.minimum?.map (least * ·)
  | .choice branches => leastOf? branches
  | .sequence parts => sumOf? parts

/-- The least of several minima; none if one of them is missing. -/
def leastOf? : List Expression → Option Nat
  | [] => none
  | [e] => e.minimum?
  | e :: es => do return min (← e.minimum?) (← leastOf? es)

/-- The sum of several minima; none if one of them is missing. -/
def sumOf? : List Expression → Option Nat
  | [] => some 0
  | e :: es => do return (← e.minimum?) + (← sumOf? es)

end

mutual

/-- Whether an expression never takes a character, though it may match. -/
def takesNone : Expression → Bool
  | .empty => true
  | .literal _ => false
  | .set _ => false
  | .look _ => true
  | .captured body => body.takesNone
  | .repetition _ most body => most.isSome && body.takesNone
  | .choice branches => allTakeNone branches
  | .sequence parts => allTakeNone parts

/-- Whether no one of several expressions ever takes a character. -/
def allTakeNone : List Expression → Bool
  | [] => true
  | e :: es => e.takesNone && allTakeNone es

end

mutual

/-- Whether an expression asks for words that are not those of ASCII. -/
def asksForWords : Expression → Bool
  | .look (.word _ isAscii) => !isAscii
  | .captured body => body.asksForWords
  | .repetition _ _ body => body.asksForWords
  | .choice branches => anyAsksForWords branches
  | .sequence parts => anyAsksForWords parts
  | _ => false

/-- Whether one of several expressions asks for words that are not those of ASCII. -/
def anyAsksForWords : List Expression → Bool
  | [] => false
  | e :: es => e.asksForWords || anyAsksForWords es

end

/-! ## Simple forms -/

/-- The expression of a set. -/
def ofSet (codes : CodeSet) : Expression :=
  match codes.ranges with
  | [(first, last)] => if first = last then .literal (Char.ofNat first) else .set codes
  | _ => .set codes

/-- Parts one after the other. -/
def ofSequence (parts : List Expression) : Expression :=
  let flat (part : Expression) : List Expression :=
    match part with
    | .empty => []
    | .sequence parts => parts
    | part => [part]
  match parts.flatMap flat with
  | [] => .empty
  | [part] => part
  | parts => .sequence parts

/-- The characters of expressions that are all characters. -/
def literals? (es : List Expression) : Option (List Char) :=
  es.mapM fun e =>
    match e with
    | .literal c => some c
    | _ => none

/-- The sets of expressions that are all sets. -/
def sets? (es : List Expression) : Option (List CodeSet) :=
  es.mapM fun e =>
    match e with
    | .set codes => some codes
    | _ => none

/-- One of several branches. -/
def ofChoice (branches : List Expression) : Expression :=
  let flat (branch : Expression) : List Expression :=
    match branch with
    | .choice branches => branches
    | branch => [branch]
  let branches := branches.flatMap flat
  match literals? branches, sets? branches with
  | some chars, _ => .ofSet (.ofRanges (chars.map fun c => (c.toNat, c.toNat)))
  | none, some sets => .ofSet (sets.foldl CodeSet.union .empty)
  | none, none => .choice branches

/-- A repetition. What takes no character is repeated once at most. -/
def ofRepetition (least : Nat) (most : Option Nat) (body : Expression) : Expression :=
  let (least, most) :=
    if body.takesNone then (min least 1, some (min (most.getD 1) 1)) else (least, most)
  if most = some 0 then .empty
  else if least = 1 ∧ most = some 1 then body
  else .repetition least most body

end Expression

end NativeBootstrap.Pattern
