import NativeBootstrap.Pattern.Cursor

/-!
# Syntax trees of patterns

What a pattern says, part by part, each part with its span. A tree keeps the words of the pattern: it
does not yet say which characters a class holds, and the letters that change the modes of reading
stand where they were written.

Whether a repetition takes as much or as little as it can is not kept, because it makes no difference
to whether a text matches.
-/

set_option autoImplicit false

namespace NativeBootstrap.Pattern

/-! ## Single parts -/

/-- A place in a text that is asserted, without taking a character. -/
inductive Assertion where
  | lineStart
  | lineEnd
  | textStart
  | textEnd
  | wordBoundary
  | noWordBoundary
  | wordStart
  | wordEnd
  | wordStartHalf
  | wordEndHalf
  deriving DecidableEq, Repr

/-- The assertion of a word that is written in braces after a word boundary. -/
def Assertion.ofName? : String → Option Assertion
  | "start" => some .wordStart
  | "end" => some .wordEnd
  | "start-half" => some .wordStartHalf
  | "end-half" => some .wordEndHalf
  | _ => none

/-- A class with a letter of its own. -/
inductive Shorthand where
  | digit
  | space
  | word
  deriving DecidableEq, Repr

/-- A property of characters that is asked for, by its name, or by a name and a value. -/
structure Property where
  name : String
  value : Option String
  deriving DecidableEq, Repr

/-- One character, or an escape. -/
inductive Atom where
  /-- A character that stands for itself; `isByte` if it is written as two hexadecimal digits, which
  may also mean a byte. -/
  | literal (char : Char) (isByte : Bool)
  | dot
  | assertion (assertion : Assertion)
  | shorthand (kind : Shorthand) (negated : Bool)
  | property (property : Property)
  deriving DecidableEq, Repr

/-- An atom and its span. -/
structure Token where
  span : Span
  atom : Atom
  deriving DecidableEq, Repr

/-! ## Classes in brackets -/

/-- A class with a name of its own. -/
inductive NamedClass where
  | alnum
  | alpha
  | ascii
  | blank
  | cntrl
  | digit
  | graph
  | lower
  | print
  | punct
  | space
  | upper
  | word
  | xdigit
  deriving DecidableEq, Repr

namespace NamedClass

/-- All named classes. -/
def all : List NamedClass :=
  [.alnum, .alpha, .ascii, .blank, .cntrl, .digit, .graph, .lower, .print, .punct, .space, .upper,
    .word, .xdigit]

/-- The name of a class. -/
def name : NamedClass → String
  | .alnum => "alnum"
  | .alpha => "alpha"
  | .ascii => "ascii"
  | .blank => "blank"
  | .cntrl => "cntrl"
  | .digit => "digit"
  | .graph => "graph"
  | .lower => "lower"
  | .print => "print"
  | .punct => "punct"
  | .space => "space"
  | .upper => "upper"
  | .word => "word"
  | .xdigit => "xdigit"

/-- The class of a name. -/
def ofName? (name : String) : Option NamedClass := all.find? fun c => c.name == name

end NamedClass

/-- An operation on two classes. -/
inductive SetOperation where
  | intersection
  | difference
  | symmetricDifference
  deriving DecidableEq, Repr

/-- A character written in a class, with its span. -/
structure Member where
  span : Span
  char : Char
  isByte : Bool
  deriving DecidableEq, Repr

/-- What stands in brackets. -/
inductive ClassTree where
  | empty (span : Span)
  | member (member : Member)
  | range (span : Span) (low high : Member)
  | named (span : Span) (kind : NamedClass) (negated : Bool)
  | shorthand (span : Span) (kind : Shorthand) (negated : Bool)
  | property (span : Span) (property : Property)
  | bracketed (span : Span) (negated : Bool) (body : ClassTree)
  | union (span : Span) (items : List ClassTree)
  | operation (span : Span) (kind : SetOperation) (left right : ClassTree)
  deriving Repr

/-- The span of a class. -/
def ClassTree.span : ClassTree → Span
  | .empty span => span
  | .member m => m.span
  | .range span _ _ => span
  | .named span _ _ => span
  | .shorthand span _ _ => span
  | .property span _ => span
  | .bracketed span _ _ => span
  | .union span _ => span
  | .operation span _ _ _ => span

/-! ## Patterns -/

/-- A mode in which a pattern is read. -/
inductive Mode where
  | caseInsensitive
  | multiLine
  | dotMatchesLineEnd
  | swapGreed
  | unicode
  | carriageReturn
  | verbose
  deriving DecidableEq, Repr

/-- The mode of a letter. -/
def Mode.ofLetter? : Char → Option Mode
  | 'i' => some .caseInsensitive
  | 'm' => some .multiLine
  | 's' => some .dotMatchesLineEnd
  | 'U' => some .swapGreed
  | 'u' => some .unicode
  | 'R' => some .carriageReturn
  | 'x' => some .verbose
  | _ => none

/-- A mode that is turned on or off. -/
structure ModeChange where
  mode : Mode
  on : Bool
  deriving DecidableEq, Repr

/-- The kind of a group: one that is captured, or one that only groups and may change modes. -/
inductive GroupKind where
  | captured
  | plain (changes : List ModeChange)
  deriving DecidableEq, Repr

/-- How often something is repeated. No greatest number means any number. -/
structure Count where
  least : Nat
  most : Option Nat
  deriving DecidableEq, Repr

/-- A pattern. -/
inductive Tree where
  | empty (span : Span)
  | modes (span : Span) (changes : List ModeChange)
  | token (token : Token)
  /-- A class in brackets, always a bracketed one. -/
  | brackets (body : ClassTree)
  | repetition (span : Span) (count : Count) (body : Tree)
  | group (span : Span) (kind : GroupKind) (body : Tree)
  | choice (span : Span) (branches : List Tree)
  | sequence (span : Span) (parts : List Tree)
  deriving Repr

namespace Tree

/-- The span of a pattern. -/
def span : Tree → Span
  | .empty span => span
  | .modes span _ => span
  | .token t => t.span
  | .brackets body => body.span
  | .repetition span _ _ => span
  | .group span _ _ => span
  | .choice span _ => span
  | .sequence span _ => span

/-- Parts one after the other; one alone stands for itself. -/
def ofParts (span : Span) : List Tree → Tree
  | [] => .empty span
  | [part] => part
  | parts => .sequence span parts

/-- Whether there is something that can be repeated. -/
def isRepeatable : Tree → Bool
  | .empty _ => false
  | .modes _ _ => false
  | _ => true

end Tree

/-! ## Nesting -/

mutual

/-- The first class that is nested deeper than this many levels. -/
def ClassTree.beyond? (levels : Nat) : ClassTree → Option Span
  | .bracketed span _ body => if levels = 0 then some span else body.beyond? (levels - 1)
  | .union span items => if levels = 0 then some span else ClassTree.anyBeyond? (levels - 1) items
  | .operation span _ left right =>
    if levels = 0 then some span
    else (left.beyond? (levels - 1)).or (right.beyond? (levels - 1))
  | _ => none

/-- The first of several classes that is nested deeper than this many levels. -/
def ClassTree.anyBeyond? (levels : Nat) : List ClassTree → Option Span
  | [] => none
  | item :: items => (item.beyond? levels).or (ClassTree.anyBeyond? levels items)

end

mutual

/-- The first part that is nested deeper than this many levels. -/
def Tree.beyond? (levels : Nat) : Tree → Option Span
  | .brackets body => body.beyond? levels
  | .repetition span _ body => if levels = 0 then some span else body.beyond? (levels - 1)
  | .group span _ body => if levels = 0 then some span else body.beyond? (levels - 1)
  | .choice span branches => if levels = 0 then some span else Tree.anyBeyond? (levels - 1) branches
  | .sequence span parts => if levels = 0 then some span else Tree.anyBeyond? (levels - 1) parts
  | _ => none

/-- The first of several parts that is nested deeper than this many levels. -/
def Tree.anyBeyond? (levels : Nat) : List Tree → Option Span
  | [] => none
  | tree :: trees => (tree.beyond? levels).or (Tree.anyBeyond? levels trees)

end

end NativeBootstrap.Pattern
