import NativeBootstrap.Pattern.Expression
import NativeBootstrap.Pattern.Fault
import NativeBootstrap.Pattern.Tree

/-!
# The meaning of patterns

The modes of a pattern say what its parts mean (`Modes`). A part that changes them does so up to the
end of the group around it, also for the branches that follow.

A pattern is read in code points or in bytes. In code points no class beyond ASCII is known, so that
shorthands, properties and letters of either case have no meaning. In bytes all that is known is
ASCII, and a part that might match half of a character has no meaning.
-/

set_option autoImplicit false

namespace NativeBootstrap.Pattern

/-- The modes that matter to what a part means. -/
structure Modes where
  caseInsensitive : Bool
  multiLine : Bool
  dotMatchesLineEnd : Bool
  /-- Whether the pattern is read in code points, not in bytes. -/
  unicode : Bool
  carriageReturn : Bool
  deriving DecidableEq, Repr

namespace Modes

/-- The modes at the start of a pattern. -/
def initial : Modes := ⟨false, false, false, true, false⟩

/-- The modes after a change. -/
def change (m : Modes) (c : ModeChange) : Modes :=
  match c.mode with
  | .caseInsensitive => { m with caseInsensitive := c.on }
  | .multiLine => { m with multiLine := c.on }
  | .dotMatchesLineEnd => { m with dotMatchesLineEnd := c.on }
  | .unicode => { m with unicode := c.on }
  | .carriageReturn => { m with carriageReturn := c.on }
  | .swapGreed => m
  | .verbose => m

/-- The greatest number of what the pattern is read in. -/
def greatest (m : Modes) : Nat := if m.unicode then CodeSet.greatest else CodeSet.greatestByte

end Modes

/-! ## Classes -/

/-- The code points of a named class. -/
def NamedClass.codes : NamedClass → CodeSet
  | .alnum => ⟨[(0x30, 0x39), (0x41, 0x5A), (0x61, 0x7A)]⟩
  | .alpha => ⟨[(0x41, 0x5A), (0x61, 0x7A)]⟩
  | .ascii => ⟨[(0x00, 0x7F)]⟩
  | .blank => ⟨[(0x09, 0x09), (0x20, 0x20)]⟩
  | .cntrl => ⟨[(0x00, 0x1F), (0x7F, 0x7F)]⟩
  | .digit => ⟨[(0x30, 0x39)]⟩
  | .graph => ⟨[(0x21, 0x7E)]⟩
  | .lower => ⟨[(0x61, 0x7A)]⟩
  | .print => ⟨[(0x20, 0x7E)]⟩
  | .punct => ⟨[(0x21, 0x2F), (0x3A, 0x40), (0x5B, 0x60), (0x7B, 0x7E)]⟩
  | .space => ⟨[(0x09, 0x0D), (0x20, 0x20)]⟩
  | .upper => ⟨[(0x41, 0x5A)]⟩
  | .word => ⟨[(0x30, 0x39), (0x41, 0x5A), (0x5F, 0x5F), (0x61, 0x7A)]⟩
  | .xdigit => ⟨[(0x30, 0x39), (0x41, 0x46), (0x61, 0x66)]⟩

/-- The ASCII class of a shorthand. -/
def Shorthand.named : Shorthand → NamedClass
  | .digit => .digit
  | .space => .space
  | .word => .word

/-- A class that is understood in part. `closed` tells that it is known to hold, with a letter, the
same letter in the other case. -/
structure Charset where
  codes : CodeSet
  closed : Bool
  deriving DecidableEq, Repr

namespace Charset

/-- The empty class. -/
def empty : Charset := ⟨.empty, true⟩

/-- A class of code points as they were written. -/
def written (codes : CodeSet) : Charset := ⟨codes, false⟩

/-- The characters of either class. -/
def union (s t : Charset) : Charset := ⟨s.codes.union t.codes, s.closed && t.closed⟩

/-- The characters that are not in the class, up to a limit. -/
def complement (limit : Nat) (s : Charset) : Charset :=
  ⟨s.codes.complement limit, s.closed || s.codes.isEmpty⟩

/-- The class with all letters in both cases, where the modes ask for it. -/
def folded (modes : Modes) (span : Span) (s : Charset) : Except Fault Charset :=
  if !modes.caseInsensitive then .ok s
  else if !modes.unicode then .ok ⟨s.codes.withOtherCase, true⟩
  else if s.closed || s.codes.isEmpty then .ok s
  else .error (.here .caseUnavailable span)

/-- The class as a part of its own: in both cases where the modes ask for it, then negated where that
is written. -/
def resolved (modes : Modes) (span : Span) (negated : Bool) (s : Charset) : Except Fault Charset := do
  let s ← s.folded modes span
  let s := if negated then s.complement modes.greatest else s
  if !modes.unicode && !s.codes.isAscii then .error (.here .invalidUtf8 span) else .ok s

/-- An operation on two classes. -/
def operate (kind : SetOperation) (s t : Charset) : Charset :=
  let codes :=
    match kind with
    | .intersection => s.codes.intersection t.codes
    | .difference => s.codes.difference t.codes
    | .symmetricDifference => s.codes.symmetricDifference t.codes
  ⟨codes, s.closed && t.closed⟩

end Charset

/-- A shorthand. -/
def Shorthand.charset (modes : Modes) (span : Span) (negated : Bool) (kind : Shorthand) :
    Except Fault Charset :=
  if modes.unicode then .error (.here .shorthandUnavailable span)
  else if negated then .error (.here .invalidUtf8 span)
  else .ok (.written kind.named.codes)

/-- The name of a property in the form in which names are compared: in small ASCII letters, without
blanks, dashes, underscores, and without `is` at its start. -/
def Property.comparedName (p : Property) : List Char :=
  let small := p.name.toList.map Char.toLower
  let name := if ['i', 's'].isPrefixOf small then small.drop 2 else small
  name.filter fun c => c.toNat < 0x80 && c != ' ' && c != '_' && c != '-'

/-- The names that tell a general category only, because they stand for another property, too. -/
def categoryNames : List (List Char) := [['c', 'f'], ['s', 'c'], ['l', 'c']]

/-- What is wrong with a property: none is known. A name that tells a general category only is the
name of a value. -/
def Property.fault (modes : Modes) (span : Span) (p : Property) : Fault :=
  if !modes.unicode then .here .unicodeNotAllowed span
  else if p.value.isNone && categoryNames.contains p.comparedName then
    .here .propertyValueNotFound span
  else .here .propertyNotFound span

/-- The number of a character in a class. In bytes it has to be that of a byte and of ASCII. -/
def Member.code (modes : Modes) (m : Member) : Except Fault Nat :=
  let code := m.char.toNat
  if modes.unicode || code < 0x80 then .ok code
  else if m.isByte then .error (.here .invalidUtf8 m.span)
  else .error (.here .unicodeNotAllowed m.span)

mutual

/-- The characters of a class. -/
def ClassTree.charset (modes : Modes) : ClassTree → Except Fault Charset
  | .empty _ => .ok .empty
  | .member m => do
    let code ← m.code modes
    .ok (.written (.single code))
  | .range _ low high => do
    let first ← low.code modes
    let last ← high.code modes
    .ok (.written ⟨[(first, last)]⟩)
  | .named span kind negated => (Charset.written kind.codes).resolved modes span negated
  | .shorthand span kind negated => kind.charset modes span negated
  | .property span p => .error (p.fault modes span)
  | .bracketed span negated body => do
    let s ← body.charset modes
    s.resolved modes span negated
  | .union _ items => ClassTree.charsetOfAll modes items
  | .operation _ kind left right => do
    let s ← left.charset modes
    let t ← right.charset modes
    let t ← t.folded modes right.span
    let s ← s.folded modes left.span
    .ok (.operate kind s t)

/-- The characters of several classes. -/
def ClassTree.charsetOfAll (modes : Modes) : List ClassTree → Except Fault Charset
  | [] => .ok .empty
  | item :: items => do
    let s ← item.charset modes
    let t ← ClassTree.charsetOfAll modes items
    .ok (s.union t)

end

/-! ## Atoms -/

/-- What a word boundary is with respect to words; the other assertions depend on no words. -/
def Assertion.wordPlace? : Assertion → Option WordPlace
  | .wordBoundary => some .boundary
  | .noWordBoundary => some .noBoundary
  | .wordStart => some .start
  | .wordEnd => some .stop
  | .wordStartHalf => some .startHalf
  | .wordEndHalf => some .stopHalf
  | _ => none

/-- The place in the text that an assertion means. -/
def Assertion.look (modes : Modes) (a : Assertion) : Look :=
  match a.wordPlace?, a with
  | some place, _ => .word place (!modes.unicode)
  | none, .lineStart =>
    if !modes.multiLine then .textStart
    else if modes.carriageReturn then .anyLineStart
    else .lineStart
  | none, .lineEnd =>
    if !modes.multiLine then .textEnd
    else if modes.carriageReturn then .anyLineEnd
    else .lineEnd
  | none, .textStart => .textStart
  | none, _ => .textEnd

/-- The characters of a dot. -/
def dotCodes (modes : Modes) : CodeSet :=
  let lineEnds : CodeSet :=
    if modes.dotMatchesLineEnd then .empty
    else if modes.carriageReturn then ⟨[(0x0A, 0x0A), (0x0D, 0x0D)]⟩
    else .single 0x0A
  lineEnds.complement CodeSet.greatest

/-- What a single character means. -/
def literalMeaning (modes : Modes) (span : Span) (c : Char) (isByte : Bool) :
    Except Fault Expression :=
  if modes.unicode then
    if modes.caseInsensitive then .error (.here .caseUnavailable span) else .ok (.literal c)
  else if isByte && 0x80 ≤ c.toNat then .error (.here .invalidUtf8 span)
  else if modes.caseInsensitive then .ok (.ofSet (CodeSet.single c.toNat).withOtherCase)
  else .ok (.literal c)

/-- What a token means. -/
def Token.meaning (modes : Modes) (t : Token) : Except Fault Expression :=
  match t.atom with
  | .literal c isByte => literalMeaning modes t.span c isByte
  | .dot => if modes.unicode then .ok (.ofSet (dotCodes modes)) else .error (.here .invalidUtf8 t.span)
  | .assertion a => .ok (.look (a.look modes))
  | .shorthand kind negated => do
    let s ← kind.charset modes t.span negated
    .ok (.ofSet s.codes)
  | .property p => .error (p.fault modes t.span)

/-! ## Patterns -/

mutual

/-- What a pattern means, and the modes after it. -/
def Tree.meaning (modes : Modes) : Tree → Except Fault (Expression × Modes)
  | .empty _ => .ok (.empty, modes)
  | .modes _ changes => .ok (.empty, changes.foldl Modes.change modes)
  | .token t => do
    let e ← t.meaning modes
    .ok (e, modes)
  | .brackets body => do
    let s ← body.charset modes
    .ok (.ofSet s.codes, modes)
  | .repetition _ count body => do
    let (e, modes) ← body.meaning modes
    .ok (.ofRepetition count.least count.most e, modes)
  | .group _ .captured body => do
    let (e, _) ← body.meaning modes
    .ok (.captured e, modes)
  | .group _ (.plain changes) body => do
    let (e, _) ← body.meaning (changes.foldl Modes.change modes)
    .ok (e, modes)
  | .choice _ branches => do
    let (es, modes) ← Tree.meanings modes branches
    .ok (.ofChoice es, modes)
  | .sequence _ parts => do
    let (es, modes) ← Tree.meanings modes parts
    .ok (.ofSequence es, modes)

/-- What several patterns mean, one after the other, and the modes after them. -/
def Tree.meanings (modes : Modes) : List Tree → Except Fault (List Expression × Modes)
  | [] => .ok ([], modes)
  | tree :: trees => do
    let (e, modes) ← tree.meaning modes
    let (es, modes) ← Tree.meanings modes trees
    .ok (e :: es, modes)

end

end NativeBootstrap.Pattern
