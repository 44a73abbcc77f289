import NativeBootstrap.Pattern.Cursor

/-!
# Faults of patterns

What can be wrong with a pattern, and the report on it. A report shows the pattern with a mark under
each span that the fault is about: the place of the fault and, for a thing that is there twice, the
place of the first one. A pattern of several lines is shown with line numbers; a span over several
lines is told in words.
-/

set_option autoImplicit false

namespace NativeBootstrap.Pattern

/-- What is wrong at a place of a pattern. -/
inductive Cause where
  | classEscapeInvalid
  | classRangeInvalid
  | classRangeLiteral
  | classUnclosed
  | decimalInvalid
  | escapeHexEmpty
  | escapeHexInvalid
  | escapeHexInvalidDigit
  | escapeUnexpectedEnd
  | escapeUnrecognized
  | modeNegationDangling
  | modeNegationRepeated
  | modeDuplicate
  | modeUnexpectedEnd
  | modeUnrecognized
  | groupNameDuplicate
  | groupNameEmpty
  | groupNameInvalid
  | groupNameUnexpectedEnd
  | groupUnclosed
  | groupUnopened
  | nestedTooDeep
  | countInvalid
  | countEmpty
  | countUnclosed
  | repetitionMissing
  | boundaryUnclosed
  | boundaryUnrecognized
  | boundaryUnexpectedEnd
  | propertyInvalid
  | backreference
  | lookAround
  /-- Only where characters are code points. -/
  | unicodeNotAllowed
  | invalidUtf8
  | propertyNotFound
  | propertyValueNotFound
  | shorthandUnavailable
  | caseUnavailable
  deriving DecidableEq, Repr

/-- How deep the parts of a pattern may be nested. -/
def nestingLimit : Nat := 250

/-- The wording of a cause. -/
def Cause.text : Cause → String
  | .classEscapeInvalid => "invalid escape sequence found in character class"
  | .classRangeInvalid => "invalid character class range, the start must be <= the end"
  | .classRangeLiteral => "invalid range boundary, must be a literal"
  | .classUnclosed => "unclosed character class"
  | .decimalInvalid => "decimal literal invalid"
  | .escapeHexEmpty => "hexadecimal literal empty"
  | .escapeHexInvalid => "hexadecimal literal is not a Unicode scalar value"
  | .escapeHexInvalidDigit => "invalid hexadecimal digit"
  | .escapeUnexpectedEnd => "incomplete escape sequence, reached end of pattern prematurely"
  | .escapeUnrecognized => "unrecognized escape sequence"
  | .modeNegationDangling => "dangling flag negation operator"
  | .modeNegationRepeated => "flag negation operator repeated"
  | .modeDuplicate => "duplicate flag"
  | .modeUnexpectedEnd => "expected flag but got end of regex"
  | .modeUnrecognized => "unrecognized flag"
  | .groupNameDuplicate => "duplicate capture group name"
  | .groupNameEmpty => "empty capture group name"
  | .groupNameInvalid => "invalid capture group character"
  | .groupNameUnexpectedEnd => "unclosed capture group name"
  | .groupUnclosed => "unclosed group"
  | .groupUnopened => "unopened group"
  | .nestedTooDeep =>
    "exceed the maximum number of nested parentheses/brackets (" ++ toString nestingLimit ++ ")"
  | .countInvalid => "invalid repetition count range, the start must be <= the end"
  | .countEmpty => "repetition quantifier expects a valid decimal"
  | .countUnclosed => "unclosed counted repetition"
  | .repetitionMissing => "repetition operator missing expression"
  | .boundaryUnclosed =>
    "special word boundary assertion is either unclosed or contains an invalid character"
  | .boundaryUnrecognized =>
    "unrecognized special word boundary assertion, valid choices are: "
      ++ "start, end, start-half or end-half"
  | .boundaryUnexpectedEnd =>
    "found either the beginning of a special word boundary or a bounded repetition on a \\b "
      ++ "with an opening brace, but no closing brace"
  | .propertyInvalid => "invalid Unicode character class"
  | .backreference => "backreferences are not supported"
  | .lookAround => "look-around, including look-ahead and look-behind, is not supported"
  | .unicodeNotAllowed => "Unicode not allowed here"
  | .invalidUtf8 => "pattern can match invalid UTF-8"
  | .propertyNotFound => "Unicode property not found"
  | .propertyValueNotFound => "Unicode property value not found"
  | .shorthandUnavailable =>
    "Unicode-aware Perl class not found (make sure the unicode-perl feature is enabled)"
  | .caseUnavailable =>
    "Unicode-aware case insensitivity matching is not available "
      ++ "(make sure the unicode-case feature is enabled)"

/-- Something wrong in a pattern: where it is, and where the first one is of what is there twice. -/
structure Fault where
  cause : Cause
  span : Span
  first : Option Span
  deriving DecidableEq, Repr

/-- A fault at one place. -/
def Fault.here (cause : Cause) (span : Span) : Fault := ⟨cause, span, none⟩

namespace Fault

/-! ## Reports -/

/-- The lines of a text. A line ends with a line feed, before which a carriage return may stand. -/
def linesOf : List Char → List (List Char)
  | [] => []
  | '\n' :: rest => [] :: linesOf rest
  | '\r' :: '\n' :: rest => [] :: linesOf rest
  | c :: rest =>
    match linesOf rest with
    | [] => [[c]]
    | line :: lines => (c :: line) :: lines

/-- How many lines a pattern has. After a line feed at its end one more may hold a span. -/
def lineCount (pattern : List Char) : Nat :=
  (linesOf pattern).length + if pattern.getLast? = some '\n' then 1 else 0

/-- Text of one character over and over. -/
def repeated (count : Nat) (c : Char) : List Char := List.replicate count c

/-- The marks for spans on one line, which are in order; `column` characters are written before. -/
def marksFrom : Nat → List Span → List Char
  | _, [] => []
  | column, span :: spans =>
    let blanks := span.start.column - 1 - column
    let marks := max 1 (span.stop.column - span.start.column)
    repeated blanks ' ' ++ repeated marks '^' ++ marksFrom (column + blanks + marks) spans

/-- The spans that a fault is about, in order. -/
def spans (f : Fault) : List Span :=
  match f.first with
  | none => [f.span]
  | some first => if f.span.isBefore first then [f.span, first] else [first, f.span]

/-- The marks under a line, after a margin of this width. -/
def marksUnder (f : Fault) (margin line : Nat) : List String :=
  match f.spans.filter fun span => span.isOneLine && span.start.line == line with
  | [] => []
  | spans => [String.ofList (repeated margin ' ' ++ marksFrom 0 spans)]

/-- A line as it is shown, with the marks under it. The lines of a pattern that has several are
numbered, right-aligned in `width` columns. -/
def shownLine (f : Fault) (width : Option Nat) (line : List Char) (index : Nat) : List String :=
  match width with
  | none => ("    " ++ String.ofList line) :: f.marksUnder 4 (index + 1)
  | some width =>
    (Text.paddedLeft width (toString (index + 1)) ++ ": " ++ String.ofList line)
      :: f.marksUnder (width + 2) (index + 1)

/-- A span over several lines, in words. -/
def spread (span : Span) : String :=
  "on line " ++ toString span.start.line ++ " (column " ++ toString span.start.column
    ++ ") through line " ++ toString span.stop.line ++ " (column "
    ++ toString (span.stop.column - 1) ++ ")"

/-- The report on a fault of a pattern. -/
def report (pattern : String) (f : Fault) : String :=
  let chars := pattern.toList
  let lines := (linesOf chars).zipIdx
  let header := "regex parse error:"
  let error := "error: " ++ f.cause.text
  "\n".intercalate <|
    if chars.contains '\n' then
      let width := (toString (lineCount chars)).length
      let divider := String.ofList (repeated 79 '~')
      [header, divider]
        ++ lines.flatMap (fun (line, index) => f.shownLine (some width) line index)
        ++ [divider]
        ++ (f.spans.filter fun span => !span.isOneLine).map spread
        ++ [error]
    else
      [header] ++ lines.flatMap (fun (line, index) => f.shownLine none line index) ++ [error]

end Fault

end NativeBootstrap.Pattern
