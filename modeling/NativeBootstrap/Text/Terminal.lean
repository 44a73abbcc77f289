import NativeBootstrap.Text.Utf8

/-!
# Text without control sequences

What is left of a text when everything is taken out that would control a terminal: escape sequences
and single control characters. Blanks and line ends stay.

A reader goes through the text with the phase it is in (`Phase`). Within a sequence nothing is shown,
with one exception: a blank or line end between the parts of an escape sequence is shown, and so is
what follows it, up to the next character that is not. Until then the sequence is only interrupted.
-/

set_option autoImplicit false

namespace NativeBootstrap.Terminal

/-- Where in a control sequence a reader is. -/
inductive Phase where
  /-- Outside of any sequence. -/
  | outside
  | escape
  | escapeIntermediate
  | controlEntry
  | controlParameter
  | controlIntermediate
  | controlIgnored
  | deviceEntry
  | deviceParameter
  | deviceIntermediate
  | deviceIgnored
  | deviceData
  /-- In a command to the operating system. -/
  | command
  /-- In any other string. -/
  | string
  deriving DecidableEq, Repr

/-- The escape character. -/
def escapeCharacter : Char := '\x1b'

/-- Whether a character breaks off any sequence. -/
def cancels (c : Char) : Bool := c == '\x18' || c == '\x1a'

/-- Whether a character is a blank or a line end. -/
def isSpacing (c : Char) : Bool :=
  c == ' ' || c == '\t' || c == '\n' || c == '\x0c' || c == '\r'

/-- Whether a character is shown outside of sequences. -/
def isShown (c : Char) : Bool := isSpacing c || (' ' < c && c != '\x7f')

namespace Phase

/-- Whether control characters take effect in a phase, and so interrupt the sequence. -/
def isInterruptible : Phase → Bool
  | .escape | .escapeIntermediate => true
  | .controlEntry | .controlParameter | .controlIntermediate | .controlIgnored => true
  | _ => false

/-- The phase after a plain ASCII character. -/
def afterAscii (phase : Phase) (c : Char) : Phase :=
  match phase with
  | .outside => .outside
  | .escape =>
    if c ≤ '/' then .escapeIntermediate
    else if c == '[' then .controlEntry
    else if c == ']' then .command
    else if c == 'P' then .deviceEntry
    else if c == 'X' || c == '^' || c == '_' then .string
    else .outside
  | .escapeIntermediate => if c ≤ '/' then .escapeIntermediate else .outside
  | .controlEntry =>
    if c ≤ '/' then .controlIntermediate else if c ≤ '?' then .controlParameter else .outside
  | .controlParameter =>
    if c ≤ '/' then .controlIntermediate
    else if c ≤ ';' then .controlParameter
    else if c ≤ '?' then .controlIgnored
    else .outside
  | .controlIntermediate =>
    if c ≤ '/' then .controlIntermediate else if c ≤ '?' then .controlIgnored else .outside
  | .controlIgnored => if c ≤ '?' then .controlIgnored else .outside
  | .deviceEntry =>
    if c ≤ '/' then .deviceIntermediate else if c ≤ '?' then .deviceParameter else .deviceData
  | .deviceParameter =>
    if c ≤ '/' then .deviceIntermediate
    else if c ≤ ';' then .deviceParameter
    else if c ≤ '?' then .deviceIgnored
    else .deviceData
  | .deviceIntermediate =>
    if c ≤ '/' then .deviceIntermediate else if c ≤ '?' then .deviceIgnored else .deviceData
  | .deviceIgnored => .deviceIgnored
  | .deviceData => .deviceData
  | .command => .command
  | .string => .string

/-- Whether the byte 9C ends a phase, also as a part of a character. -/
def endsWithTerminator : Phase → Bool
  | .deviceIgnored | .deviceData | .string => true
  | _ => false

/-- The phase after a character that is not shown. -/
def after (phase : Phase) (c : Char) : Phase :=
  if c == escapeCharacter then .escape
  else if cancels c then .outside
  else if phase == .command && c == '\x07' then .outside
  else if ' ' ≤ c && c ≤ '~' then phase.afterAscii c
  else if phase.endsWithTerminator && (Utf8.encode c.toString).contains 0x9C then .outside
  else phase

end Phase

/-- What is shown of a text, in a phase; `interrupted` tells whether the sequence is interrupted. -/
def shownFrom : Phase → Bool → List Char → List Char
  | _, _, [] => []
  | phase, interrupted, c :: rest =>
    if interrupted || phase == .outside then
      if isShown c then c :: shownFrom (if c ≤ '~' then phase else .outside) true rest
      else shownFrom (if c == escapeCharacter || cancels c then phase.after c else phase) false rest
    else if phase.isInterruptible && isSpacing c && c != ' ' then c :: shownFrom phase true rest
    else shownFrom (phase.after c) false rest

/-- A text without control sequences. -/
def plain (text : String) : String := String.ofList (shownFrom .outside false text.toList)

end NativeBootstrap.Terminal
