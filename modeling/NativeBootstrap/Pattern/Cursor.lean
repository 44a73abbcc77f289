import NativeBootstrap.Text.Layout

/-!
# Places in a pattern

A pattern is read with a cursor, which holds the position it has come to and the characters that are
left. Positions count lines and columns from one; a column is one character. A span lies between two
positions, and is empty if they are the same.

A pattern may be read verbosely: blanks then stand for nothing, and neither does what follows a `#`
up to the end of its line (`Cursor.skip`). Each reader says whether it skips them.
-/

set_option autoImplicit false

namespace NativeBootstrap.Pattern

/-- A position in a pattern: the number of characters before it, its line and its column. -/
structure Position where
  index : Nat
  line : Nat
  column : Nat
  deriving DecidableEq, Repr

/-- The position of the first character. -/
def Position.first : Position := ⟨0, 1, 1⟩

/-- The position after a character. -/
def Position.after (p : Position) (c : Char) : Position :=
  if c = '\n' then ⟨p.index + 1, p.line + 1, 1⟩ else ⟨p.index + 1, p.line, p.column + 1⟩

/-- What lies between two positions. -/
structure Span where
  start : Position
  stop : Position
  deriving DecidableEq, Repr

/-- The empty span at a position. -/
def Span.at (p : Position) : Span := ⟨p, p⟩

/-- Whether a span lies on one line. -/
def Span.isOneLine (s : Span) : Bool := s.start.line == s.stop.line

/-- Whether a span comes before another one, or is the same. -/
def Span.isBefore (s t : Span) : Bool :=
  s.start.index < t.start.index
    || (s.start.index == t.start.index && s.stop.index ≤ t.stop.index)

/-- A position in a pattern, and the characters from there on. -/
structure Cursor where
  position : Position
  rest : List Char
  deriving DecidableEq, Repr

namespace Cursor

/-- The cursor at the start of a pattern. -/
def ofString (pattern : String) : Cursor := ⟨.first, pattern.toList⟩

/-- Whether the end is reached. -/
def atEnd (c : Cursor) : Bool := c.rest.isEmpty

/-- The character at the cursor. -/
def head? (c : Cursor) : Option Char := c.rest.head?

/-- Whether this character is at the cursor. -/
def isAt (c : Cursor) (char : Char) : Bool := c.head? == some char

/-- The cursor one character on. -/
def next (c : Cursor) : Cursor :=
  match c.rest with
  | [] => c
  | char :: rest => ⟨c.position.after char, rest⟩

/-- The cursor this many characters on. -/
def advance : Nat → Cursor → Cursor
  | 0, c => c
  | n + 1, c => advance n c.next

/-- The span of the character at the cursor. -/
def charSpan (c : Cursor) : Span := ⟨c.position, c.next.position⟩

/-- The cursor after these characters, if they come next. -/
def after? (c : Cursor) (text : String) : Option Cursor :=
  if text.toList.isPrefixOf c.rest then some (c.advance text.length) else none

/-- The cursor after the characters that fulfil a condition. -/
def skipWhile (p : Char → Bool) : Position → List Char → Cursor
  | position, [] => ⟨position, []⟩
  | position, c :: rest =>
    if p c then skipWhile p (position.after c) rest else ⟨position, c :: rest⟩

/-- The cursor after blanks and comments; it may stand in a comment at first. -/
def skipFrom : Bool → Position → List Char → Cursor
  | _, position, [] => ⟨position, []⟩
  | true, position, c :: rest => skipFrom (c != '\n') (position.after c) rest
  | false, position, c :: rest =>
    if Text.isBlank c then skipFrom false (position.after c) rest
    else if c = '#' then skipFrom true (position.after c) rest
    else ⟨position, c :: rest⟩

/-- The cursor after blanks and comments, if the pattern is read verbosely. -/
def skip (verbose : Bool) (c : Cursor) : Cursor :=
  if verbose then skipFrom false c.position c.rest else c

/-- The cursor at the next character that counts. -/
def step (verbose : Bool) (c : Cursor) : Cursor := c.next.skip verbose

/-- The character after the one at the cursor. -/
def second? (c : Cursor) : Option Char := c.next.head?

/-- The first character that is neither a blank nor, after the first `#` among these characters,
that `#`. -/
def firstSolid? : Bool → List Char → Option Char
  | _, [] => none
  | inComment, c :: rest =>
    if Text.isBlank c then firstSolid? inComment rest
    else if !inComment && c == '#' then firstSolid? true rest
    else some c

/-- The character after the one at the cursor, without blanks if the pattern is read verbosely. A
comment is not passed over as a whole here, only the `#` that begins it. If only blanks follow, it is
the first of them. -/
def secondSolid? (verbose : Bool) (c : Cursor) : Option Char :=
  if verbose then (firstSolid? false c.next.rest).or c.second? else c.second?

theorem length_skipFrom_le (inComment : Bool) (position : Position) (rest : List Char) :
    (skipFrom inComment position rest).rest.length ≤ rest.length := by
  induction rest generalizing inComment position with
  | nil => cases inComment <;> simp [skipFrom]
  | cons c rest ih =>
    cases inComment with
    | true => exact Nat.le_succ_of_le (ih _ _)
    | false =>
      unfold skipFrom
      split
      · exact Nat.le_succ_of_le (ih _ _)
      · split
        · exact Nat.le_succ_of_le (ih _ _)
        · exact Nat.le_refl _

theorem length_skip_le (verbose : Bool) (c : Cursor) :
    (c.skip verbose).rest.length ≤ c.rest.length := by
  unfold skip
  split
  · exact length_skipFrom_le _ _ _
  · exact Nat.le_refl _

/-- A step at a character leaves fewer of them. -/
theorem length_step_lt (verbose : Bool) {c : Cursor} {char : Char} (h : c.head? = some char) :
    (c.step verbose).rest.length < c.rest.length := by
  obtain ⟨position, rest⟩ := c
  cases rest with
  | nil => simp [head?] at h
  | cons first rest => exact Nat.lt_succ_of_le (length_skip_le verbose _)

/-- The characters that fulfil a condition, taken one step after the other, each with its span, and
the cursor after them. -/
def gatherSpans (verbose : Bool) (p : Char → Bool) (c : Cursor) : List (Span × Char) × Cursor :=
  match _h : c.head? with
  | none => ([], c)
  | some char =>
    if p char then
      let (taken, last) := gatherSpans verbose p (c.step verbose)
      ((c.charSpan, char) :: taken, last)
    else ([], c)
termination_by c.rest.length
decreasing_by exact length_step_lt verbose ‹_›

/-- The characters that fulfil a condition, taken one step after the other, and the cursor after
them. -/
def gather (verbose : Bool) (p : Char → Bool) (c : Cursor) : List Char × Cursor :=
  let (taken, last) := c.gatherSpans verbose p
  (taken.map (·.2), last)

end Cursor

end NativeBootstrap.Pattern
