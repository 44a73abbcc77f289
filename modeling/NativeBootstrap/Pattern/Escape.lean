import NativeBootstrap.Pattern.Fault
import NativeBootstrap.Pattern.Tree

/-!
# Reading escapes

What follows a backslash: a character that stands for itself, a character by its number or by a
letter, a class, a property, or an assertion. Each reader answers with what it has read and with the
cursor behind it. `verbose` tells whether blanks count for nothing; digits and names may then have
blanks in them.
-/

set_option autoImplicit false

namespace NativeBootstrap.Pattern

namespace Escape

/-- The characters that mean something in a pattern. -/
def metacharacters : List Char :=
  ['\\', '.', '+', '*', '?', '(', ')', '|', '[', ']', '\x7b', '\x7d', '^', '$', '#', '&', '-', '~']

/-- Whether a character stands for itself after a backslash: an ASCII character that is neither a
letter, nor a digit, nor an angle. -/
def isPlain (c : Char) : Bool := c.toNat < 0x80 && !c.isAlphanum && c != '<' && c != '>'

example : metacharacters.all isPlain = true := by decide

/-- The character of a letter after a backslash. -/
def special? : Char → Option Char
  | 'a' => some '\x07'
  | 'f' => some '\x0c'
  | 't' => some '\t'
  | 'n' => some '\n'
  | 'r' => some '\r'
  | 'v' => some '\x0b'
  | _ => none

/-- The class of a letter after a backslash. A capital letter negates it. -/
def shorthand? : Char → Option (Shorthand × Bool)
  | 'd' => some (.digit, false)
  | 's' => some (.space, false)
  | 'w' => some (.word, false)
  | 'D' => some (.digit, true)
  | 'S' => some (.space, true)
  | 'W' => some (.word, true)
  | _ => none

/-- The assertion of a character after a backslash. -/
def assertion? : Char → Option Assertion
  | 'A' => some .textStart
  | 'z' => some .textEnd
  | 'b' => some .wordBoundary
  | 'B' => some .noWordBoundary
  | '<' => some .wordStart
  | '>' => some .wordEnd
  | _ => none

/-! ## Characters by number -/

/-- The value of a hexadecimal digit. -/
def hexDigit? (c : Char) : Option Nat :=
  if '0' ≤ c && c ≤ '9' then some (c.toNat - '0'.toNat)
  else if 'a' ≤ c && c ≤ 'f' then some (c.toNat - 'a'.toNat + 10)
  else if 'A' ≤ c && c ≤ 'F' then some (c.toNat - 'A'.toNat + 10)
  else none

/-- The character whose number has these hexadecimal digits. -/
def ofHexDigits? (digits : List Nat) : Option Char :=
  let code := digits.foldl (fun value digit => 16 * value + digit) 0
  if code.isValidChar then some (Char.ofNat code) else none

/-- How many digits follow a letter without braces. -/
def digitCount? : Char → Option Nat
  | 'x' => some 2
  | 'u' => some 4
  | 'U' => some 8
  | _ => none

/-- Reads this many digits, of which the first is at the cursor. -/
def fixedDigits (verbose : Bool) : Nat → Cursor → Except Fault (List Nat × Cursor)
  | 0, c => .ok ([], c)
  | count + 1, c =>
    match c.head? with
    | none => .error (.here .escapeUnexpectedEnd (.at c.position))
    | some char =>
      match hexDigit? char with
      | none => .error (.here .escapeHexInvalidDigit c.charSpan)
      | some digit => do
        let (digits, last) ← fixedDigits verbose count (c.step verbose)
        .ok (digit :: digits, last)

/-- Reads the number of a character, with the letter before it at the cursor; the escape began at
`start`. -/
def hex (verbose : Bool) (start : Position) (letter : Char) (count : Nat) (c : Cursor) :
    Except Fault (Token × Cursor) := do
  let c := c.step verbose
  if c.isAt '\x7b' then
    let (digits, last) := (c.step verbose).gather verbose fun char => (hexDigit? char).isSome
    match last.head? with
    | none => .error (.here .escapeUnexpectedEnd ⟨c.position, last.position⟩)
    | some '\x7d' =>
      let behind := last.step verbose
      if digits = [] then .error (.here .escapeHexEmpty ⟨c.position, behind.position⟩)
      else
        match ofHexDigits? (digits.filterMap hexDigit?) with
        | none => .error (.here .escapeHexInvalid ⟨c.next.position, last.position⟩)
        | some char => .ok (⟨⟨start, behind.position⟩, .literal char false⟩, behind)
    | some _ => .error (.here .escapeHexInvalidDigit last.charSpan)
  else
    let (digits, last) ← fixedDigits verbose count c
    match ofHexDigits? digits with
    | none => .error (.here .escapeHexInvalid ⟨c.position, last.position⟩)
    | some char => .ok (⟨⟨start, last.position⟩, .literal char (letter == 'x')⟩, last)

/-! ## Properties -/

/-- The property that a text in braces asks for: a name and a value with `!=`, `:` or `=` between
them, looked for in this order, or a name alone. -/
def property (text : List Char) : Property :=
  let cut (mark : String) : Option Property :=
    match (String.ofList text).splitOn mark with
    | name :: value :: more => some ⟨name, some (mark.intercalate (value :: more))⟩
    | _ => none
  ((cut "!=").or ((cut ":").or (cut "="))).getD ⟨String.ofList text, none⟩

/-- Reads a property, with the letter before it at the cursor. -/
def readProperty (verbose : Bool) (start : Position) (c : Cursor) : Except Fault (Token × Cursor) :=
  let c := c.step verbose
  match c.head? with
  | none => .error (.here .escapeUnexpectedEnd (.at c.position))
  | some '\x7b' =>
    let (text, last) := (c.step verbose).gather verbose (· != '\x7d')
    if last.atEnd then .error (.here .escapeUnexpectedEnd (.at last.position))
    else .ok (⟨⟨start, last.next.position⟩, .property (property text)⟩, last.next)
  | some '\\' => .error (.here .propertyInvalid c.charSpan)
  | some char =>
    let last := c.step verbose
    .ok (⟨⟨start, last.position⟩, .property ⟨char.toString, none⟩⟩, last)

/-! ## Word boundaries in braces -/

/-- Whether a character may stand in the name of a word boundary. -/
def isBoundaryChar (c : Char) : Bool :=
  c == '-' || ('A' ≤ c && c ≤ 'Z') || ('a' ≤ c && c ≤ 'z')

/-- Reads what follows a word boundary that began at `start`, with an opening brace at the cursor.
If no name of a boundary begins in the braces, they belong to a repetition and are not read. -/
def boundary (verbose : Bool) (start : Position) (c : Cursor) :
    Except Fault (Option (Assertion × Cursor)) :=
  let inside := c.step verbose
  match inside.head? with
  | none => .error (.here .boundaryUnexpectedEnd ⟨start, inside.position⟩)
  | some char =>
    if !isBoundaryChar char then .ok none
    else
      let (name, last) := inside.gather verbose isBoundaryChar
      if !last.isAt '\x7d' then .error (.here .boundaryUnclosed ⟨c.position, last.position⟩)
      else
        match Assertion.ofName? (String.ofList name) with
        | none => .error (.here .boundaryUnrecognized ⟨inside.position, last.position⟩)
        | some assertion => .ok (some (assertion, last.next))

/-! ## Escapes -/

/-- The token of a character after a backslash, if the character tells it all. -/
def simple? (char : Char) : Option Atom :=
  if isPlain char then some (.literal char false)
  else
    match special? char, assertion? char, shorthand? char with
    | some char, _, _ => some (.literal char false)
    | _, some assertion, _ => some (.assertion assertion)
    | _, _, some (kind, negated) => some (.shorthand kind negated)
    | none, none, none => none

/-- Reads an escape, with its backslash at the cursor. -/
def read (verbose : Bool) (c : Cursor) : Except Fault (Token × Cursor) :=
  let start := c.position
  let c := c.next
  match c.head? with
  | none => .error (.here .escapeUnexpectedEnd ⟨start, c.position⟩)
  | some char =>
    let behind := c.next
    let span : Span := ⟨start, behind.position⟩
    if char.isDigit then .error (.here .backreference span)
    else if char == 'p' || char == 'P' then readProperty verbose start c
    else
      match digitCount? char, simple? char with
      | some count, _ => hex verbose start char count c
      | none, none => .error (.here .escapeUnrecognized span)
      | none, some atom =>
        if char == 'b' && behind.isAt '\x7b' then do
          match ← boundary verbose start behind with
          | none => .ok (⟨span, atom⟩, behind)
          | some (assertion, last) => .ok (⟨⟨start, last.position⟩, .assertion assertion⟩, last)
        else .ok (⟨span, atom⟩, behind)

end Escape

end NativeBootstrap.Pattern
