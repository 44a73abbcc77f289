import NativeBootstrap.Pattern.Escape

/-!
# Reading classes in brackets

A class in brackets holds characters, ranges, escapes, named classes and further classes in brackets,
with operations between groups of them. Operations of all kinds bind equally, to the left. At its
start, dashes stand for themselves, and so does a closing bracket that comes first.
-/

set_option autoImplicit false

namespace NativeBootstrap.Pattern.Brackets

/-- The items of a class that are read, and the span they take up. -/
structure Items where
  span : Span
  trees : List ClassTree

namespace Items

/-- No items, at a position. -/
def none (p : Position) : Items := ⟨.at p, []⟩

/-- The items with one more. -/
def push (items : Items) (tree : ClassTree) : Items :=
  let start := if items.trees.isEmpty then tree.span.start else items.span.start
  ⟨⟨start, tree.span.stop⟩, items.trees ++ [tree]⟩

/-- The class of some items; one alone stands for itself. -/
def tree (items : Items) : ClassTree :=
  match items.trees with
  | [] => .empty items.span
  | [tree] => tree
  | trees => .union items.span trees

end Items

/-! ## The start of a class -/

/-- A class whose opening part is read. -/
structure Opening where
  /-- What is shown as unclosed if the end is missing. -/
  span : Span
  negated : Bool
  items : Items
  cursor : Cursor

/-- The characters at the start of a class that stand for themselves there, and the cursor after
them. The class began at `start`. -/
def leading (verbose : Bool) (start : Position) (c : Cursor) : Except Fault (Items × Cursor) :=
  let member (taken : Span × Char) : ClassTree := .member ⟨taken.1, taken.2, false⟩
  let (dashes, last) := c.gatherSpans verbose (· == '-')
  let items := (dashes.map member).foldl Items.push (.none c.position)
  if dashes = [] ∧ c.isAt ']' then
    let last := c.step verbose
    if last.atEnd then .error (.here .classUnclosed ⟨start, last.position⟩)
    else .ok (items.push (member (c.charSpan, ']')), last)
  else if last.atEnd then .error (.here .classUnclosed (.at start))
  else .ok (items, last)

/-- Reads the opening part of a class, with the bracket at the cursor. -/
def opening (verbose : Bool) (c : Cursor) : Except Fault Opening := do
  let unclosed (last : Cursor) : Fault := .here .classUnclosed ⟨c.position, last.position⟩
  let inside := c.step verbose
  if inside.atEnd then .error (unclosed inside)
  let negated := inside.isAt '^'
  let inside := if negated then inside.step verbose else inside
  if inside.atEnd then .error (unclosed inside)
  let (items, last) ← leading verbose c.position inside
  .ok ⟨⟨c.position, last.position⟩, negated, items, last⟩

/-! ## Items -/

/-- A named class, with its bracket at the cursor. -/
def named? (c : Cursor) : Option (ClassTree × Cursor) := do
  let inside ← c.after? "[:"
  let negated := inside.isAt '^'
  let inside := if negated then inside.next else inside
  let name := inside.rest.takeWhile (· != ':')
  let last ← (inside.advance name.length).after? ":]"
  let kind ← NamedClass.ofName? (String.ofList name)
  return (.named ⟨c.position, last.position⟩ kind negated, last)

/-- Reads one character or an escape. -/
def token (verbose : Bool) (c : Cursor) : Except Fault (Token × Cursor) :=
  match c.head? with
  | some char =>
    if char == '\\' then Escape.read verbose c else .ok (⟨c.charSpan, .literal char false⟩, c.next)
  | none => .error (.here .classUnclosed (.at c.position))

/-- A token as an item of its own. -/
def item (t : Token) : Except Fault ClassTree :=
  match t.atom with
  | .literal char isByte => .ok (.member ⟨t.span, char, isByte⟩)
  | .shorthand kind negated => .ok (.shorthand t.span kind negated)
  | .property property => .ok (.property t.span property)
  | _ => .error (.here .classEscapeInvalid t.span)

/-- A token as an end of a range. -/
def rangeEnd (t : Token) : Except Fault Member :=
  match t.atom with
  | .literal char isByte => .ok ⟨t.span, char, isByte⟩
  | _ => .error (.here .classRangeLiteral t.span)

/-- Reads a character, an escape or a range. A dash makes no range before a closing bracket and
before another dash. `unclosed` is the fault if the pattern ends. -/
def itemOrRange (verbose : Bool) (unclosed : Fault) (c : Cursor) :
    Except Fault (ClassTree × Cursor) := do
  let (first, last) ← token verbose c
  let dash := last.skip verbose
  if dash.atEnd then .error unclosed
  let second := dash.secondSolid? verbose
  if !dash.isAt '-' || second == some ']' || second == some '-' then
    .ok (← item first, dash)
  else
    let inside := dash.step verbose
    if inside.atEnd then .error unclosed
    let (next, last) ← token verbose inside
    let low ← rangeEnd first
    let high ← rangeEnd next
    let span : Span := ⟨low.span.start, high.span.stop⟩
    if high.char < low.char then .error (.here .classRangeInvalid span)
    .ok (.range span low high, last)

/-! ## Whole classes -/

/-- The operation that a character doubled stands for. -/
def operation? : Char → Option SetOperation
  | '&' => some .intersection
  | '-' => some .difference
  | '~' => some .symmetricDifference
  | _ => none

/-- The operation at the cursor. -/
def operationAt? (c : Cursor) : Option SetOperation :=
  if c.second? == c.head? then c.head?.bind operation? else none

/-- An operation whose right side is still to come. -/
abbrev Pending := Option (SetOperation × ClassTree)

/-- An operation with its right side. -/
def complete (pending : Pending) (right : ClassTree) : ClassTree :=
  match pending with
  | none => right
  | some (kind, left) => .operation ⟨left.span.start, right.span.stop⟩ kind left right

mutual

/-- Reads what is in the brackets, up to the closing one; the first argument bounds the number of
items. -/
def body (verbose : Bool) : Nat → Fault → Pending → Items → Cursor → Except Fault (ClassTree × Cursor)
  | 0, unclosed, _, _, _ => .error unclosed
  | fuel + 1, unclosed, pending, items, c =>
    let c := c.skip verbose
    match c.head? with
    | none => .error unclosed
    | some ']' => .ok (complete pending items.tree, c)
    | some '[' =>
      match named? c with
      | some (tree, last) => body verbose fuel unclosed pending (items.push tree) last
      | none => do
        let (tree, last) ← bracketed verbose fuel c
        body verbose fuel unclosed pending (items.push tree) last
    | some _ =>
      match operationAt? c with
      | some kind =>
        let last := c.advance 2
        body verbose fuel unclosed (some (kind, complete pending items.tree)) (.none last.position)
          last
      | none => do
        let (tree, last) ← itemOrRange verbose unclosed c
        body verbose fuel unclosed pending (items.push tree) last

/-- Reads a class in brackets, with the opening one at the cursor. -/
def bracketed (verbose : Bool) : Nat → Cursor → Except Fault (ClassTree × Cursor)
  | 0, c => .error (.here .classUnclosed c.charSpan)
  | fuel + 1, c => do
    let o ← opening verbose c
    let (tree, last) ← body verbose fuel (.here .classUnclosed o.span) none o.items o.cursor
    .ok (.bracketed ⟨c.position, last.next.position⟩ o.negated tree, last.next)

end

/-- Reads a class in brackets, with the opening one at the cursor. Each item takes a character, and a
class in brackets is one step for itself and one for what is in it. -/
def read (verbose : Bool) (c : Cursor) : Except Fault (ClassTree × Cursor) :=
  bracketed verbose (2 * c.rest.length + 1) c

end NativeBootstrap.Pattern.Brackets
