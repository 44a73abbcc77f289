import NativeBootstrap.Pattern.Brackets
import NativeBootstrap.Text.Letters

/-!
# Reading patterns

A pattern is read from left to right. A draft (`Draft`) holds the parts that are read on the current
level, and the levels that are open around them (`Level`): groups, and choices of which a bar has
ended some branches. Each step reads one part, opens or closes a group, ends a branch, or repeats the
last part. At the end no group may be open, and no part may be nested too deep.
-/

set_option autoImplicit false

namespace NativeBootstrap.Pattern

/-- Parts that are read one after the other. -/
structure Row where
  start : Position
  parts : List Tree

namespace Row

/-- The row with one more part. -/
def push (row : Row) (part : Tree) : Row := { row with parts := row.parts ++ [part] }

/-- The row up to a position, as a tree. -/
def tree (row : Row) (stop : Position) : Tree := .ofParts ⟨row.start, stop⟩ row.parts

end Row

/-- What is open around the current row. -/
inductive Level where
  /-- A group, with the row before it; `opening` is its parenthesis, and `verbose` tells how it is
  read on after the group. -/
  | group (before : Row) (opening : Span) (kind : GroupKind) (verbose : Bool)
  /-- The branches before the current row. -/
  | choice (start : Position) (branches : List Tree)

/-- A pattern that is read in part. -/
structure Draft where
  cursor : Cursor
  verbose : Bool
  row : Row
  levels : List Level
  names : List (List Char × Span)

namespace Draft

/-- The draft of a pattern of which nothing is read. -/
def start (pattern : String) : Draft := ⟨.ofString pattern, false, ⟨.first, []⟩, [], []⟩

/-- The draft with one more part, read up to a cursor. -/
def push (d : Draft) (part : Tree) (last : Cursor) : Draft :=
  { d with row := d.row.push part, cursor := last }

/-! ## Groups -/

/-- Reads mode letters up to a colon or a closing parenthesis; `negation` is the span of the minus
sign among them and `taken` holds the letters before, with their spans. -/
def modesFrom (negation : Option Span) (taken : List (Mode × Span)) :
    Position → List Char → Except Fault (List ModeChange × Cursor)
  | position, [] => .error (.here .modeUnexpectedEnd (.at position))
  | position, c :: rest =>
    let here : Span := ⟨position, position.after c⟩
    if c == ':' || c == ')' then
      match negation with
      | some span =>
        -- The minus sign is the last one of all if no letter comes after it.
        if taken.all fun entry => entry.2.isBefore span then .error (.here .modeNegationDangling span)
        else
          .ok (taken.map fun (mode, place) => ⟨mode, place.isBefore span⟩, ⟨position, c :: rest⟩)
      | none => .ok (taken.map fun (mode, _) => ⟨mode, true⟩, ⟨position, c :: rest⟩)
    else if c == '-' then
      match negation with
      | some first => .error ⟨.modeNegationRepeated, here, some first⟩
      | none => modesFrom (some here) taken (position.after c) rest
    else
      match Mode.ofLetter? c with
      | none => .error (.here .modeUnrecognized here)
      | some mode =>
        match taken.find? fun entry => entry.1 == mode with
        | some (_, first) => .error ⟨.modeDuplicate, here, some first⟩
        | none => modesFrom negation (taken ++ [(mode, here)]) (position.after c) rest

/-- Whether a character may stand in the name of a group. -/
def isNameChar (isFirst : Bool) (c : Char) : Bool :=
  c == '_' || Text.isLetter c
    || (!isFirst && (c == '.' || c == '[' || c == ']' || Text.isNumber c))

/-- Reads the name of a group from its first character on, up to the closing angle. -/
def nameFrom (isFirst : Bool) : Position → List Char → Except Fault (List Char × Cursor)
  | position, [] => .error (.here .groupNameUnexpectedEnd (.at position))
  | position, c :: rest =>
    if c == '>' then .ok ([], ⟨position, c :: rest⟩)
    else if isNameChar isFirst c then do
      let (name, last) ← nameFrom false (position.after c) rest
      .ok (c :: name, last)
    else .error (.here .groupNameInvalid ⟨position, position.after c⟩)

/-- The draft in a new group that begins with this parenthesis. -/
def openGroup (d : Draft) (opening : Span) (kind : GroupKind) (verbose : Bool) (last : Cursor) :
    Draft :=
  { d with
    cursor := last
    verbose
    row := ⟨last.position, []⟩
    levels := .group d.row opening kind d.verbose :: d.levels }

/-- The draft in a new group with a name, with the first character of the name at the cursor. -/
def openNamed (d : Draft) (opening : Span) (c : Cursor) : Except Fault Draft := do
  let (name, last) ← nameFrom true c.position c.rest
  let span : Span := ⟨c.position, last.position⟩
  if name = [] then .error (.here .groupNameEmpty span)
  match d.names.lookup name with
  | some first => .error ⟨.groupNameDuplicate, span, some first⟩
  | none =>
    let d := { d with names := d.names ++ [(name, span)] }
    .ok (d.openGroup opening .captured d.verbose last.next)

/-- Whether blanks count for nothing after some changes. -/
def verboseAfter (verbose : Bool) (changes : List ModeChange) : Bool :=
  ((changes.find? fun change => change.mode == .verbose).map (·.on)).getD verbose

/-- The draft after mode letters, with the first of them at `c`: the modes change up to the end of the
group around, or in a group of their own. `question` is the mark before them. -/
def changeModes (d : Draft) (opening : Span) (question c : Cursor) : Except Fault Draft := do
  if c.atEnd then .error (.here .groupUnclosed opening)
  let (changes, last) ← modesFrom none [] c.position c.rest
  let verbose := verboseAfter d.verbose changes
  if last.isAt ':' then .ok (d.openGroup opening (.plain changes) verbose last.next)
  else if changes = [] then .error (.here .repetitionMissing (.at question.position))
  else
    .ok { d.push (.modes ⟨opening.start, last.next.position⟩ changes) last.next with verbose }

/-- The marks of a look-around. -/
def lookArounds : List String := ["?=", "?!", "?<=", "?<!"]

/-- The draft after the beginning of a group, with the parenthesis at the cursor. -/
def beginGroup (d : Draft) : Except Fault Draft :=
  let opening := d.cursor.charSpan
  let inside := d.cursor.step d.verbose
  match lookArounds.findSome? inside.after? with
  | some last => .error (.here .lookAround ⟨opening.start, last.position⟩)
  | none =>
    match ["?P<", "?<"].findSome? inside.after? with
    | some last => d.openNamed opening last
    | none =>
      if inside.isAt '?' then d.changeModes opening inside inside.next
      else .ok (d.openGroup opening .captured d.verbose inside)

/-- The draft after the end of a group, with the parenthesis at the cursor. -/
def endGroup (d : Draft) : Except Fault Draft :=
  let stop := d.cursor.position
  let last := d.cursor.next
  let close (body : Tree) (before : Row) (opening : Span) (kind : GroupKind) (verbose : Bool)
      (levels : List Level) : Draft :=
    let group : Tree := .group ⟨opening.start, last.position⟩ kind body
    { d with cursor := last, verbose, row := before.push group, levels }
  match d.levels with
  | .group before opening kind verbose :: levels =>
    .ok (close (d.row.tree stop) before opening kind verbose levels)
  | .choice start branches :: .group before opening kind verbose :: levels =>
    .ok (close (.choice ⟨start, stop⟩ (branches ++ [d.row.tree stop])) before opening kind verbose
      levels)
  | _ => .error (.here .groupUnopened d.cursor.charSpan)

/-- The draft after the end of a branch, with the bar at the cursor. -/
def endBranch (d : Draft) : Draft :=
  let branch := d.row.tree d.cursor.position
  let last := d.cursor.next
  let levels :=
    match d.levels with
    | .choice start branches :: levels => .choice start (branches ++ [branch]) :: levels
    | levels => .choice d.row.start [branch] :: levels
  { d with cursor := last, row := ⟨last.position, []⟩, levels }

/-! ## Repetitions -/

/-- The row without its last part, and that part, which has to be one that can be repeated. -/
def repeated? (d : Draft) : Option (Row × Tree) :=
  match d.row.parts.getLast? with
  | some part =>
    if part.isRepeatable then some ({ d.row with parts := d.row.parts.dropLast }, part) else none
  | none => none

/-- The draft with its last part repeated; the mark of a short repetition is passed over. -/
def repeatLast (d : Draft) (row : Row) (part : Tree) (count : Count) (c : Cursor) : Draft :=
  let last := if c.isAt '?' then c.next else c
  { d with row := row.push (.repetition ⟨part.span.start, last.position⟩ count part), cursor := last }

/-- The greatest number that may be written in a repetition. -/
def greatestCount : Nat := 0xFFFFFFFF

/-- Reads a number. Blanks around it are passed over. -/
def number (verbose : Bool) (c : Cursor) : Except Fault Nat × Cursor :=
  let first := Cursor.skipWhile Text.isBlank c.position c.rest
  let (digits, behind) := first.gather verbose fun char => '0' ≤ char && char ≤ '9'
  let last := Cursor.skipWhile Text.isBlank behind.position behind.rest
  let span : Span := ⟨first.position, behind.position⟩
  let value := digits.foldl (fun value digit => 10 * value + (digit.toNat - '0'.toNat)) 0
  if digits = [] then (.error (.here .countEmpty span), last)
  else if greatestCount < value then (.error (.here .decimalInvalid span), last)
  else (.ok value, last)

/-- Reads the numbers in the braces of a repetition, with the first character inside at the cursor. A
missing end is told before a wrong first number. -/
def count (verbose : Bool) (unclosed : Cursor → Fault) (c : Cursor) :
    Except Fault (Count × Cursor) := do
  let (least, last) := number verbose c
  if last.atEnd then .error (unclosed last)
  if !last.isAt ',' then
    let least ← least
    .ok (⟨least, some least⟩, last)
  else
    let next := last.step verbose
    if next.atEnd then .error (unclosed next)
    let least ← least
    if next.isAt '\x7d' then .ok (⟨least, none⟩, next)
    else
      let (most, last) := number verbose next
      .ok (⟨least, some (← most)⟩, last)

/-- The draft after a counted repetition, with the opening brace at the cursor. -/
def repeatCounted (d : Draft) (row : Row) (part : Tree) : Except Fault Draft := do
  let start := d.cursor.position
  let unclosed (last : Cursor) : Fault := .here .countUnclosed ⟨start, last.position⟩
  let inside := d.cursor.step d.verbose
  if inside.atEnd then .error (unclosed inside)
  let (count, last) ← count d.verbose unclosed inside
  if !last.isAt '\x7d' then .error (unclosed last)
  let draft := d.repeatLast row part count (last.step d.verbose)
  if count.most.any (· < count.least) then
    .error (.here .countInvalid ⟨start, draft.cursor.position⟩)
  .ok draft

/-- How often a part is repeated before this mark. -/
def counted? : Char → Option Count
  | '?' => some ⟨0, some 1⟩
  | '*' => some ⟨0, none⟩
  | '+' => some ⟨1, none⟩
  | _ => none

/-- The draft after a repetition, with its mark at the cursor. -/
def endRepetition (d : Draft) (mark : Char) : Except Fault Draft :=
  match d.repeated? with
  | none => .error (.here .repetitionMissing (.at d.cursor.position))
  | some (row, part) =>
    match counted? mark with
    | some count => .ok (d.repeatLast row part count d.cursor.next)
    | none => d.repeatCounted row part

/-! ## Steps -/

/-- The atom of a character that is no mark. -/
def atom : Char → Atom
  | '.' => .dot
  | '^' => .assertion .lineStart
  | '$' => .assertion .lineEnd
  | c => .literal c false

/-- The draft after the next part, of which this is the first character. -/
def step (d : Draft) (first : Char) : Except Fault Draft :=
  match first with
  | '(' => d.beginGroup
  | ')' => d.endGroup
  | '|' => .ok d.endBranch
  | '[' => do
    let (tree, last) ← Brackets.read d.verbose d.cursor
    .ok (d.push (.brackets tree) last)
  | '?' | '*' | '+' | '\x7b' => d.endRepetition first
  | '\\' => do
    let (token, last) ← Escape.read d.verbose d.cursor
    .ok (d.push (.token token) last)
  | _ => .ok (d.push (.token ⟨d.cursor.charSpan, atom first⟩) d.cursor.next)

/-- The pattern that is read, at its end. -/
def finish (d : Draft) : Except Fault Tree :=
  let stop := d.cursor.position
  match d.levels with
  | [] => .ok (d.row.tree stop)
  | [.choice start branches] => .ok (.choice ⟨start, stop⟩ (branches ++ [d.row.tree stop]))
  | .group _ opening _ _ :: _ => .error (.here .groupUnclosed opening)
  | .choice _ _ :: .group _ opening _ _ :: _ => .error (.here .groupUnclosed opening)
  | .choice _ _ :: .choice _ _ :: _ => .ok (d.row.tree stop)

/-- Reads what is left; the first argument bounds the number of steps. -/
def readAll : Nat → Draft → Except Fault Tree
  | 0, d => d.finish
  | fuel + 1, d =>
    let d := { d with cursor := d.cursor.skip d.verbose }
    match d.cursor.head? with
    | none => d.finish
    | some first => do readAll fuel (← d.step first)

end Draft

/-- Reads a pattern. Each step takes a character at least, so that their number bounds that of the
steps. -/
def Tree.ofString (pattern : String) : Except Fault Tree := do
  let tree ← Draft.readAll (pattern.length + 1) (.start pattern)
  match tree.beyond? nestingLimit with
  | some span => .error (.here .nestedTooDeep span)
  | none => .ok tree

end NativeBootstrap.Pattern
