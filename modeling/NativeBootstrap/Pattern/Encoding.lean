import NativeBootstrap.Pattern.CodeSet

/-!
# Sets of code points as byte sequences

A set of code points in UTF-8 is cut into sequences of byte ranges, such that each choice of one byte
from each range of a sequence encodes a code point of the set, and each code point is encoded in one
way (`CodeSet.sequences`). Surrogates have no encoding and are left out.

Sequences share their endings (`endings`) or their beginnings (`beginningCount`).
-/

set_option autoImplicit false

namespace NativeBootstrap.Pattern

/-- A range of bytes, with its first and its last one. -/
abbrev ByteRange := Nat × Nat

namespace CodeSet

/-- The sequences for the numbers from `first` to `last`, of which the lowest digits of base 64 go to
`digits` continuation bytes, and the rest is added to `lead`. -/
def sequencesOfDigits : Nat → Nat → Nat → Nat → List (List ByteRange)
  | 0, lead, first, last => [[(lead + first, lead + last)]]
  | digits + 1, lead, first, last =>
    let unit := 64 ^ (digits + 1)
    let low := first / unit
    let high := last / unit
    if low = high then
      (sequencesOfDigits digits 0x80 (first % unit) (last % unit)).map ((lead + low, lead + low) :: ·)
    else
      -- The digits before and after those that go with any continuation.
      let start := if first % unit = 0 then low else low + 1
      let stop := if last % unit = unit - 1 then high + 1 else high
      let before :=
        if start = low then []
        else
          (sequencesOfDigits digits 0x80 (first % unit) (unit - 1)).map ((lead + low, lead + low) :: ·)
      let after :=
        if stop = high + 1 then []
        else (sequencesOfDigits digits 0x80 0 (last % unit)).map ((lead + high, lead + high) :: ·)
      let between :=
        if start < stop then
          [(lead + start, lead + stop - 1) :: List.replicate (digits + 1) (0x80, 0xBF)]
        else []
      before ++ between ++ after

/-- The code points with encodings of one length: the first and the last one, the number of
continuation bytes, and what is added to the highest digit. Surrogates are left out. -/
def lengths : List (CodeRange × Nat × Nat) :=
  [((0x0, 0x7F), 0, 0x00), ((0x80, 0x7FF), 1, 0xC0), ((0x800, 0xD7FF), 2, 0xE0),
    ((0xE000, 0xFFFF), 2, 0xE0), ((0x10000, 0x10FFFF), 3, 0xF0)]

/-- The sequences of a set. -/
def sequences (s : CodeSet) : List (List ByteRange) :=
  s.ranges.flatMap fun range =>
    lengths.flatMap fun (all, digits, lead) =>
      match common? range all with
      | some part => sequencesOfDigits digits lead part.1 part.2
      | none => []

end CodeSet

/-- The byte ranges that sequences begin with, each once. -/
def heads (sequences : List (List ByteRange)) : List ByteRange :=
  (sequences.filterMap List.head?).eraseDups

/-- The endings of sequences after a byte range. -/
def endingsAfter (head : ByteRange) (sequences : List (List ByteRange)) : List (List ByteRange) :=
  sequences.filterMap fun sequence =>
    match sequence with
    | first :: rest => if first = head then some rest else none
    | [] => none

/-- The different sets of endings that sequences have after a beginning, the sequences themselves
among them; the first argument bounds their length. -/
def endings : Nat → List (List ByteRange) → List (List (List ByteRange))
  | 0, _ => []
  | length + 1, sequences =>
    if (heads sequences).isEmpty then []
    else
      (sequences
        :: (heads sequences).flatMap fun head => endings length (endingsAfter head sequences)).eraseDups

/-- How many different beginnings sequences have, but for the empty one; the first argument bounds
their length. -/
def beginningCount : Nat → List (List ByteRange) → Nat
  | 0, _ => 0
  | length + 1, sequences =>
    ((heads sequences).map fun head => 1 + beginningCount length (endingsAfter head sequences)).sum

end NativeBootstrap.Pattern
