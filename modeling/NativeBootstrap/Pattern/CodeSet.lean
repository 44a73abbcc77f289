/-!
# Sets of code points

A set of code points is kept as ranges in order that neither overlap nor touch, both ends included.
Union, intersection, difference and complement are those of sets; a complement is taken within a
limit.
-/

set_option autoImplicit false

namespace NativeBootstrap.Pattern

/-- A range of code points, with its first and its last one. -/
abbrev CodeRange := Nat × Nat

/-- A set of code points. -/
structure CodeSet where
  ranges : List CodeRange
  deriving DecidableEq, Repr

namespace CodeSet

/-- The greatest code point. -/
def greatest : Nat := 0x10FFFF

/-- The greatest byte. -/
def greatestByte : Nat := 0xFF

/-- The empty set. -/
def empty : CodeSet := ⟨[]⟩

/-- Whether a set is empty. -/
def isEmpty (s : CodeSet) : Bool := s.ranges.isEmpty

/-- Whether a code point is in the set. -/
def contains (s : CodeSet) (code : Nat) : Bool :=
  s.ranges.any fun range => range.1 ≤ code && code ≤ range.2

/-- Whether all code points of a set are ASCII. -/
def isAscii (s : CodeSet) : Bool := s.ranges.all fun range => range.2 < 0x80

/-- Ranges with one more, which is joined with those that it overlaps or touches. -/
def insertRange : CodeRange → List CodeRange → List CodeRange
  | range, [] => [range]
  | range, other :: rest =>
    if range.2 + 1 < other.1 then range :: other :: rest
    else if other.2 + 1 < range.1 then other :: insertRange range rest
    else insertRange (min range.1 other.1, max range.2 other.2) rest

/-- The set of some ranges. -/
def ofRanges (ranges : List CodeRange) : CodeSet := ⟨ranges.foldr insertRange []⟩

/-- The set of a single code point. -/
def single (code : Nat) : CodeSet := ⟨[(code, code)]⟩

/-- The code points of either set. -/
def union (s t : CodeSet) : CodeSet := ⟨s.ranges.foldr insertRange t.ranges⟩

/-- The code points of both ranges. -/
def common? (r s : CodeRange) : Option CodeRange :=
  if max r.1 s.1 ≤ min r.2 s.2 then some (max r.1 s.1, min r.2 s.2) else none

/-- The code points of both sets. -/
def intersection (s t : CodeSet) : CodeSet :=
  ofRanges (s.ranges.flatMap fun range => t.ranges.filterMap (common? range))

/-- What lies between ranges, from a code point on and up to a limit. -/
def gaps (limit : Nat) : Nat → List CodeRange → List CodeRange
  | first, [] => if first ≤ limit then [(first, limit)] else []
  | first, range :: rest =>
    if first < range.1 then (first, range.1 - 1) :: gaps limit (range.2 + 1) rest
    else gaps limit (range.2 + 1) rest

/-- The code points up to a limit that are not in the set. -/
def complement (limit : Nat) (s : CodeSet) : CodeSet := ⟨gaps limit 0 s.ranges⟩

/-- The code points of the first set that are not in the second. -/
def difference (s t : CodeSet) : CodeSet := s.intersection (t.complement greatest)

/-- The code points of exactly one of the sets. -/
def symmetricDifference (s t : CodeSet) : CodeSet := (s.difference t).union (t.difference s)

/-- The part of a range that lies in an alphabet which begins at `first`, moved to the alphabet of
the other case. -/
def otherCase (first shifted : Nat) (range : CodeRange) : Option CodeRange :=
  (common? range (first, first + 25)).map fun part =>
    (part.1 - first + shifted, part.2 - first + shifted)

/-- The set with each ASCII letter in both cases. -/
def withOtherCase (s : CodeSet) : CodeSet :=
  let capitals := s.ranges.filterMap (otherCase 'a'.toNat 'A'.toNat)
  let smalls := s.ranges.filterMap (otherCase 'A'.toNat 'a'.toNat)
  (ofRanges (capitals ++ smalls)).union s

end CodeSet

end NativeBootstrap.Pattern
