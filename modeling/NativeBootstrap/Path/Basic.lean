import NativeBootstrap.Text.Utf8

/-!
# Paths

A path is a byte string in which `/` separates names. It need not be text: `toString?` reads it
strictly, `display` shows it with replacement characters.

The names of a path are the pieces between separators, as `List.splitOn` cuts them, empty ones too;
`List.intercalate` writes them back. A piece is blank if it is empty or a single dot: blank pieces
change neither the place a path leads to nor, at its end, the name it ends in.
-/

set_option autoImplicit false

namespace NativeBootstrap

/-- A path, as the bytes it is written with. -/
structure Path where
  bytes : Bytes
  deriving DecidableEq, Repr

/-- A name in a path: a byte string without separator. -/
abbrev Name := Bytes

namespace Path

/-- The byte `/`. -/
def separator : UInt8 := 0x2F

/-- The name of a directory in itself. -/
def dot : Name := [0x2E]

/-- The name of a directory's parent in it. -/
def dotdot : Name := [0x2E, 0x2E]

/-- A text as a path. -/
def ofString (text : String) : Path := ⟨Utf8.encode text⟩

/-- The path as text, if it is UTF-8. -/
def toString? (p : Path) : Option String := Utf8.decode? p.bytes

/-- The path as a message shows it. -/
def display (p : Path) : String := Utf8.lossy p.bytes

/-- Whether a lookup of the path starts at the root. -/
def isAbsolute (p : Path) : Bool := p.bytes.head? == some separator

/-- Whether the path ends in a separator. -/
def endsInSeparator (p : Path) : Bool := p.bytes.getLast? == some separator

@[simp] theorem toString?_ofString (text : String) : (ofString text).toString? = some text :=
  Utf8.decode?_encode text

theorem toString?_eq_some_iff {p : Path} {text : String} :
    p.toString? = some text ↔ p = ofString text := by
  obtain ⟨bytes⟩ := p
  simp [toString?, ofString, Utf8.decode?_eq_some_iff]

/-- A piece that names nothing: empty, or a single dot. -/
def isBlank (piece : Name) : Bool := piece == [] || piece == dot

end Path

end NativeBootstrap
