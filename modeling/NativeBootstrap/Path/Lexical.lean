import NativeBootstrap.Path.Basic

/-!
# Parent and absolute form

Both are read off the bytes of a path; no file is looked at.

* `Path.parent?`: the path without its last name. Blank pieces at the end do not count as names and
  go too. A root has no parent; a single relative name has the empty path as its parent.
* `Path.absolute?`: the path from the root that a lookup of it would follow. A relative path needs
  the working directory, an absolute one does not. Blank pieces go, `..` stays, and so does a
  separator at the end. Two separators at the front, but not three, are kept as two.
-/

set_option autoImplicit false

namespace NativeBootstrap.Path

/-- How a path begins: at the root, with a single dot as its first piece, or with a name. -/
inductive Start where
  | root
  | here
  | name
  deriving DecidableEq, Repr

/-- The bytes of a start. -/
def Start.bytes : Start → Bytes
  | .root => [separator]
  | .here => dot
  | .name => []

/-- The start of a path. -/
def start (p : Path) : Start :=
  match p.bytes with
  | [] => .name
  | b :: rest =>
    if b = separator then .root
    else if [b] = dot && (rest == [] || rest.head? == some separator) then .here
    else .name

/-- What follows the start. -/
def body (p : Path) : Bytes := p.bytes.drop p.start.bytes.length

/-- The names of a path behind its start, in order. -/
def names (p : Path) : List Name := (p.body.splitOn separator).filter fun piece => !isBlank piece

/-- The path without its last name, or nothing for a path that has no name to take away. A path that
is only a dot has the empty path as its parent. -/
def parent? (p : Path) : Option Path :=
  -- The pieces from the last name backwards.
  match (p.body.splitOn separator).reverse.dropWhile isBlank with
  | [] => if p.start = .here then some ⟨[]⟩ else none
  -- Blank pieces between the last name and the one before it go with it.
  | _ :: before => some ⟨p.start.bytes ++ [separator].intercalate (before.dropWhile isBlank).reverse⟩

/-- A path followed by a name, with one separator between them. -/
def push (bytes : Bytes) (name : Name) : Bytes :=
  if bytes.getLast? = some separator then bytes ++ name else bytes ++ separator :: name

/-- Where the absolute form of a path begins: at the working directory if the path is relative, and
at the root if not. -/
def base? (workingDirectory : Option Path) (p : Path) : Option Bytes :=
  if p.start = .root then
    -- The body begins behind the first separator, so its head is the second one.
    if p.body.head? = some separator && p.body.tail.head? != some separator then
      some [separator, separator]
    else some [separator]
  else workingDirectory.map Path.bytes

/-- The absolute form of a path; there is none for a relative path without a working directory. -/
def absolute? (workingDirectory : Option Path) (p : Path) : Option Path :=
  (p.base? workingDirectory).map fun base =>
    let path := p.names.foldl push base
    if p.endsInSeparator then ⟨push path []⟩ else ⟨path⟩

end NativeBootstrap.Path
