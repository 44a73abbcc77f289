import NativeBootstrap.FileSystem.Basic

/-!
# Changes to a file system

The changes that can happen between two operations: directories are made, files, libraries and links
are written, trees are removed. Missing directories above a new node are made with it. A file that is
written where a link stands goes to where the link leads; a link is written only where nothing
stands. A change that cannot happen, such as one below a plain file, does nothing.

A removal takes away the node that a path names, with all below it (`Removal`). A path that ends in a
separator names a directory. If it leads there through a link or ends in a dot, the directory itself
stays, because it does not have that name.
-/

set_option autoImplicit false

namespace NativeBootstrap

/-- A change at an absolute path. -/
inductive Change where
  | directory (path : Path)
  | file (path : Path)
  | library (path : Path) (image : Image)
  | link (path target : Path)
  | remove (path : Path)
  deriving DecidableEq, Repr

namespace FileSystem

/-- The file system with a node put at a location. -/
def put (fs : FileSystem) (location : Location) (node : Node) : FileSystem :=
  ⟨(location, node) :: fs.nodes.filter (·.1 != location)⟩

/-- Follows names down from a location, making the directories that are missing. -/
def makeDirectories (fs : FileSystem) : Location → List Name → Option (FileSystem × Location)
  | location, [] => some (fs, location)
  | location, name :: rest =>
    if name = Path.dot then makeDirectories fs location rest
    else if name = Path.dotdot then makeDirectories fs location.dropLast rest
    else
      let below := location ++ [name]
      match fs.node? below with
      | none => makeDirectories (fs.put below .directory) below rest
      | some .directory => makeDirectories fs below rest
      | some (.link target) =>
        match fs.lookup? ⟨location, 0⟩ target with
        | some p => if fs.isDirectoryAt p then makeDirectories fs p.location rest else none
        | none => none
      | some _ => none

/-- The location of the last of these names, read from a place. A link at that name is not followed,
and dots are no name. -/
def locateName? (fs : FileSystem) (start : Place) (names : List Name) : Option Location :=
  match names.getLast? with
  | none => none
  | some name =>
    if name = Path.dot ∨ name = Path.dotdot then none
    else
      (walk fs maxLinks start names.dropLast).bind fun p =>
        if p.removed = 0 then some (p.location ++ [name]) else none

/-- The location of the name that a path ends in, for a path that is read in this directory. -/
def locate? (fs : FileSystem) (directory : Place) (path : Path) : Option Location :=
  fs.locateName? (if path.isAbsolute then .root else directory) (steps path)

/-- Where a file goes that is written at a location: to the end of the links that start there, of
which this many are followed. -/
def destination? (fs : FileSystem) : Nat → Location → Option Location
  | 0, _ => none
  | links + 1, location =>
    match fs.node? location with
    | some (.link target) =>
      (fs.locate? ⟨location.dropLast, 0⟩ target).bind (destination? fs links)
    | some .directory => none
    | _ => some location

/-- Where a node goes that is written at a location, if it can be written there. -/
def target? (fs : FileSystem) (location : Location) : Node → Option Location
  | .link _ => if (fs.node? location).isNone then some location else none
  | .directory => none
  | _ => fs.destination? maxLinks location

/-- The file system with a node written at a path, and the directories above it. -/
def write (fs : FileSystem) (path : Path) (node : Node) : FileSystem :=
  match fs.makeDirectories [] (names path).dropLast with
  | none => fs
  | some (fs, _) =>
    match (fs.locate? .root path).bind (fs.target? · node) with
    | some location => fs.put location node
    | none => fs

end FileSystem

/-! ## Removals -/

/-- What a removal takes away: all below a location, and the node there unless it stays. -/
structure Removal where
  location : Location
  stays : Bool
  deriving DecidableEq, Repr

/-- Whether a removal takes the node at a location. -/
def Removal.takes (r : Removal) (location : Location) : Bool :=
  r.location.isPrefixOf location && !(r.stays && location == r.location)

namespace FileSystem

/-- The removal of what is in the directory that a path leads to. -/
def emptying? (fs : FileSystem) (path : Path) : Option Removal :=
  match fs.lookup? .root path with
  | some p => if fs.isDirectoryAt p then some ⟨p.location, true⟩ else none
  | none => none

/-- What the removal of an absolute path takes away. -/
def removal? (fs : FileSystem) (path : Path) : Option Removal :=
  match fs.locateName? .root (names path) with
  | none => fs.emptying? path
  | some location =>
    if path.endsInSeparator && fs.node? location != some .directory then fs.emptying? path
    else some ⟨location, false⟩

/-- The file system after a removal. -/
def without (fs : FileSystem) (r : Removal) : FileSystem :=
  ⟨fs.nodes.filter fun entry => !r.takes entry.1⟩

end FileSystem

/-- A place after a removal. -/
def Place.afterRemoval (p : Place) (r : Removal) : Place :=
  if r.takes (p.location.take (p.location.length - p.removed)) then
    { p with removed := p.location.length - r.location.length + if r.stays then 0 else 1 }
  else p

end NativeBootstrap
