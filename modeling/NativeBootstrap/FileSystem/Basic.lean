import NativeBootstrap.Library.Image
import NativeBootstrap.Path.Lexical

/-!
# File systems and lookup

A file system is a finite map from locations, the names that lead down from the root, to nodes. The
root is always a directory. `lookup?` is POSIX path resolution:

* each step has to start in a directory, also the steps `.` and `..`;
* `..` leads to the directory above, and at the root to the root itself;
* symbolic links are followed, at most `maxLinks` of them;
* a separator at the end asks for a directory;
* an empty path, a path with a zero byte, a name or a path that is too long lead nowhere.

A `Place` is a location of which the last names may have been removed since it was entered, as
happens to a working directory. A removed directory is still a directory, but it holds no names.
-/

set_option autoImplicit false

namespace NativeBootstrap

/-- The names that lead from the root to a node. -/
abbrev Location := List Name

/-- What stands at a location. What a plain file holds is of no concern here. -/
inductive Node where
  | directory
  | file
  | library (image : Image)
  | link (target : Path)
  deriving DecidableEq, Repr

/-- The nodes below the root, each with its location. -/
structure FileSystem where
  nodes : List (Location × Node)
  deriving DecidableEq, Repr

/-- A location, and how many of its last names have been removed since it was entered. -/
structure Place where
  location : Location
  removed : Nat
  deriving DecidableEq, Repr

/-- The root directory. -/
def Place.root : Place := ⟨[], 0⟩

/-- The place one step up. -/
def Place.up (p : Place) : Place := ⟨p.location.dropLast, p.removed - 1⟩

/-- The place one name further down. -/
def Place.down (p : Place) (name : Name) : Place := ⟨p.location ++ [name], 0⟩

/-- The path of a place, which it has unless it was removed. -/
def Place.path? (p : Place) : Option Path :=
  if p.removed = 0 then some ⟨Path.separator :: [Path.separator].intercalate p.location⟩ else none

namespace FileSystem

/-- The most links that one lookup follows. -/
def maxLinks : Nat := 40

/-- The greatest length of a name. -/
def maxName : Nat := 255

/-- The least length at which a path is too long. -/
def pathLimit : Nat := 4096

/-- The node at a location. -/
def node? (fs : FileSystem) (location : Location) : Option Node :=
  if location = [] then some .directory else fs.nodes.lookup location

/-- The node at a place that has not been removed. -/
def nodeAt? (fs : FileSystem) (p : Place) : Option Node :=
  if p.removed = 0 then fs.node? p.location else none

/-- Whether a place is a directory. A removed directory is one. -/
def isDirectoryAt (fs : FileSystem) (p : Place) : Bool :=
  p.removed != 0 || fs.node? p.location == some .directory

/-! ## Lookup -/

/-- The names of a path, dots too. -/
def names (path : Path) : List Name := (path.bytes.splitOn Path.separator).filter (· != [])

/-- The steps of a path: its names, and a dot for a separator at the end. -/
def steps (path : Path) : List Name :=
  if path.endsInSeparator then names path ++ [Path.dot] else names path

/-- Steps taken one by one from a place. At a link it is `follow` that goes on, with the place the
link's target starts at and the steps then left. -/
def walkWith (fs : FileSystem) (follow : Place → List Name → Option Place) :
    Place → List Name → Option Place
  | p, [] => some p
  | p, name :: rest =>
    if !fs.isDirectoryAt p then none
    else if name = Path.dot then walkWith fs follow p rest
    else if name = Path.dotdot then walkWith fs follow p.up rest
    else if p.removed != 0 || maxName < name.length then none
    else
      match fs.node? (p.down name).location with
      | none => none
      | some (.link target) =>
        -- A target is read in the directory that the link stands in.
        if target.bytes = [] then none
        else follow (if target.isAbsolute then .root else p) (steps target ++ rest)
      | some _ => walkWith fs follow (p.down name) rest

/-- Steps taken from a place, with this many links left to follow. -/
def walk (fs : FileSystem) : Nat → Place → List Name → Option Place
  | 0 => walkWith fs fun _ _ => none
  | links + 1 => walkWith fs (walk fs links)

/-- Whether a path can be looked up at all. -/
def canLookUp (path : Path) : Bool :=
  path.bytes != [] && !path.bytes.contains 0 && path.bytes.length < pathLimit

/-- The place a path leads to from a directory. -/
def lookup? (fs : FileSystem) (directory : Place) (path : Path) : Option Place :=
  if canLookUp path then
    walk fs maxLinks (if path.isAbsolute then .root else directory) (steps path)
  else none

/-- Whether a path leads to a directory. -/
def isDirectory (fs : FileSystem) (directory : Place) (path : Path) : Bool :=
  (fs.lookup? directory path).any fs.isDirectoryAt

/-- Whether a path leads to a regular file: a plain one or a library. -/
def isFile (fs : FileSystem) (directory : Place) (path : Path) : Bool :=
  match (fs.lookup? directory path).bind fs.nodeAt? with
  | some .file => true
  | some (.library _) => true
  | _ => false

end FileSystem

end NativeBootstrap
