import NativeBootstrap.FileSystem.Change
import NativeBootstrap.Host

/-!
# The world of a program

All that an operation can see of its surroundings: the file system, the working directory, how the
running program was started, and the host it runs on. The world changes only between operations.
-/

set_option autoImplicit false

namespace NativeBootstrap

/-- How the running program was started, as far as the system tells it: the name it was given, which
may be empty, and its executable. -/
structure Invocation where
  calledAs : Path
  executable : Option Path
  deriving DecidableEq, Repr

/-- The surroundings of a program. -/
structure World where
  files : FileSystem
  directory : Place
  invocation : Invocation
  host : Host
  deriving DecidableEq, Repr

namespace World

/-- Whether a path leads to a directory. -/
def isDirectory (w : World) (path : Path) : Bool := w.files.isDirectory w.directory path

/-- Whether a path leads to a regular file. -/
def isFile (w : World) (path : Path) : Bool := w.files.isFile w.directory path

/-- The path of the working directory, unless it was removed. -/
def directoryPath? (w : World) : Option Path := w.directory.path?

/-- The world after a change to its files. -/
def change (w : World) : Change → World
  | .directory path =>
    match w.files.makeDirectories [] (FileSystem.steps path) with
    | some (files, _) => { w with files }
    | none => w
  | .file path => { w with files := w.files.write path .file }
  | .library path image => { w with files := w.files.write path (.library image) }
  | .link path target => { w with files := w.files.write path (.link target) }
  | .remove path =>
    match w.files.removal? path with
    | some removal =>
      { w with
        files := w.files.without removal
        directory := w.directory.afterRemoval removal }
    | none => w

/-- The world after entering a directory, which is made if it is missing. -/
def enter (w : World) (path : Path) : World :=
  match w.files.makeDirectories [] (FileSystem.steps path) with
  | some (files, location) => { w with files, directory := ⟨location, 0⟩ }
  | none => w

end World

end NativeBootstrap
