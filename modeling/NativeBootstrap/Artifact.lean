import NativeBootstrap.Path.Lexical
import NativeBootstrap.Text.Percent
import NativeBootstrap.World

/-!
# Where an artifact lies

An artifact is named by a percent-encoded path. A packaged artifact is a file, and its directory is
the one that contains it; an exploded artifact is itself a directory.

* `containingDirectory`: decodes a path, takes the parent, makes it absolute, and decodes the result
  a second time, so that a parent written with doubly encoded characters comes out as plain text.
* `artifactDirectory`: the directory of an artifact, of either kind.
* `programDirectory`: the directory of the running program, if the system tells where that lies
  (`World.programLocation?`).
-/

set_option autoImplicit false

namespace NativeBootstrap

/-- Why no directory is found for a path. -/
inductive PathError where
  /-- The path cannot be decoded. -/
  | undecodable (fault : Percent.Fault)
  /-- The decoded path has no parent. -/
  | noParent (decoded : String)
  /-- The path is not text. -/
  | nonUnicode (path : Path)
  /-- The path is relative and there is no working directory. -/
  | noWorkingDirectory
  /-- The system does not tell where the running program lies. -/
  | notLocated
  deriving DecidableEq, Repr

namespace PathError

/-- The wording of an error. -/
def message : PathError → String
  | .undecodable fault => fault.message
  | .noParent decoded => "path has no parent: " ++ decoded
  | .nonUnicode path => "path is not valid unicode: " ++ path.display
  | .noWorkingDirectory => "cannot make path absolute"
  | .notLocated => "cannot locate artifact"

/-- Whether the error is one of decoding. -/
def isDecoding : PathError → Bool
  | .undecodable _ => true
  | _ => false

end PathError

/-- A percent-encoded text, decoded. -/
def decodePath (encoded : String) : Except PathError String :=
  (Percent.decode encoded).mapError .undecodable

/-- The absolute form of a path under a working directory that may be missing. -/
def absolutePath (workingDirectory : Option Path) (path : Path) : Except PathError Path :=
  match path.absolute? workingDirectory with
  | some absolute => .ok absolute
  | none => .error .noWorkingDirectory

/-- A path as text. -/
def pathText (path : Path) : Except PathError String :=
  match path.toString? with
  | some text => .ok text
  | none => .error (.nonUnicode path)

/-- The parent of a decoded path. An empty parent is none. -/
def decodedParent (decoded : String) : Except PathError Path :=
  match (Path.ofString decoded).parent? with
  | some parent => if parent.bytes = [] then .error (.noParent decoded) else .ok parent
  | none => .error (.noParent decoded)

/-- The absolute directory that contains what an encoded path names, decoded a second time. -/
def containingDirectory (workingDirectory : Option Path) (encoded : String) :
    Except PathError Path := do
  let decoded ← decodePath encoded
  let parent ← decodedParent decoded
  let absolute ← absolutePath workingDirectory parent
  let text ← pathText absolute
  let plain ← decodePath text
  return .ofString plain

/-- The directory of the artifact at a location: the decoded location itself if it is a directory,
and the directory that contains it if not. -/
def artifactDirectory (w : World) (location : Path) : Except PathError Path := do
  let encoded ← pathText location
  let decoded ← decodePath encoded
  if w.isDirectory (.ofString decoded) then
    absolutePath w.directoryPath? (.ofString decoded)
  else
    containingDirectory w.directoryPath? encoded

/-- Where the running program lies: at the name it was started by, if that is an absolute path of a
regular file, and at its executable otherwise. -/
def World.programLocation? (w : World) : Option Path :=
  if w.invocation.calledAs.isAbsolute && w.isFile w.invocation.calledAs then
    some w.invocation.calledAs
  else w.invocation.executable

/-- The location of the running program. -/
def programLocation (w : World) : Except PathError Path :=
  match w.programLocation? with
  | some location => .ok location
  | none => .error .notLocated

/-- The directory of the running program. -/
def programDirectory (w : World) : Except PathError Path := do
  let location ← programLocation w
  artifactDirectory w location

end NativeBootstrap
