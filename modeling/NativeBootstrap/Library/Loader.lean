import NativeBootstrap.Log.Event
import NativeBootstrap.World

/-!
# Loaders

A loader is handed one path at a time and answers with a library or a failure. Its answer may depend
on the world, on the path and on all paths it was handed before. `Loader.system` opens files as the
system does; `Loader.scripted` follows a list of outcomes and stands in for a system whose libraries
are not at hand.

An image that is loaded has an identity (`ImageId`): libraries that are one image share its state.
-/

set_option autoImplicit false

namespace NativeBootstrap

/-- What makes a loaded image the one it is. -/
inductive ImageId where
  /-- The running program itself. -/
  | program
  /-- The file at a location. -/
  | file (location : Location)
  /-- What a scripted loader gave when this many paths had been handed to it before. -/
  | turn (earlier : Nat)
  deriving DecidableEq, Repr

/-- A loaded library: the path it was asked for by, and the image behind it. -/
structure Library where
  path : Path
  image : Image
  id : ImageId
  deriving DecidableEq, Repr

/-- A loader: what it answers to a path after those handed to it before, and what it logs on being
handed a path. -/
structure Loader where
  load : World → List Path → Path → Except LoadFailure Library
  notice : Path → List Event

/-! ## The system's loader -/

/-- The words that stand for a place of the system after a dollar sign in a path. -/
def placeholders : List Bytes := ["ORIGIN", "PLATFORM", "LIB"].map Utf8.encode

/-- Whether a byte may belong to a word: an ASCII letter, a digit or an underscore. -/
def isWordByte (b : UInt8) : Bool :=
  (0x30 ≤ b && b ≤ 0x39) || (0x41 ≤ b && b ≤ 0x5A) || (0x61 ≤ b && b ≤ 0x7A) || b == 0x5F

/-- Whether a placeholder follows here. It ends where no further byte of a word follows; in braces it
ends at the closing one. -/
def startsPlaceholder (bytes : Bytes) : Bool :=
  placeholders.any fun word =>
    ((word ++ [0x7D]).isPrefixOf (bytes.drop 1) && bytes.head? == some 0x7B)
      || (word.isPrefixOf bytes && !(bytes.drop word.length).head?.any isWordByte)

/-- Whether a path has a placeholder: a dollar sign with a word after it that stands for a place of
the system. -/
def hasPlaceholder : Bytes → Bool
  | [] => false
  | b :: rest => (b == 0x24 && startsPlaceholder rest) || hasPlaceholder rest

/-- Opens the file at a path as a library. An empty path stands for the running program, which
exports nothing that is looked up. A path without a separator is a name for the system's own
library directories, and one with a placeholder leads there, too: none of these libraries lies
there. -/
def openLibrary (w : World) (path : Path) : Except LoadFailure Library :=
  if path.bytes = [] then .ok ⟨path, ⟨[], none, none⟩, .program⟩
  else if !path.bytes.contains Path.separator || hasPlaceholder path.bytes then .error .unloadable
  else
    -- The image is that of the file, however the path leads to it.
    match w.files.lookup? w.directory path with
    | none => .error .unloadable
    | some p =>
      match w.files.nodeAt? p with
      | some (.library image) => .ok ⟨path, image, .file p.location⟩
      | _ => .error .unloadable

/-- The loader that opens files. It logs each path it is handed. -/
def Loader.system : Loader where
  load w _ path := openLibrary w path
  notice path := [.opening path]

/-! ## A scripted loader -/

/-- What a scripted loader does when its turn comes. -/
inductive Outcome where
  | reject (reason : String)
  | fail
  | give (image : Image)
  /-- Gives the image if the path leads to a regular file, and rejects the path if not. -/
  | giveIfFile (image : Image)
  deriving DecidableEq, Repr

/-- What an outcome makes of a path. -/
def Outcome.apply (outcome : Outcome) (w : World) (earlier : Nat) (path : Path) :
    Except LoadFailure Library :=
  match outcome with
  | .reject reason => .error (.rejected reason)
  | .fail => .error .unloadable
  | .give image => .ok ⟨path, image, .turn earlier⟩
  | .giveIfFile image =>
    if w.isFile path then .ok ⟨path, image, .turn earlier⟩
    else .error (.rejected (path.display ++ " not found"))

/-- The loader that follows a list of outcomes, one for each path; past its end it gives images
that export nothing. It logs nothing. -/
def Loader.scripted (outcomes : List Outcome) : Loader where
  load w earlier path :=
    (outcomes.getD earlier.length (.give ⟨[], none, none⟩)).apply w earlier.length path
  notice _ := []

end NativeBootstrap
