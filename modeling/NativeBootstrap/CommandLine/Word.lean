import NativeBootstrap.Text.Utf8

/-!
# Words of a command line

The shape of one argument, before any option is known: two dashes alone end the options, two dashes
begin a long name, one dash begins letters, and all else is plain. A dash alone is plain, too.
-/

set_option autoImplicit false

namespace NativeBootstrap.CommandLine

/-- The byte `-`. -/
def dash : UInt8 := 0x2D

/-- The byte `=`. -/
def equalsSign : UInt8 := 0x3D

/-- An argument by its shape. -/
inductive Word where
  /-- Two dashes, after which no argument is an option. -/
  | endOfOptions
  /-- A long name, and the value that follows it after the first `=`. -/
  | long (name : Bytes) (value : Option Bytes)
  /-- What follows a single dash. -/
  | letters (bytes : Bytes)
  | plain (bytes : Bytes)
  deriving DecidableEq, Repr

/-- The word whose long name and value these bytes are. -/
def Word.ofLong (bytes : Bytes) : Word :=
  .long (bytes.takeWhile (· != equalsSign))
    (match bytes.dropWhile (· != equalsSign) with
      | [] => none
      | _ :: value => some value)

/-- The shape of an argument. -/
def Word.ofBytes (bytes : Bytes) : Word :=
  match bytes with
  | [] => .plain []
  | first :: rest =>
    if first = dash then
      match rest with
      | [] => .plain bytes
      | second :: more =>
        if second = dash then
          if more = [] then .endOfOptions else .ofLong more
        else .letters rest
    else .plain bytes

end NativeBootstrap.CommandLine
