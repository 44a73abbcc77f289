import NativeBootstrap.Text.Utf8

/-!
# Library images

What a shared library shows to its caller: the names it exports, and what its version query answers.
The query returns a version and stores a name; either may be a null pointer. A string from native
code ends at its first zero byte and is read lossily.
-/

set_option autoImplicit false

namespace NativeBootstrap

/-- What a version query answers: the bytes behind two pointers, or null. -/
structure VersionAnswer where
  name : Option Bytes
  version : Option Bytes
  deriving DecidableEq, Repr

/-- A library image. -/
structure Image where
  exports : List String
  answer : VersionAnswer
  deriving DecidableEq, Repr

/-- Whether a look-up of a symbol in the image finds it. An empty name is never found. -/
def Image.hasSymbol (image : Image) (symbol : String) : Bool :=
  symbol != "" && image.exports.contains symbol

/-- A string from native code: the bytes before the first zero byte, read lossily. -/
def nativeString (bytes : Bytes) : String := Utf8.lossy (bytes.takeWhile (· != 0))

end NativeBootstrap
