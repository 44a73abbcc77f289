import NativeBootstrap.Text.Occurrence

/-!
# Hosts

A host is described by five properties, each a plain text, so that any host can be described on any
machine. What counts for the choice of libraries is its descriptor: the family that its operating
system's name tells, and its word size.
-/

set_option autoImplicit false

namespace NativeBootstrap

/-- The facts about a host, as the host reports them. -/
structure Host where
  osName : String
  osVersion : Option String
  osArch : String
  dataModel : String
  fileSeparator : String
  deriving DecidableEq, Repr

namespace Host

/-- A property of a host. -/
inductive Key where
  | osName
  | osVersion
  | osArch
  | dataModel
  | fileSeparator
  deriving DecidableEq, Repr

/-- All properties, in the order in which they are listed. -/
def Key.all : List Key := [.osName, .osVersion, .osArch, .dataModel, .fileSeparator]

/-- The name a property is asked for by. -/
def Key.name : Key → String
  | .osName => "os.name"
  | .osVersion => "os.version"
  | .osArch => "os.arch"
  | .dataModel => "data.model"
  | .fileSeparator => "file.separator"

/-- The value of a property; only the version of the system may be unknown. -/
def property? (host : Host) : Key → Option String
  | .osName => some host.osName
  | .osVersion => host.osVersion
  | .osArch => some host.osArch
  | .dataModel => some host.dataModel
  | .fileSeparator => some host.fileSeparator

/-- The value of the property of this name, if there is such a property and its value is known. -/
def get? (host : Host) (name : String) : Option String :=
  (Key.all.find? fun key => key.name == name).bind host.property?

/-- Families of operating systems. -/
inductive Family where
  | windows
  | linux
  | other
  deriving DecidableEq, Repr

/-- All families, in order. -/
def Family.all : List Family := [.windows, .linux, .other]

/-- The name of a family. -/
def Family.name : Family → String
  | .windows => "Windows"
  | .linux => "Linux"
  | .other => "Other"

/-- The family that the name of an operating system tells. A name that tells both Windows and Linux
counts as Windows. -/
def Family.ofSystemName (name : String) : Family :=
  if Text.occursIn "Windows".toList name.toList then .windows
  else if Text.occursIn "Linux".toList name.toList then .linux
  else .other

/-- Word sizes in bits. -/
inductive WordSize where
  | bits32
  | bits64
  deriving DecidableEq, Repr

/-- All word sizes, in order. -/
def WordSize.all : List WordSize := [.bits32, .bits64]

/-- The number of bits, as text. -/
def WordSize.name : WordSize → String
  | .bits32 => "32"
  | .bits64 => "64"

/-- The word size of a data model: 64 bits if it says exactly so, and 32 bits otherwise. -/
def WordSize.ofDataModel (model : String) : WordSize := if model = "64" then .bits64 else .bits32

/-- What the choice of libraries depends on. -/
structure Descriptor where
  family : Family
  wordSize : WordSize
  deriving DecidableEq, Repr

/-- The descriptor of a host. -/
def descriptor (host : Host) : Descriptor :=
  ⟨.ofSystemName host.osName, .ofDataModel host.dataModel⟩

/-- The host that this program is built for, running this release of its system. -/
def running (release : Option String) : Host where
  osName := "Linux"
  osVersion := release
  osArch := "x86_64"
  dataModel := "64"
  fileSeparator := "/"

end Host

end NativeBootstrap
