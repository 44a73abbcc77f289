import NativeBootstrap.Host

/-!
# Variants

The prebuilt libraries come in one variant for each architecture and configuration. A descriptor of
a host selects one; there is none for a host that is not in the Windows family.
-/

set_option autoImplicit false

namespace NativeBootstrap

/-- Architectures that libraries are built for. -/
inductive Arch where
  | win86
  | win64
  deriving DecidableEq, Repr

/-- All architectures, in order. -/
def Arch.all : List Arch := [.win86, .win64]

/-- The name of an architecture, which is also that of its directory. -/
def Arch.name : Arch → String
  | .win86 => "win86"
  | .win64 => "win64"

/-- Build configurations. -/
inductive Config where
  | release
  deriving DecidableEq, Repr

/-- The name of a configuration, which is also that of its directory. -/
def Config.name : Config → String
  | .release => "Release"

/-- A flavour of the native libraries. -/
structure Variant where
  arch : Arch
  config : Config
  deriving DecidableEq, Repr

/-- The file name of the library that answers the version query. -/
def coreLibrary : String := "libclogger_dll.dll"

/-- The file name of the library that reports the version by itself. -/
def wrapperLibrary : String := "clogger_jniwrapper.dll"

namespace Variant

/-- The variant for a host, if there is one. -/
def select? (host : Host.Descriptor) : Option Variant :=
  match host.family, host.wordSize with
  | .windows, .bits64 => some ⟨.win64, .release⟩
  | .windows, .bits32 => some ⟨.win86, .release⟩
  | .linux, _ => none
  | .other, _ => none

/-- There is none for the running host. -/
theorem select?_running (release : Option String) :
    select? (Host.running release).descriptor = none := by
  have family : Host.Family.ofSystemName "Linux" = .linux := by decide
  have descriptor : (Host.running release).descriptor = ⟨.linux, .bits64⟩ := by
    show Host.Descriptor.mk (.ofSystemName "Linux") (.ofDataModel "64") = _
    rw [family]
    rfl
  rw [descriptor]
  rfl

/-- The file names of the libraries, in the order in which they are loaded: the wrapper imports from
the core, so the core comes first. -/
def libraries (_ : Variant) : List String := [coreLibrary, wrapperLibrary]

end Variant

end NativeBootstrap
