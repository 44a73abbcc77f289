import NativeBootstrap.Path.Basic
import NativeBootstrap.Path.Join
import NativeBootstrap.Variant

/-!
# Load plans

A plan lists the libraries of a variant in load order, with their paths in the directory
`libs/<architecture>/<configuration>` of an install root.
-/

set_option autoImplicit false

namespace NativeBootstrap

/-- A library of a plan: its file name and its path. -/
structure PlanEntry where
  name : String
  path : Path
  deriving DecidableEq, Repr

/-- The libraries to load, in order, and the directory they lie in. -/
structure LoadPlan where
  libsDir : Path
  entries : List PlanEntry
  deriving DecidableEq, Repr

namespace LoadPlan

/-- The directory of an install root that holds all native libraries. -/
def libsName : String := "libs"

/-- The directory of a variant's libraries under an install root. -/
def libsDirectory (installRoot : String) (variant : Variant) (separator : String) : String :=
  Path.joinWith separator (Path.joinWith separator installRoot [libsName])
    [variant.arch.name, variant.config.name]

/-- The plan for a variant under an install root. -/
def underRoot (installRoot : String) (variant : Variant) (separator : String) : LoadPlan :=
  let directory := libsDirectory installRoot variant separator
  { libsDir := .ofString directory
    entries := variant.libraries.map fun name =>
      ⟨name, .ofString (Path.joinWith separator directory [name])⟩ }

/-- The position of the first library of this name. -/
def position? (plan : LoadPlan) (name : String) : Option Nat :=
  plan.entries.findIdx? fun entry => entry.name == name

end LoadPlan

end NativeBootstrap
