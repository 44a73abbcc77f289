import NativeBootstrap.Artifact
import NativeBootstrap.Library.Loaded
import NativeBootstrap.Text.Quoted

/-!
# Resolving a load plan

A bootstrap is what is needed to bring native libraries up: a loader, the host to load for, and the
artifact that the libraries lie beside. `Bootstrap.resolve` finds the load plan: the variant for the
host, then the directory of the artifact, then the install root above it. It loads nothing. Errors
of paths are logged and dropped on the way.
-/

set_option autoImplicit false

namespace NativeBootstrap

/-- The absolute directory that contains what an encoded path names; if there is none, that is
logged. -/
def parentDirectory (workingDirectory : Option Path) (encoded : String) : Logged (Option Path) :=
  orWarn ("cannot resolve parent of " ++ Quoted.quote encoded) PathError.message
    (containingDirectory workingDirectory encoded)

/-- What may be chosen about a bootstrap: the host, which is the running one if none is given, and
the artifact, which is the running program if none is given. -/
structure BootstrapOptions where
  host : Option Host
  artifact : Option Path
  deriving DecidableEq, Repr

/-- Options that choose nothing. -/
def BootstrapOptions.default : BootstrapOptions := ⟨none, none⟩

/-- What is needed to bring native libraries up. -/
structure Bootstrap where
  loader : Loader
  host : Host
  artifact : Option Path

namespace Bootstrap

/-- The bootstrap with these options; the host is settled here, once. -/
def ofOptions (loader : Loader) (w : World) (options : BootstrapOptions) : Bootstrap :=
  ⟨loader, options.host.getD w.host, options.artifact⟩

/-- The directory of the artifact, which is the running program if none is given. -/
def findDirectory (b : Bootstrap) (w : World) : Except PathError Path :=
  match b.artifact with
  | some location => NativeBootstrap.artifactDirectory w location
  | none => programDirectory w

/-- The directory of the artifact; if there is none, that is logged. -/
def artifactDirectory (b : Bootstrap) (w : World) : Logged (Option Path) :=
  orWarn "cannot resolve artifact directory" PathError.message (b.findDirectory w)

/-- The plan of a variant, from the directory of the artifact on. -/
def planBeside (b : Bootstrap) (w : World) (variant : Variant) (directory : Path) :
    Logged (Except BootstrapError LoadPlan) :=
  match directory.toString? with
  | none => ⟨.error (.unresolved (.nonUnicode directory)), []⟩
  | some text =>
    match parentDirectory w.directoryPath? text with
    -- The directory is plain text by now, and is read as an encoded path again.
    | ⟨none, events⟩ => ⟨.error (.unresolved (.noInstallRoot directory)), events⟩
    | ⟨some root, events⟩ =>
      match root.toString? with
      | none => ⟨.error (.unresolved (.nonUnicode root)), events⟩
      | some installRoot =>
        ⟨.ok (.underRoot installRoot variant b.host.fileSeparator), events⟩

/-- The load plan for the host, beside the artifact. -/
def resolve (b : Bootstrap) (w : World) : Logged (Except BootstrapError LoadPlan) :=
  match Variant.select? b.host.descriptor with
  | none => ⟨.error (.unsupportedPlatform b.host.descriptor), []⟩
  | some variant =>
    let selected := Event.selected b.host.descriptor variant
    match b.artifactDirectory w with
    | ⟨none, events⟩ => ⟨.error (.unresolved .unknownArtifact), selected :: events⟩
    | ⟨some directory, events⟩ =>
      let plan := b.planBeside w variant directory
      ⟨plan.value, selected :: events ++ plan.events⟩

end Bootstrap

end NativeBootstrap
