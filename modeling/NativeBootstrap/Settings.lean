import NativeBootstrap.Bootstrap
import NativeBootstrap.CommandLine.Arguments

/-!
# Settings

The settings of the program come from its command line. They are held in a store that is written
once: a second `set` is refused and changes nothing, and a `get` before the first `set` is an error
that leaves the store as it is.

`SettingsStore.step` answers one request, and `SettingsStore.run` a list of them.
-/

set_option autoImplicit false

namespace NativeBootstrap

/-- What the program is to do. -/
structure Settings where
  artifact : Option Path
  planOnly : Bool
  versionInfo : Bool
  deriving DecidableEq, Repr

namespace Settings

/-- The settings that a command line says. -/
def ofArguments (arguments : CommandLine.Arguments) : Settings :=
  ⟨arguments.artifact.map Path.mk, arguments.plan, arguments.versionInfo⟩

/-- The options of the bootstrap under these settings; the host is the running one. -/
def bootstrapOptions (settings : Settings) : BootstrapOptions := ⟨none, settings.artifact⟩

end Settings

/-- Why a store of settings refuses a request. -/
inductive SettingsError where
  /-- The settings are set already. -/
  | alreadySet
  /-- The settings are not set yet. -/
  | notSet
  deriving DecidableEq, Repr

/-- The wording of a refusal. -/
def SettingsError.message : SettingsError → String
  | .alreadySet => "duplicate called"
  | .notSet => "configs not initialized"

/-- A store of settings. -/
structure SettingsStore where
  held : Option Settings
  deriving DecidableEq, Repr

namespace SettingsStore

/-- A store that holds nothing yet. -/
def empty : SettingsStore := ⟨none⟩

/-- Holds the settings, if none are held. -/
def set (store : SettingsStore) (settings : Settings) : Except SettingsError Unit × SettingsStore :=
  match store.held with
  | some _ => (.error .alreadySet, store)
  | none => (.ok (), ⟨some settings⟩)

/-- The settings that are held. -/
def get (store : SettingsStore) : Except SettingsError Settings :=
  match store.held with
  | some settings => .ok settings
  | none => .error .notSet

/-! ## Requests -/

/-- What a store can be asked for. -/
inductive Request where
  | set (arguments : CommandLine.Arguments)
  | get
  | bootstrapOptions
  deriving DecidableEq, Repr

/-- The answer to a request. -/
inductive Reply where
  | set (result : Except SettingsError Unit)
  | get (result : Except SettingsError Settings)
  | bootstrapOptions (result : Except SettingsError BootstrapOptions)

/-- One request: the reply, and the store after it. -/
def step (store : SettingsStore) : Request → Reply × SettingsStore
  | .set arguments =>
    let (result, store) := store.set (.ofArguments arguments)
    (.set result, store)
  | .get => (.get store.get, store)
  | .bootstrapOptions => (.bootstrapOptions (store.get.map Settings.bootstrapOptions), store)

/-- Requests one after the other. -/
def run (store : SettingsStore) : List Request → List Reply × SettingsStore
  | [] => ([], store)
  | request :: rest =>
    let (reply, next) := store.step request
    let (replies, last) := run next rest
    (reply :: replies, last)

end SettingsStore

end NativeBootstrap
