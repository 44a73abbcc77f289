import NativeBootstrap.Log.Filter
import NativeBootstrap.Settings
import NativeBootstrap.SharedSession

/-!
# The program

The program reads its command line, brings the native libraries up, and has them report their
version; or, if asked to, only shows the plan by which it would load them.

* `Program.run` says how a run ends, with the events on the way.
* `Program.transcript` is all that a run shows: the exit code and the two outputs, the log among
  them as far as a filter lets it through.
-/

set_option autoImplicit false

namespace NativeBootstrap.Program

/-- Why the program fails. -/
inductive Failure where
  | settings (error : SettingsError)
  | bootstrap (error : BootstrapError)
  | call (error : CallError)
  deriving DecidableEq, Repr

/-- The wording of a failure. -/
def Failure.message : Failure → String
  | .settings error => error.message
  | .bootstrap error => error.message
  | .call error => error.message

/-- The messages of what caused a failure, nearest first. -/
def Failure.causes (words : LoaderWords) : Failure → List String
  | .settings _ => []
  | .bootstrap error => error.causes words
  | .call error => error.causes words

/-- How a run ends. -/
inductive Outcome where
  /-- It shows a text that was asked for. -/
  | shows (text : String)
  /-- The command line is wrong. -/
  | misused (misuse : CommandLine.Misuse)
  | fails (failure : Failure)
  /-- All is done; these lines are printed. -/
  | finishes (lines : List String)
  deriving DecidableEq, Repr

/-! ## What the program does -/

/-- The properties of a host, as they are logged. -/
def properties (host : Host) : List Event :=
  Host.Key.all.map fun key => .property key.name ((host.get? key.name).getD "(unset)")

/-- Shows the load plan, and loads nothing. -/
def showPlan (loader : Loader) (w : World) (options : BootstrapOptions) : Logged Outcome :=
  let bootstrap := (SharedSession.fresh.install loader w options).1.bootstrap
  let plan := bootstrap.resolve w
  let outcome :=
    match plan.value with
    | .ok plan => .finishes (plan.libsDir.display :: plan.entries.map fun entry => entry.path.display)
    | .error error => .fails (.bootstrap error)
  ⟨outcome, properties bootstrap.host ++ plan.events⟩

/-- Calls the libraries that are up. -/
def callLibraries (loaded : Loaded) (versionInfo : Bool) : Logged Outcome :=
  match loaded.report.1 with
  | ⟨.error error, events⟩ => ⟨.fails (.call error), events⟩
  | ⟨.ok _, events⟩ =>
    if versionInfo then
      match loaded.version.1 with
      | .ok version => ⟨.finishes [version.display], events⟩
      | .error error => ⟨.fails (.call error), events⟩
    else ⟨.finishes [], events⟩

/-- Brings the libraries up and calls them. -/
def bringUp (loader : Loader) (w : World) (options : BootstrapOptions) (versionInfo : Bool) :
    Logged Outcome :=
  match SharedSession.fresh.connect loader w options with
  | (⟨.error error, events⟩, _) => ⟨.fails (.call error), events⟩
  | (⟨.ok loaded, events⟩, _) =>
    let calls := callLibraries loaded versionInfo
    ⟨calls.value, events ++ .using loaded.plan.libsDir :: calls.events⟩

/-- Does what the settings say. -/
def perform (loader : Loader) (w : World) (settings : Settings) : Logged Outcome :=
  if settings.planOnly then showPlan loader w settings.bootstrapOptions
  else bringUp loader w settings.bootstrapOptions settings.versionInfo

/-- A run with the arguments after the program's name. -/
def run (loader : Loader) (w : World) (arguments : List Bytes) : Logged Outcome :=
  match CommandLine.Arguments.read arguments with
  | .error .help => ⟨.shows CommandLine.helpText, []⟩
  | .error .version => ⟨.shows CommandLine.versionText, []⟩
  | .error (.misuse misuse) => ⟨.misused misuse, []⟩
  | .ok arguments =>
    match (SettingsStore.empty.set (.ofArguments arguments)).2.get with
    | .ok settings => perform loader w settings
    | .error error => ⟨.fails (.settings error), []⟩

/-! ## What a run shows -/

/-- The exit code, and what is written to the two outputs. -/
structure Transcript where
  code : UInt8
  output : String
  diagnostics : String
  deriving DecidableEq, Repr

/-- The lines on causes: one alone is indented, several are numbered. -/
def causeLines : List String → List String
  | [] => []
  | [cause] => ["", "Caused by:", "    " ++ Text.hanging 4 cause]
  | causes =>
    ["", "Caused by:"] ++ causes.zipIdx.map fun (cause, index) =>
      Text.paddedLeft 5 (toString index) ++ ": " ++ Text.hanging 7 cause

/-- The text on a failure. -/
def Failure.report (words : LoaderWords) (failure : Failure) : String :=
  "\n".intercalate (("Error: " ++ failure.message) :: causeLines (failure.causes words)) ++ "\n"

/-- Lines, each with its end. -/
def unlines (lines : List String) : String := String.join (lines.map (· ++ "\n"))

/-- What an outcome shows. -/
def Outcome.transcript (words : LoaderWords) : Outcome → Transcript
  | .shows text => ⟨0, text, ""⟩
  | .misused misuse => ⟨2, "", misuse.message⟩
  | .fails failure => ⟨1, "", failure.report words⟩
  | .finishes lines => ⟨0, unlines lines, ""⟩

/-- The specification of the log filter where none is given. -/
def defaultSpecification : String := "info"

/-- All that a run shows, under a log filter and with a stamp on each record of the log, where the
system's loader has these words. -/
def transcript (words : LoaderWords) (specification : Option String) (stamp : String)
    (run : Logged Outcome) : Transcript :=
  let (filter, faults) := Filter.ofSpecification (specification.getD defaultSpecification)
  let log := (run.events.map Event.record).filter filter.admits
  let shown := run.value.transcript words
  { shown with
    diagnostics :=
      unlines (faults.map Filter.Fault.warning) ++ String.join (log.map (Record.line stamp))
        ++ shown.diagnostics }

end NativeBootstrap.Program
