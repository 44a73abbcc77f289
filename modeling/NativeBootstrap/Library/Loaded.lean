import NativeBootstrap.Library.Loader
import NativeBootstrap.LoadPlan

/-!
# Loading a plan, and calling what was loaded

* `load` hands the entries of a plan to a loader, in order, and stops at the first failure. It
  answers with the loaded libraries, and with the paths it handed over.
* `Loaded.get` finds a library by its name in the plan, and `Loaded.find` the library of an entry
  point, if it exports that.
* `Loaded.report` and `Loaded.version` are the two calls into native code: one into the wrapper,
  which reports by itself, and one into the core, which answers with a name and a version. Each
  tells which calls it made (`ForeignCall`).
-/

set_option autoImplicit false

namespace NativeBootstrap

/-- Libraries loaded in the order of a plan. -/
structure Loaded where
  plan : LoadPlan
  libraries : List Library
  deriving DecidableEq, Repr

/-! ## Loading -/

/-- Loads entries in order: `index` entries of the plan and the paths `earlier` went before. The
second part of the answer is the list of paths handed over. -/
def loadEntries (loader : Loader) (w : World) :
    Nat → List Path → List PlanEntry → Except BootstrapError (List Library) × List Path
  | _, _, [] => (.ok [], [])
  | index, earlier, entry :: rest =>
    match loader.load w earlier entry.path with
    | .error failure => (.error (.load index entry.path failure), [entry.path])
    | .ok library =>
      let (result, handed) := loadEntries loader w (index + 1) (earlier ++ [entry.path]) rest
      (result.map (library :: ·), entry.path :: handed)

/-- Loads a plan with a loader that was handed the paths `earlier` before. -/
def load (loader : Loader) (w : World) (earlier : List Path) (plan : LoadPlan) :
    Except BootstrapError Loaded × List Path :=
  if w.isDirectory plan.libsDir then
    let (result, handed) := loadEntries loader w 0 earlier plan.entries
    (result.map (⟨plan, ·⟩), handed)
  else (.error (.unresolved (.notDirectory plan.libsDir)), [])

/-! ## Entry points -/

/-- A function of the libraries that is called. -/
inductive EntryPoint where
  /-- The wrapper's report, which shows the version by itself. -/
  | report
  /-- The core's version query. -/
  | version
  deriving DecidableEq, Repr

namespace EntryPoint

/-- The symbol an entry point is exported as. -/
def symbol : EntryPoint → String
  | .report => "Java_com_github_jni_JNIWrapper_JNI_1clogger_1lib_1version"
  | .version => "clogger_lib_version"

/-- The file name of the library that an entry point lies in. -/
def library : EntryPoint → String
  | .report => wrapperLibrary
  | .version => coreLibrary

end EntryPoint

/-- What is passed for a parameter of an entry point. -/
inductive Argument where
  | null
  /-- Where a pointer lies, which is null until the callee stores another one. -/
  | pointerPlace
  deriving DecidableEq, Repr

/-- What is passed to an entry point. The report has an environment and a receiver for parameters, and
touches neither; the version query stores the name. -/
def EntryPoint.arguments : EntryPoint → List Argument
  | .report => [.null, .null]
  | .version => [.pointerPlace]

/-- A call of an entry point of an image. -/
structure ForeignCall where
  image : ImageId
  entry : EntryPoint
  deriving DecidableEq, Repr

/-- Whether a call is one of the report of this image, with a null environment and a null receiver. -/
def ForeignCall.isReportOf (call : ForeignCall) (image : ImageId) : Bool :=
  call.image == image && call.entry == .report && call.entry.arguments == [.null, .null]

/-! ## Calling -/

/-- A library's name and version. -/
structure LibraryVersion where
  name : String
  version : String
  deriving DecidableEq, Repr

/-- A version as it is printed. -/
def LibraryVersion.display (v : LibraryVersion) : String := v.name ++ "-" ++ v.version

/-- What a version query's answer says. A null version is an error; a null name is an empty one. -/
def VersionAnswer.read (answer : VersionAnswer) : Except CallError LibraryVersion :=
  match answer.version with
  | none => .error (.nullResult EntryPoint.version.symbol)
  | some version => .ok ⟨(answer.name.map nativeString).getD "", nativeString version⟩

/-- Looks a symbol up in a library. -/
def Library.lookUp (library : Library) (symbol : String) : Except CallError Unit :=
  if library.image.hasSymbol symbol then .ok () else .error (.missingSymbol library.path symbol)

namespace Loaded

/-- The library of the first entry of the plan with this name. -/
def get (loaded : Loaded) (name : String) : Except CallError Library :=
  match (loaded.plan.position? name).bind fun index => loaded.libraries[index]? with
  | some library => .ok library
  | none => .error (.missingLibrary name)

/-- The library that an entry point lies in, if it exports it. -/
def find (loaded : Loaded) (entry : EntryPoint) : Except CallError Library := do
  let library ← loaded.get entry.library
  library.lookUp entry.symbol
  return library

/-- Calls the wrapper's report once, if it can be found. -/
def report (loaded : Loaded) : Logged (Except CallError Unit) × List ForeignCall :=
  match loaded.find .report with
  | .error error => (⟨.error error, []⟩, [])
  | .ok wrapper => (⟨.ok (), [.calling EntryPoint.report.symbol]⟩, [⟨wrapper.id, .report⟩])

/-- Asks the core for its name and version, if the query can be found. -/
def version (loaded : Loaded) : Except CallError LibraryVersion × List ForeignCall :=
  match loaded.find .version with
  | .error error => (.error error, [])
  | .ok core => (core.image.answer.read, [⟨core.id, .version⟩])

end Loaded

end NativeBootstrap
