import NativeBootstrap.Session

/-!
# The session that all of a program shares

All parts of a program share one bootstrap. The first call that needs it installs it with its own
options; the options of later calls are not looked at. A handle is the proof of a start that
succeeded: it holds the loaded libraries, and calls through it go to the same images as calls without
a handle.

`SharedSession.step` answers one request, and `SharedSession.run` a list of them, each in its own
world.
-/

set_option autoImplicit false

namespace NativeBootstrap

/-- A bootstrap that was installed, and its session. -/
structure Installed where
  bootstrap : Bootstrap
  session : Session

/-- The shared bootstrap, if one is installed, and the handles given out, oldest first. -/
structure SharedSession where
  installed : Option Installed
  handles : List Loaded

namespace SharedSession

/-- A shared session in which nothing has happened. -/
def fresh : SharedSession := ⟨none, []⟩

/-- The phase of the shared session. -/
def phase (s : SharedSession) : Phase :=
  match s.installed with
  | some installed => installed.session.phase
  | none => .unstarted

/-- The installed bootstrap; if there is none, one with these options is installed. -/
def install (loader : Loader) (w : World) (s : SharedSession) (options : BootstrapOptions) :
    Installed × SharedSession :=
  match s.installed with
  | some installed => (installed, s)
  | none =>
    let installed : Installed := ⟨.ofOptions loader w options, .fresh⟩
    (installed, { s with installed := some installed })

/-- Installs a bootstrap if there is none, and starts its session. -/
def start (loader : Loader) (w : World) (s : SharedSession) (options : BootstrapOptions) :
    Logged (Except BootstrapError Loaded) × SharedSession :=
  let (installed, s) := s.install loader w options
  let (result, session) := installed.session.start installed.bootstrap w
  (result, { s with installed := some { installed with session } })

/-- Starts the session and gives out a handle. -/
def connect (loader : Loader) (w : World) (s : SharedSession) (options : BootstrapOptions) :
    Logged (Except CallError Loaded) × SharedSession :=
  match s.start loader w options with
  | (⟨.ok loaded, events⟩, s) => (⟨.ok loaded, events⟩, { s with handles := s.handles ++ [loaded] })
  | (⟨.error error, events⟩, s) => (⟨.error (.notInitialized (some error)), events⟩, s)

/-- The loaded libraries, if they are up. -/
def libraries (s : SharedSession) : Except CallError Loaded :=
  match s.installed with
  | some installed => installed.session.libraries
  | none => .error (.notInitialized none)

/-- The shared session after calls into the libraries. -/
def noteCalls (s : SharedSession) (calls : List ForeignCall) : SharedSession :=
  { s with
    installed := s.installed.map fun installed =>
      { installed with
        session := { installed.session with called := installed.session.called ++ calls } } }

/-- Calls the report of libraries, if they are up. -/
def reportThrough (s : SharedSession) (libraries : Except CallError Loaded) :
    Logged (Except CallError Unit) × SharedSession :=
  match libraries with
  | .error error => (⟨.error error, []⟩, s)
  | .ok loaded =>
    let (result, calls) := loaded.report
    (result, s.noteCalls calls)

/-- Asks libraries for their name and version, if they are up. -/
def versionThrough (s : SharedSession) (libraries : Except CallError Loaded) :
    Except CallError LibraryVersion × SharedSession :=
  match libraries with
  | .error error => (.error error, s)
  | .ok loaded =>
    let (result, calls) := loaded.version
    (result, s.noteCalls calls)

/-- How often the report of each library's image was called. -/
def reportCounts (s : SharedSession) (loaded : Loaded) : List Nat :=
  match s.installed with
  | some installed => installed.session.reportCounts loaded
  | none => loaded.libraries.map fun _ => 0

/-! ## Requests -/

/-- What a shared session can be asked for. Handles are numbered in the order in which they were
given out. -/
inductive Request where
  | install (options : BootstrapOptions)
  | resolve (options : BootstrapOptions)
  | start
  | phase
  | report
  | version
  | connect (options : BootstrapOptions)
  | reportThrough (handle : Nat)
  | versionThrough (handle : Nat)
  deriving DecidableEq, Repr

/-- The answer to a request. A call through a handle that was never given out has no answer. -/
inductive Reply where
  | install (host : Host) (phase : Phase)
  | resolve (result : Except BootstrapError LoadPlan)
  | start (result : Except BootstrapError Unit)
  | phase (phase : Phase)
  | report (result : Except CallError Unit)
  | version (result : Except CallError LibraryVersion)
  | connect (result : Except CallError Loaded)
  | noHandle

/-- One request: the reply, the events on the way to it, and the shared session after it. -/
def step (loader : Loader) (w : World) (s : SharedSession) : Request → Logged Reply × SharedSession
  | .install options =>
    let (installed, s) := s.install loader w options
    (⟨.install installed.bootstrap.host installed.session.phase, []⟩, s)
  | .resolve options =>
    let (installed, s) := s.install loader w options
    let plan := installed.bootstrap.resolve w
    (⟨.resolve plan.value, plan.events⟩, s)
  | .start =>
    let (result, s) := s.start loader w .default
    (⟨.start (result.value.map fun _ => ()), result.events⟩, s)
  | .phase => (⟨.phase s.phase, []⟩, s)
  | .report =>
    let (result, s) := s.reportThrough s.libraries
    (⟨.report result.value, result.events⟩, s)
  | .version =>
    let (result, s) := s.versionThrough s.libraries
    (⟨.version result, []⟩, s)
  | .connect options =>
    let (result, s) := s.connect loader w options
    (⟨.connect result.value, result.events⟩, s)
  | .reportThrough handle =>
    match s.handles[handle]? with
    | some loaded =>
      let (result, s) := s.reportThrough (.ok loaded)
      (⟨.report result.value, result.events⟩, s)
    | none => (⟨.noHandle, []⟩, s)
  | .versionThrough handle =>
    match s.handles[handle]? with
    | some loaded =>
      let (result, s) := s.versionThrough (.ok loaded)
      (⟨.version result, []⟩, s)
    | none => (⟨.noHandle, []⟩, s)

/-- Requests one after the other, each in the world of its time. -/
def run (loader : Loader) (s : SharedSession) :
    List (World × Request) → List (Logged Reply) × SharedSession
  | [] => ([], s)
  | (w, request) :: rest =>
    let (reply, next) := s.step loader w request
    let (replies, last) := run loader next rest
    (reply :: replies, last)

end SharedSession

end NativeBootstrap
