import NativeBootstrap.Bootstrap

/-!
# Sessions

A session is one bootstrap under way. The first `start` resolves and loads everything and fixes the
outcome; later ones only tell it. A failure is final. The session also keeps two ledgers: the paths
handed to the loader, and the calls into the libraries.

`Session.step` answers one request, and `Session.run` a list of them, each in its own world.
-/

set_option autoImplicit false

namespace NativeBootstrap

/-- How far a session has come. -/
inductive Phase where
  | unstarted
  | ready
  | failed
  deriving DecidableEq, Repr

/-- The name of a phase. -/
def Phase.name : Phase → String
  | .unstarted => "Unstarted"
  | .ready => "Ready"
  | .failed => "Failed"

/-- The outcome of bringing the libraries up, once there is one, and the ledgers. -/
structure Session where
  outcome : Option (Except BootstrapError Loaded)
  handed : List Path
  called : List ForeignCall

namespace Session

/-- A session in which nothing has happened. -/
def fresh : Session := ⟨none, [], []⟩

/-- The phase of a session. -/
def phase (s : Session) : Phase :=
  match s.outcome with
  | none => .unstarted
  | some (.ok _) => .ready
  | some (.error _) => .failed

/-- The loaded libraries, if they are up. -/
def libraries (s : Session) : Except CallError Loaded :=
  match s.outcome with
  | some (.ok loaded) => .ok loaded
  | some (.error error) => .error (.notInitialized (some error))
  | none => .error (.notInitialized none)

/-- How often the report of an image was called. -/
def reportCount (s : Session) (image : ImageId) : Nat :=
  s.called.countP fun call => call.isReportOf image

/-- How often the report of each loaded library's image was called. -/
def reportCounts (s : Session) (loaded : Loaded) : List Nat :=
  loaded.libraries.map fun library => s.reportCount library.id

/-- The attempt to bring the libraries up: its outcome, and the paths handed to the loader. -/
def attempt (b : Bootstrap) (w : World) (earlier : List Path) :
    Logged (Except BootstrapError Loaded × List Path) :=
  let plan := b.resolve w
  let (outcome, handed) :=
    match plan.value with
    | .ok plan => load b.loader w earlier plan
    | .error error => (.error error, [])
  let closing :=
    match outcome with
    | .ok loaded => Event.ready loaded.plan.libsDir
    | .error error => Event.failed error
  ⟨(outcome, handed), .resolving :: plan.events ++ handed.flatMap b.loader.notice ++ [closing]⟩

/-- Brings the libraries up at the first call; later calls tell the first outcome. -/
def start (b : Bootstrap) (w : World) (s : Session) :
    Logged (Except BootstrapError Loaded) × Session :=
  match s.outcome with
  | some outcome => (⟨outcome, []⟩, s)
  | none =>
    let ⟨(outcome, handed), events⟩ := attempt b w s.handed
    (⟨outcome, events⟩, { s with outcome := some outcome, handed := s.handed ++ handed })

/-- Calls the wrapper's report, if the libraries are up. -/
def report (s : Session) : Logged (Except CallError Unit) × Session :=
  match s.libraries with
  | .error error => (⟨.error error, []⟩, s)
  | .ok loaded =>
    let (result, calls) := loaded.report
    (result, { s with called := s.called ++ calls })

/-- Asks the core for its name and version, if the libraries are up. -/
def version (s : Session) : Except CallError LibraryVersion × Session :=
  match s.libraries with
  | .error error => (.error error, s)
  | .ok loaded =>
    let (result, calls) := loaded.version
    (result, { s with called := s.called ++ calls })

/-! ## Requests -/

/-- What a session can be asked for. -/
inductive Request where
  | phase
  | host
  | resolve
  | start
  | libraries
  | get (name : String)
  | report
  | version
  deriving DecidableEq, Repr

/-- The answer to a request. -/
inductive Reply where
  | phase (phase : Phase)
  | host (host : Host)
  | resolve (result : Except BootstrapError LoadPlan)
  | start (result : Except BootstrapError Loaded)
  | libraries (result : Except CallError Loaded)
  | get (result : Except CallError Library)
  | report (result : Except CallError Unit)
  | version (result : Except CallError LibraryVersion)

/-- One request: the reply, the events on the way to it, and the session after it. -/
def step (b : Bootstrap) (w : World) (s : Session) : Request → Logged Reply × Session
  | .phase => (⟨.phase s.phase, []⟩, s)
  | .host => (⟨.host b.host, []⟩, s)
  | .resolve =>
    let plan := b.resolve w
    (⟨.resolve plan.value, plan.events⟩, s)
  | .start =>
    let (result, s) := s.start b w
    (⟨.start result.value, result.events⟩, s)
  | .libraries => (⟨.libraries s.libraries, []⟩, s)
  | .get name => (⟨.get (s.libraries.bind fun loaded => loaded.get name), []⟩, s)
  | .report =>
    let (result, s) := s.report
    (⟨.report result.value, result.events⟩, s)
  | .version =>
    let (result, s) := s.version
    (⟨.version result, []⟩, s)

/-- Requests one after the other, each in the world of its time. -/
def run (b : Bootstrap) (s : Session) : List (World × Request) → List (Logged Reply) × Session
  | [] => ([], s)
  | (w, request) :: rest =>
    let (reply, next) := s.step b w request
    let (replies, last) := run b next rest
    (reply :: replies, last)

/-- Callers that start the session and then look at its phase: for each, whether its start succeeded,
and the phase. They come one after the other; since only the first start does anything, all of them
see the same. -/
def race (b : Bootstrap) (w : World) (s : Session) :
    Nat → Logged (List (Bool × Phase)) × Session
  | 0 => (⟨[], []⟩, s)
  | callers + 1 =>
    let (result, next) := s.start b w
    let (others, last) := race b w next callers
    (⟨(result.value.isOk, next.phase) :: others.value, result.events ++ others.events⟩, last)

end Session

end NativeBootstrap
