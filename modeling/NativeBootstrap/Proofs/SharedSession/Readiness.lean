import Mathlib.Data.List.Induction
import NativeBootstrap.Proofs.SharedSession.OneBootstrap

/-!
# Calls into the libraries need a start that succeeded

The requests alone tell what a run comes to. The first one that needs a bootstrap chooses it
(`bootstrap?`), the first one that starts the session gives the world of the one attempt
(`startWorld?`), and from the two follows what the attempt came to (`attempted?`), which no later
request changes.

On the other side stands the shared session. `step_effect` says what one request leaves of it: its
bootstrap, its outcome, the paths handed over, the calls and the handles. Two facts let the two sides
meet (`Sound`): nothing is handed to the loader before the attempt, so that is the attempt of a fresh
session, and each handle holds the libraries of the outcome, so a call through it is the call without
it. After any run the session is what the requests tell (`told_after`).

The main statement is `calls_need_readiness`.
-/

set_option autoImplicit false

namespace NativeBootstrap

/-! ## Errors of loaded libraries -/

namespace Loaded

variable (loaded : Loaded)

theorem find_ne_notInitialized (entry : EntryPoint) (cause : Option BootstrapError) :
    loaded.find entry ≠ .error (.notInitialized cause) := by
  intro h
  -- What is missing is the library in the plan, or the symbol in the library.
  rcases hget : loaded.get entry.library with error | library
  · have hfind : loaded.find entry = .error error := by
      simp only [find, hget]
      rfl
    rw [hfind] at h
    cases h
    unfold get at hget
    split at hget <;> cases hget
  · have hfind : loaded.find entry = (library.lookUp entry.symbol).bind fun _ => .ok library := by
      simp only [find, hget]
      rfl
    rw [hfind, Library.lookUp] at h
    split at h <;> cases h

/-- A report of loaded libraries never says that they are not initialized. -/
theorem report_ne_notInitialized (cause : Option BootstrapError) :
    loaded.report.1.value ≠ .error (.notInitialized cause) := by
  intro h
  unfold report at h
  split at h
  · next error hfind =>
      cases h
      exact find_ne_notInitialized loaded .report cause hfind
  · cases h

/-- A version query of loaded libraries never says that they are not initialized. -/
theorem version_ne_notInitialized (cause : Option BootstrapError) :
    loaded.version.1 ≠ .error (.notInitialized cause) := by
  intro h
  unfold version at h
  split at h
  · next error hfind =>
      cases h
      exact find_ne_notInitialized loaded .version cause hfind
  · next core hfind =>
      simp only [VersionAnswer.read] at h
      split at h <;> cases h

end Loaded

theorem toOption_eq_some_iff {ε α : Type} {result : Except ε α} {value : α} :
    result.toOption = some value ↔ result = .ok value := by
  cases result <;> simp [Except.toOption]

/-- The outcome after a start is the one that the start tells. -/
theorem Session.outcome_start (b : Bootstrap) (w : World) (s : Session) :
    (s.start b w).2.outcome = some (s.start b w).1.value := by
  cases h : s.outcome with
  | none => rw [start_of_pending b h]
  | some outcome => rw [start_of_settled b h, h]

namespace SharedSession

variable (loader : Loader)

/-! ## The attempt, told from the requests -/

/-- Whether a request starts the session. -/
def Request.starts : Request → Bool
  | .start | .connect _ => true
  | _ => false

/-- Who starts a session needs a bootstrap. -/
theorem Request.options?_of_starts {request : Request} (h : request.starts = true) :
    ∃ options, request.options? = some options := by
  cases request <;> simp [starts, options?] at h ⊢

/-- The bootstrap that the first request in need of one installs. -/
def bootstrap? (steps : List (World × Request)) : Option Bootstrap :=
  steps.findSome? fun entry => entry.2.options?.map (.ofOptions loader entry.1)

/-- The world of the first start. -/
def startWorld? (steps : List (World × Request)) : Option World :=
  steps.findSome? fun entry => if entry.2.starts then some entry.1 else none

/-- What the one attempt came to: that of the first bootstrap, in the world of the first start. -/
def attempted? (steps : List (World × Request)) : Option (Except BootstrapError Loaded) :=
  (bootstrap? loader steps).bind fun b =>
    (startWorld? steps).map fun w => (Session.attempt b w []).value.1

theorem bootstrap?_append (steps rest : List (World × Request)) :
    bootstrap? loader (steps ++ rest) =
      (bootstrap? loader steps).or (bootstrap? loader rest) :=
  List.findSome?_append

theorem startWorld?_append (steps rest : List (World × Request)) :
    startWorld? (steps ++ rest) = (startWorld? steps).or (startWorld? rest) :=
  List.findSome?_append

theorem startWorld?_eq_none_iff (steps : List (World × Request)) :
    startWorld? steps = none ↔ ∀ entry ∈ steps, entry.2.starts = false := by
  simp [startWorld?, List.findSome?_eq_none_iff]

/-- Without a bootstrap there was no start. -/
theorem startWorld?_of_bootstrap? {steps : List (World × Request)}
    (h : bootstrap? loader steps = none) : startWorld? steps = none := by
  rw [startWorld?_eq_none_iff]
  intro entry hentry
  by_contra hstarts
  -- Such a request would have installed one.
  obtain ⟨options, hoptions⟩ := Request.options?_of_starts (Bool.not_eq_false _ ▸ hstarts)
  have hnone := List.findSome?_eq_none_iff.1 h entry hentry
  rw [hoptions] at hnone
  cases hnone

/-- There was no attempt exactly if there was no start. -/
theorem attempted?_eq_none_iff (steps : List (World × Request)) :
    attempted? loader steps = none ↔ ∀ entry ∈ steps, entry.2.starts = false := by
  rw [← startWorld?_eq_none_iff]
  unfold attempted?
  cases hb : bootstrap? loader steps with
  | none => simp [startWorld?_of_bootstrap? loader hb]
  | some b => simp

/-- There is one attempt: what it came to stays. -/
theorem attempted?_append {steps : List (World × Request)}
    {outcome : Except BootstrapError Loaded} (h : attempted? loader steps = some outcome)
    (rest : List (World × Request)) : attempted? loader (steps ++ rest) = some outcome := by
  obtain ⟨b, hb, hattempt⟩ := Option.bind_eq_some_iff.1 h
  obtain ⟨w, hw, rfl⟩ := Option.map_eq_some_iff.1 hattempt
  simp only [attempted?, bootstrap?_append, startWorld?_append, hb, hw, Option.some_or,
    Option.bind_some, Option.map_some]

/-- What one more request adds to the attempt. -/
theorem attempted?_snoc (steps : List (World × Request)) (w : World) (request : Request) :
    attempted? loader (steps ++ [(w, request)]) =
      (attempted? loader steps).or
        (if request.starts then
          (bootstrap? loader (steps ++ [(w, request)])).map fun b => (Session.attempt b w []).value.1
        else none) := by
  cases hattempt : attempted? loader steps with
  | some outcome => rw [attempted?_append loader hattempt, Option.some_or]
  | none =>
      -- There was no start yet, so the first one can only be this request.
      have hw : startWorld? steps = none :=
        (startWorld?_eq_none_iff steps).2 ((attempted?_eq_none_iff loader steps).1 hattempt)
      rw [attempted?, startWorld?_append, hw]
      cases hstarts : request.starts with
      | false => simp [startWorld?, hstarts]
      | true =>
          simp only [startWorld?, hstarts, List.findSome?_singleton, if_true, Option.none_or,
            Option.map_eq_bind]
          rfl

/-! ## The parts of a shared session -/

/-- The bootstrap of a shared session, if there is one. -/
def bootstrap (s : SharedSession) : Option Bootstrap := s.installed.map Installed.bootstrap

/-- The outcome of a shared session, once there is one. -/
def outcome (s : SharedSession) : Option (Except BootstrapError Loaded) :=
  s.installed.bind fun installed => installed.session.outcome

/-- The paths that were handed to the loader. -/
def handed (s : SharedSession) : List Path :=
  (s.installed.map fun installed => installed.session.handed).getD []

/-- The calls that were made into the libraries. -/
def called (s : SharedSession) : List ForeignCall :=
  (s.installed.map fun installed => installed.session.called).getD []

theorem libraries_eq (s : SharedSession) : s.libraries = Session.libraries ⟨s.outcome, [], []⟩ := by
  rcases s with ⟨_ | installed, handles⟩ <;> rfl

theorem phase_eq (s : SharedSession) : s.phase = Session.phase ⟨s.outcome, [], []⟩ := by
  rcases s with ⟨_ | installed, handles⟩ <;> rfl

/-- The libraries are up exactly if they are the outcome. -/
theorem libraries_eq_ok_iff {s : SharedSession} {loaded : Loaded} :
    s.libraries = .ok loaded ↔ s.outcome = some (.ok loaded) := by
  rw [libraries_eq]
  rcases s.outcome with _ | error | loaded' <;> simp [Session.libraries]

/-- A shared session whose handles hold the libraries of its outcome, and that has handed nothing to
the loader before there is one. -/
structure Sound (s : SharedSession) : Prop where
  handles : ∀ loaded ∈ s.handles, s.outcome = some (.ok loaded)
  handed : s.outcome = none → s.handed = []

theorem sound_fresh : Sound fresh := ⟨nofun, fun _ => rfl⟩

/-! ## Calls and handles -/

/-- The calls into loaded libraries that a request makes. -/
def Request.calls (loaded : Loaded) : Request → List ForeignCall
  | .report | .reportThrough _ => loaded.report.2
  | .version | .versionThrough _ => loaded.version.2
  | _ => []

/-- The libraries that a request calls into, if it has any. -/
def target (s : SharedSession) : Request → Option Loaded
  | .report | .version => s.libraries.toOption
  | .reportThrough handle | .versionThrough handle => s.handles[handle]?
  | _ => none

/-- The handle that a reply gives out. -/
def Reply.handle? : Reply → Option Loaded
  | .connect (.ok loaded) => some loaded
  | _ => none

/-- A connection gives out what it brought up. -/
theorem Reply.handle?_connect (outcome : Except BootstrapError Loaded)
    (wrap : BootstrapError → CallError) :
    (Reply.connect (outcome.mapError wrap)).handle? = outcome.toOption := by
  cases outcome <;> rfl

/-- The handles that replies give out, oldest first. -/
def obtained (replies : List (Logged Reply)) : List Loaded :=
  replies.filterMap fun reply => reply.value.handle?

theorem obtained_append (replies more : List (Logged Reply)) :
    obtained (replies ++ more) = obtained replies ++ obtained more :=
  List.filterMap_append

theorem obtained_singleton (reply : Logged Reply) : obtained [reply] = reply.value.handle?.toList := by
  cases h : reply.value.handle? <;> simp [obtained, h]

/-- All calls go to the libraries of the outcome. -/
theorem outcome_of_target {s : SharedSession} (hs : Sound s) {request : Request} {loaded : Loaded}
    (h : s.target request = some loaded) : s.outcome = some (.ok loaded) := by
  cases request with
  | report => exact libraries_eq_ok_iff.1 (toOption_eq_some_iff.1 h)
  | version => exact libraries_eq_ok_iff.1 (toOption_eq_some_iff.1 h)
  | reportThrough handle => exact hs.handles loaded (List.mem_of_getElem? h)
  | versionThrough handle => exact hs.handles loaded (List.mem_of_getElem? h)
  | install options => cases h
  | resolve options => cases h
  | start => cases h
  | phase => cases h
  | connect options => cases h

theorem target_of_not_ready {s : SharedSession} (hs : Sound s)
    (h : ∀ loaded, s.outcome ≠ some (.ok loaded)) (request : Request) : s.target request = none := by
  rw [Option.eq_none_iff_forall_ne_some]
  intro loaded htarget
  exact h loaded (outcome_of_target hs htarget)

theorem calls_of_ready {s : SharedSession} {loaded : Loaded} (h : s.outcome = some (.ok loaded))
    {request : Request} (hdirect : request.IsDirect) :
    (s.target request).elim [] request.calls = request.calls loaded := by
  have hlibraries : s.libraries.toOption = some loaded :=
    toOption_eq_some_iff.2 (libraries_eq_ok_iff.2 h)
  cases request with
  | report => rw [target, hlibraries, Option.elim_some]
  | version => rw [target, hlibraries, Option.elim_some]
  | reportThrough handle => exact hdirect.elim
  | versionThrough handle => exact hdirect.elim
  | install options => rfl
  | resolve options => rfl
  | start => rfl
  | phase => rfl
  | connect options => rfl

/-! ## What one request leaves behind -/

theorem outcome_start (w : World) (s : SharedSession) (options : BootstrapOptions) :
    (s.start loader w options).2.outcome = some (s.start loader w options).1.value :=
  Session.outcome_start _ _ _

/-- Connecting is starting, and giving out what the start brought up. -/
theorem connect_eq (w : World) (s : SharedSession) (options : BootstrapOptions) :
    s.connect loader w options =
      (⟨(s.start loader w options).1.value.mapError fun error => .notInitialized (some error),
          (s.start loader w options).1.events⟩,
        { (s.start loader w options).2 with
          handles := (s.start loader w options).2.handles ++
            (s.start loader w options).1.value.toOption.toList }) := by
  unfold connect
  rcases s.start loader w options with ⟨⟨error | loaded, events⟩, next⟩
  · simp [Except.mapError, Except.toOption]
  · rfl

/-- A call changes nothing but the ledger of calls. -/
theorem step_call {request : Request} (h : request.asks = .report ∨ request.asks = .version)
    (w : World) (s : SharedSession) :
    (s.step loader w request).2 = s.noteCalls ((s.target request).elim [] request.calls) ∧
      (s.step loader w request).1.value.handle? = none := by
  have hnone : s = s.noteCalls [] := by simp [noteCalls]
  cases request with
  | report =>
      simp only [step, reportThrough, target]
      rcases s.libraries with error | loaded
      · exact ⟨hnone, rfl⟩
      · exact ⟨rfl, rfl⟩
  | version =>
      simp only [step, versionThrough, target]
      rcases s.libraries with error | loaded
      · exact ⟨hnone, rfl⟩
      · exact ⟨rfl, rfl⟩
  | reportThrough handle =>
      simp only [step, target]
      rcases s.handles[handle]? with _ | loaded
      · exact ⟨hnone, rfl⟩
      · exact ⟨rfl, rfl⟩
  | versionThrough handle =>
      simp only [step, target]
      rcases s.handles[handle]? with _ | loaded
      · exact ⟨hnone, rfl⟩
      · exact ⟨rfl, rfl⟩
  | install options => rcases h with h | h <;> cases h
  | resolve options => rcases h with h | h <;> cases h
  | start => rcases h with h | h <;> cases h
  | phase => rcases h with h | h <;> cases h
  | connect options => rcases h with h | h <;> cases h

/-- What a request and its reply leave of a shared session. -/
structure Effect (w : World) (s : SharedSession) (request : Request) (reply : Reply)
    (next : SharedSession) : Prop where
  bootstrap : next.bootstrap = s.bootstrap.or (request.options?.map (.ofOptions loader w))
  outcome : next.outcome = s.outcome.or
    (if request.starts then next.bootstrap.map fun b => (Session.attempt b w s.handed).value.1
      else none)
  handed : next.outcome = none → next.handed = s.handed
  called : next.called = s.called ++ (s.target request).elim [] request.calls
  handles : next.handles = s.handles ++ reply.handle?.toList
  given : ∀ loaded, reply.handle? = some loaded → next.outcome = some (.ok loaded)

section Effects

variable {loader} {w : World} {s : SharedSession} {request : Request} {reply : Reply}
  {options : BootstrapOptions}

theorem effect_install (hoptions : request.options? = some options)
    (hstarts : request.starts = false) (htarget : s.target request = none)
    (hreply : reply.handle? = none) :
    Effect loader w s request reply (s.install loader w options).2 := by
  rcases s with ⟨_ | installed, handles⟩
  · constructor <;> simp [install, bootstrap, outcome, handed, called, Session.fresh, *]
  · constructor <;> simp [install, bootstrap, outcome, handed, called, *]

theorem effect_start (hoptions : request.options? = some options)
    (hstarts : request.starts = true) (htarget : s.target request = none)
    (hreply : reply.handle? = none) :
    Effect loader w s request reply (s.start loader w options).2 := by
  rcases s with ⟨_ | ⟨b, t⟩, handles⟩
  · constructor <;>
      simp [start, install, bootstrap, outcome, handed, called, Session.fresh,
        Session.start_of_pending, *]
  · rcases hout : t.outcome with _ | settled
    · constructor <;>
        simp [start, install, bootstrap, outcome, handed, called, Session.start_of_pending, *]
    · constructor <;>
        simp [start, install, bootstrap, outcome, handed, called,
          Session.start_of_settled _ hout, *]

theorem effect_noteCalls (hs : Sound s) (hoptions : request.options? = none)
    (hstarts : request.starts = false) (hreply : reply.handle? = none) :
    Effect loader w s request reply
      (s.noteCalls ((s.target request).elim [] request.calls)) := by
  rcases s with ⟨_ | ⟨b, t⟩, handles⟩
  · -- The ledger is part of what is installed, so calls could be lost here. There are none.
    have hnone := target_of_not_ready hs (fun _ => nofun) request
    constructor <;> simp [noteCalls, bootstrap, outcome, handed, called, *]
  · constructor <;> simp [noteCalls, bootstrap, outcome, handed, called, *]

end Effects

/-- **What one request leaves behind.** The first request that needs a bootstrap installs it, the first
that starts the session settles the outcome, calls go into the ledger, and connections that succeed
give out handles. -/
theorem step_effect {s : SharedSession} (hs : Sound s) (w : World) (request : Request) :
    Effect loader w s request (s.step loader w request).1.value (s.step loader w request).2 := by
  have hcall : request.asks = .report ∨ request.asks = .version → request.options? = none →
      request.starts = false →
      Effect loader w s request (s.step loader w request).1.value (s.step loader w request).2 := by
    intro hasks hoptions hstarts
    obtain ⟨hnext, hreply⟩ := step_call loader hasks w s
    rw [hnext]
    exact effect_noteCalls hs hoptions hstarts hreply
  cases request with
  | install options => exact effect_install rfl rfl rfl rfl
  | resolve options => exact effect_install rfl rfl rfl rfl
  | start => exact effect_start rfl rfl rfl rfl
  | phase => constructor <;> simp [step, Request.options?, Request.starts, target, Reply.handle?]
  | report => exact hcall (.inl rfl) rfl rfl
  | version => exact hcall (.inr rfl) rfl rfl
  | reportThrough handle => exact hcall (.inl rfl) rfl rfl
  | versionThrough handle => exact hcall (.inr rfl) rfl rfl
  | connect options =>
      -- A connection is a start, up to the handle that it gives out.
      have hstart : Effect loader w s (.connect options) .noHandle (s.start loader w options).2 :=
        effect_start rfl rfl rfl rfl
      simp only [step, connect_eq]
      refine ⟨hstart.bootstrap, hstart.outcome, hstart.handed, hstart.called, ?_, ?_⟩
      · rw [hstart.handles, Reply.handle?_connect]
        simp [Reply.handle?]
      · intro loaded hgiven
        rw [Reply.handle?_connect, toOption_eq_some_iff] at hgiven
        exact (outcome_start loader w s options).trans (congrArg some hgiven)

theorem sound_step {s : SharedSession} (hs : Sound s) (w : World) (request : Request) :
    Sound (s.step loader w request).2 := by
  have heffect := step_effect loader hs w request
  constructor
  · intro loaded hloaded
    rw [heffect.handles, List.mem_append, Option.mem_toList] at hloaded
    rcases hloaded with hold | hnew
    · rw [heffect.outcome, hs.handles loaded hold, Option.some_or]
    · exact heffect.given loaded hnew
  · intro hnone
    have hbefore := heffect.outcome
    rw [hnone] at hbefore
    rw [heffect.handed hnone, hs.handed (Option.or_eq_none_iff.1 hbefore.symm).1]

/-! ## Replies -/

/-- The error that the reply to a call tells. -/
def Reply.failure? : Reply → Option CallError
  | .report (.error error) | .version (.error error) => some error
  | _ => none

theorem step_report_value (w : World) (s : SharedSession) :
    (s.step loader w .report).1.value =
      .report (s.libraries.bind fun loaded => loaded.report.1.value) := by
  simp only [step, reportThrough]
  cases s.libraries <;> rfl

theorem step_version_value (w : World) (s : SharedSession) :
    (s.step loader w .version).1.value =
      .version (s.libraries.bind fun loaded => loaded.version.1) := by
  simp only [step, versionThrough]
  cases s.libraries <;> rfl

/-- A start tells the outcome that it leaves. -/
theorem step_start_value (w : World) (s : SharedSession) :
    ∃ outcome, (s.step loader w .start).2.outcome = some outcome ∧
      (s.step loader w .start).1.value = .start (outcome.map fun _ => ()) :=
  ⟨_, outcome_start loader w s .default, rfl⟩

/-- A connection tells the outcome that it leaves. -/
theorem step_connect_value (w : World) (s : SharedSession) (options : BootstrapOptions) :
    ∃ outcome, (s.step loader w (.connect options)).2.outcome = some outcome ∧
      (s.step loader w (.connect options)).1.value =
        .connect (outcome.mapError fun error => .notInitialized (some error)) := by
  simp only [step, connect_eq]
  exact ⟨_, outcome_start loader w s options, rfl⟩

/-- A call fails for want of libraries exactly if there is no outcome or it is an error, and tells
which. -/
theorem libraries_bind_eq_error_iff {α : Type} (s : SharedSession)
    {call : Loaded → Except CallError α}
    (hcall : ∀ loaded cause, call loaded ≠ .error (.notInitialized cause))
    (cause : Option BootstrapError) :
    s.libraries.bind call = .error (.notInitialized cause) ↔
      s.outcome = none ∧ cause = none ∨
        ∃ error, s.outcome = some (.error error) ∧ cause = some error := by
  rw [libraries_eq]
  rcases s.outcome with _ | error | loaded
  · simp [Session.libraries, Except.bind, eq_comm]
  · simp [Session.libraries, Except.bind, eq_comm]
  · simp [Session.libraries, Except.bind, hcall]

theorem step_failure?_iff {request : Request} (h : request = .report ∨ request = .version)
    (w : World) (s : SharedSession) (cause : Option BootstrapError) :
    (s.step loader w request).1.value.failure? = some (.notInitialized cause) ↔
      s.outcome = none ∧ cause = none ∨
        ∃ error, s.outcome = some (.error error) ∧ cause = some error := by
  rcases h with rfl | rfl
  · rw [step_report_value, ← libraries_bind_eq_error_iff s Loaded.report_ne_notInitialized]
    cases s.libraries.bind fun loaded => loaded.report.1.value <;> simp [Reply.failure?]
  · rw [step_version_value, ← libraries_bind_eq_error_iff s Loaded.version_ne_notInitialized]
    cases s.libraries.bind fun loaded => loaded.version.1 <;> simp [Reply.failure?]

/-- A call through a handle is the call without it. -/
theorem step_through {s : SharedSession} (hs : Sound s) {handle : Nat} {loaded : Loaded}
    (h : s.handles[handle]? = some loaded) (w : World) :
    s.step loader w (.reportThrough handle) = s.step loader w .report ∧
      s.step loader w (.versionThrough handle) = s.step loader w .version := by
  have hlibraries : s.libraries = .ok loaded :=
    libraries_eq_ok_iff.2 (hs.handles loaded (List.mem_of_getElem? h))
  simp only [step, h, hlibraries, and_self]

/-! ## Runs -/

/-- The shared session after requests. -/
def after (steps : List (World × Request)) : SharedSession := (run loader fresh steps).2

/-- The replies to requests. -/
def replies (steps : List (World × Request)) : List (Logged Reply) := (run loader fresh steps).1

/-- The reply to a request after others. -/
def answer (steps : List (World × Request)) (w : World) (request : Request) : Reply :=
  ((after loader steps).step loader w request).1.value

theorem after_snoc (steps : List (World × Request)) (w : World) (request : Request) :
    after loader (steps ++ [(w, request)]) = ((after loader steps).step loader w request).2 := by
  rw [after, run_append]
  rfl

theorem replies_append (steps rest : List (World × Request)) :
    replies loader (steps ++ rest) =
      replies loader steps ++ (run loader (after loader steps) rest).1 :=
  congrArg Prod.fst (run_append loader fresh steps rest)

/-- A shared session is what these requests tell. -/
structure Told (steps : List (World × Request)) (s : SharedSession) : Prop where
  sound : Sound s
  bootstrap : s.bootstrap = bootstrap? loader steps
  outcome : s.outcome = attempted? loader steps
  handles : s.handles = obtained (replies loader steps)
  called : (∀ loaded, attempted? loader steps ≠ some (.ok loaded)) → s.called = []

/-- **A run leaves what its requests tell.** -/
theorem told_after (steps : List (World × Request)) : Told loader steps (after loader steps) := by
  -- Requests are added at the end: the attempt is told from all that came before.
  induction steps using List.reverseRecOn with
  | nil => exact ⟨sound_fresh, rfl, rfl, rfl, fun _ => rfl⟩
  | append_singleton steps entry ih =>
      obtain ⟨w, request⟩ := entry
      have heffect := step_effect loader ih.sound w request
      rw [after_snoc]
      have hbootstrap : ((after loader steps).step loader w request).2.bootstrap =
          bootstrap? loader (steps ++ [(w, request)]) := by
        rw [heffect.bootstrap, ih.bootstrap, bootstrap?_append]
        simp [bootstrap?]
      refine ⟨sound_step loader ih.sound w request, hbootstrap, ?_, ?_, ?_⟩
      · rw [heffect.outcome, attempted?_snoc, hbootstrap, ← ih.outcome]
        -- With an outcome at hand the attempt is not made, so what was handed over plays no part.
        cases hout : (after loader steps).outcome with
        | some outcome => rfl
        | none => rw [ih.sound.handed hout]
      · rw [heffect.handles, ih.handles, replies_append, obtained_append, ← obtained_singleton]
        rfl
      · intro hnot
        have hbefore : ∀ loaded, attempted? loader steps ≠ some (.ok loaded) := by
          intro loaded hloaded
          exact hnot loaded (attempted?_append loader hloaded _)
        rw [heffect.called, ih.called hbefore,
          target_of_not_ready ih.sound (ih.outcome ▸ hbefore) request]
        rfl

/-! ## Main statement -/

/-- **Calls into the libraries need a start that succeeded.** After any requests, to a shared session
in which nothing had happened before:

* There was an attempt exactly if some request started the session, and what it came to stays.
* The session is ready exactly if the attempt succeeded. Unless it did, no call was made into the
  libraries so far, nor does any next request make one.
* Without a handle, a report or a version query says that the libraries are not initialized, with no
  error, exactly if there was no attempt, and with an error exactly if the attempt failed with it.
* A start, and a connection, tell what the attempt came to: with the same error if it failed.
* If the attempt succeeded, reports and version queries are answered by the libraries that it loaded,
  and these are the only calls.
* Each handle that was given out holds these libraries. However the run goes on, a call through the
  handle is the same as the call without it, in its reply, its events and what it leaves behind. -/
theorem calls_need_readiness (steps : List (World × Request)) (w : World) :
    ((attempted? loader steps = none ↔ ∀ entry ∈ steps, entry.2.starts = false) ∧
      ∀ outcome, attempted? loader steps = some outcome →
        ∀ rest, attempted? loader (steps ++ rest) = some outcome) ∧
    ((after loader steps).phase = .ready ↔
      ∃ loaded, attempted? loader steps = some (.ok loaded)) ∧
    ((∀ loaded, attempted? loader steps ≠ some (.ok loaded)) →
      (after loader steps).called = [] ∧
        ∀ request, (after loader (steps ++ [(w, request)])).called = []) ∧
    (∀ request, request = .report ∨ request = .version →
      ((answer loader steps w request).failure? = some (.notInitialized none) ↔
        attempted? loader steps = none) ∧
      ∀ error, (answer loader steps w request).failure? = some (.notInitialized (some error)) ↔
        attempted? loader steps = some (.error error)) ∧
    (∃ outcome, attempted? loader (steps ++ [(w, .start)]) = some outcome ∧
      answer loader steps w .start = .start (outcome.map fun _ => ())) ∧
    (∀ options, ∃ outcome,
      attempted? loader (steps ++ [(w, .connect options)]) = some outcome ∧
      answer loader steps w (.connect options) =
        .connect (outcome.mapError fun error => .notInitialized (some error))) ∧
    (∀ loaded, attempted? loader steps = some (.ok loaded) →
      answer loader steps w .report = .report loaded.report.1.value ∧
      answer loader steps w .version = .version loaded.version.1 ∧
      ∀ request, request.IsDirect →
        (after loader (steps ++ [(w, request)])).called =
          (after loader steps).called ++ request.calls loaded) ∧
    ∀ handle loaded, (obtained (replies loader steps))[handle]? = some loaded → ∀ rest,
      attempted? loader (steps ++ rest) = some (.ok loaded) ∧
      (after loader (steps ++ rest)).step loader w (.reportThrough handle) =
        (after loader (steps ++ rest)).step loader w .report ∧
      (after loader (steps ++ rest)).step loader w (.versionThrough handle) =
        (after loader (steps ++ rest)).step loader w .version := by
  have htold := told_after loader steps
  refine ⟨⟨attempted?_eq_none_iff loader steps, fun outcome => attempted?_append loader⟩, ?_, ?_, ?_,
    ?_, ?_, ?_, ?_⟩
  · rw [phase_eq, htold.outcome]
    rcases attempted? loader steps with _ | error | loaded <;> simp [Session.phase]
  · intro hnot
    refine ⟨htold.called hnot, ?_⟩
    -- The request has no libraries to call, also if it is the one that brings them up.
    intro request
    rw [after_snoc, (step_effect loader htold.sound w request).called, htold.called hnot,
      target_of_not_ready htold.sound (htold.outcome ▸ hnot)]
    rfl
  · intro request hrequest
    have hiff := step_failure?_iff loader hrequest w (after loader steps)
    rw [htold.outcome] at hiff
    refine ⟨(hiff none).trans ?_, fun error => (hiff (some error)).trans ?_⟩
    · simp
    · simp
  · obtain ⟨outcome, hout, hreply⟩ := step_start_value loader w (after loader steps)
    rw [← after_snoc, (told_after loader _).outcome] at hout
    exact ⟨outcome, hout, hreply⟩
  · intro options
    obtain ⟨outcome, hout, hreply⟩ := step_connect_value loader w (after loader steps) options
    rw [← after_snoc, (told_after loader _).outcome] at hout
    exact ⟨outcome, hout, hreply⟩
  · intro loaded hloaded
    rw [← htold.outcome] at hloaded
    refine ⟨?_, ?_, ?_⟩
    · rw [answer, step_report_value, libraries_eq_ok_iff.2 hloaded]
      rfl
    · rw [answer, step_version_value, libraries_eq_ok_iff.2 hloaded]
      rfl
    · intro request hdirect
      rw [after_snoc, (step_effect loader htold.sound w request).called,
        calls_of_ready hloaded hdirect]
  · intro handle loaded hhandle rest
    have hrest := told_after loader (steps ++ rest)
    have hgiven : (after loader (steps ++ rest)).handles[handle]? = some loaded := by
      rw [hrest.handles, replies_append, obtained_append,
        List.getElem?_append_left (List.getElem?_eq_some_iff.1 hhandle).1]
      exact hhandle
    rw [← hrest.outcome]
    exact ⟨hrest.sound.handles loaded (List.mem_of_getElem? hgiven),
      step_through loader hrest.sound hgiven w⟩

/-- The small installation is connected to, and connected to again when it is gone. -/
def twoConnections : List (World × Request) :=
  [(installedWorld, .connect sampleOptions), (bareWorld, .connect .default)]

/-- Before the two connections a report says that there was no attempt. After them, and after whatever
else is asked, a report through the second handle is a report without one. -/
theorem calls_need_readiness_of_two_connections :
    (answer (.scripted []) [] bareWorld .report).failure? = some (.notInitialized none) ∧
    ∃ loaded, attempted? (.scripted []) twoConnections = some (.ok loaded) ∧
      answer (.scripted []) twoConnections bareWorld .report = .report loaded.report.1.value ∧
      (obtained (replies (.scripted []) twoConnections))[1]? = some loaded ∧
      ∀ rest, (after (.scripted []) (twoConnections ++ rest)).step (.scripted []) bareWorld
          (.reportThrough 1) =
        (after (.scripted []) (twoConnections ++ rest)).step (.scripted []) bareWorld .report := by
  obtain ⟨-, -, -, hcalls, -⟩ := calls_need_readiness (.scripted []) [] bareWorld
  obtain ⟨loaded, hgiven⟩ : ∃ loaded,
      (obtained (replies (.scripted []) twoConnections))[1]? = some loaded :=
    Option.isSome_iff_exists.1 (by decide +kernel)
  obtain ⟨-, -, -, -, -, -, hready, hhandles⟩ :=
    calls_need_readiness (.scripted []) twoConnections bareWorld
  obtain ⟨hup, -⟩ := hhandles 1 loaded hgiven []
  rw [List.append_nil] at hup
  obtain ⟨hreport, -⟩ := hready loaded hup
  exact ⟨(hcalls .report (.inl rfl)).1.2 rfl, loaded, hup, hreport, hgiven,
    fun rest => (hhandles 1 loaded hgiven rest).2.1⟩

end SharedSession

end NativeBootstrap
