import Mathlib.Data.List.Forall2
import NativeBootstrap.Proofs.Session.OneShot
import NativeBootstrap.SharedSession

/-!
# A shared session is one session of one bootstrap

The first request that needs a bootstrap installs one, with its own options (`Request.options?`).
Before that request nothing exists (`Uninstalled`). From it on, each request comes down to a request
to one session of that bootstrap (`Request.asks`), and its reply says what that session replies
(`Tells`): the shared session is the session of the one bootstrap at every moment
(`step_of_installed`). The options of later requests are not looked at (`step_withOptions`), so two
runs that differ in nothing else are one and the same.

The main statement is `shared_session_is_one_bootstrap`. It speaks of the requests that are made
without a handle.
-/

set_option autoImplicit false

namespace NativeBootstrap.SharedSession

/-! ## Requests -/

namespace Request

/-- The options with which a request installs a bootstrap, if it needs one. -/
def options? : Request → Option BootstrapOptions
  | .install options => some options
  | .resolve options => some options
  | .start => some .default
  | .connect options => some options
  | .phase | .report | .version | .reportThrough _ | .versionThrough _ => none

/-- The request with other options, if it has any. -/
def withOptions (options : BootstrapOptions) : Request → Request
  | .install _ => .install options
  | .resolve _ => .resolve options
  | .connect _ => .connect options
  | request => request

/-- Whether a request is made without a handle. -/
def IsDirect : Request → Prop
  | .reportThrough _ | .versionThrough _ => False
  | _ => True

theorem isDirect_or (request : Request) :
    request.IsDirect ∨ (∃ handle, request = .reportThrough handle) ∨
      ∃ handle, request = .versionThrough handle := by
  cases request <;> simp [IsDirect]

/-- What a request comes down to in one session. Who installs a bootstrap sees its phase. -/
def asks : Request → Session.Request
  | .install _ | .phase => .phase
  | .resolve _ => .resolve
  | .start | .connect _ => .start
  | .report | .reportThrough _ => .report
  | .version | .versionThrough _ => .version

end Request

/-- The replies while there is no bootstrap. -/
inductive Uninstalled : Request → Reply → Prop where
  | phase : Uninstalled .phase (.phase .unstarted)
  | report : Uninstalled .report (.report (.error (.notInitialized none)))
  | version : Uninstalled .version (.version (.error (.notInitialized none)))
  | reportThrough (handle : Nat) : Uninstalled (.reportThrough handle) .noHandle
  | versionThrough (handle : Nat) : Uninstalled (.versionThrough handle) .noHandle

/-- The reply to a request says what a session of the bootstrap replies to what the request comes
down to. -/
inductive Tells (b : Bootstrap) : Request → Session.Reply → Reply → Prop where
  | install (options : BootstrapOptions) (phase : Phase) :
      Tells b (.install options) (.phase phase) (.install b.host phase)
  | resolve (options : BootstrapOptions) (result : Except BootstrapError LoadPlan) :
      Tells b (.resolve options) (.resolve result) (.resolve result)
  | start_ok (loaded : Loaded) : Tells b .start (.start (.ok loaded)) (.start (.ok ()))
  | start_error (error : BootstrapError) :
      Tells b .start (.start (.error error)) (.start (.error error))
  | phase (phase : Phase) : Tells b .phase (.phase phase) (.phase phase)
  | report (result : Except CallError Unit) : Tells b .report (.report result) (.report result)
  | version (result : Except CallError LibraryVersion) :
      Tells b .version (.version result) (.version result)
  | connect_ok (options : BootstrapOptions) (loaded : Loaded) :
      Tells b (.connect options) (.start (.ok loaded)) (.connect (.ok loaded))
  | connect_error (options : BootstrapOptions) (error : BootstrapError) :
      Tells b (.connect options) (.start (.error error))
        (.connect (.error (.notInitialized (some error))))

variable (loader : Loader)

/-! ## One request -/

/-- While there is no bootstrap, a request that needs none is answered so, and changes nothing. -/
theorem step_of_uninstalled (w : World) {request : Request} (h : request.options? = none) :
    Uninstalled request (fresh.step loader w request).1.value ∧
      (fresh.step loader w request).2 = fresh := by
  cases request with
  | install options => cases h
  | resolve options => cases h
  | start => cases h
  | connect options => cases h
  | phase => exact ⟨.phase, rfl⟩
  | report => exact ⟨.report, rfl⟩
  | version => exact ⟨.version, rfl⟩
  | reportThrough handle => exact ⟨.reportThrough handle, rfl⟩
  | versionThrough handle => exact ⟨.versionThrough handle, rfl⟩

/-- A request that needs a bootstrap does what it does when its own is there already. -/
theorem step_of_options {request : Request} {options : BootstrapOptions}
    (h : request.options? = some options) {s : SharedSession} (hs : s.installed = none) (w : World) :
    s.step loader w request =
      step loader w { s with installed := some ⟨.ofOptions loader w options, .fresh⟩ } request := by
  cases request with
  | install own =>
      cases h
      simp only [step, install, hs]
  | resolve own =>
      cases h
      simp only [step, install, hs]
  | start =>
      cases h
      simp only [step, start, install, hs]
  | connect own =>
      cases h
      simp only [step, connect, start, install, hs]
  | phase => cases h
  | report => cases h
  | version => cases h
  | reportThrough handle => cases h
  | versionThrough handle => cases h

section Installed

variable {b : Bootstrap} {s : SharedSession} {t : Session}

theorem withInstalled_eq (h : s.installed = some ⟨b, t⟩) :
    { s with installed := some ⟨b, t⟩ } = s := by
  rw [← h]

theorem noteCalls_installed (h : s.installed = some ⟨b, t⟩) (calls : List ForeignCall) :
    (s.noteCalls calls).installed = some ⟨b, { t with called := t.called ++ calls }⟩ := by
  unfold noteCalls
  rw [h]
  rfl

theorem libraries_of_installed (h : s.installed = some ⟨b, t⟩) : s.libraries = t.libraries := by
  unfold libraries
  rw [h]

theorem install_of_installed (h : s.installed = some ⟨b, t⟩) (w : World)
    (options : BootstrapOptions) : s.install loader w options = (⟨b, t⟩, s) := by
  unfold install
  rw [h]

theorem start_of_installed (h : s.installed = some ⟨b, t⟩) (w : World)
    (options : BootstrapOptions) :
    s.start loader w options =
      ((t.start b w).1, { s with installed := some ⟨b, (t.start b w).2⟩ }) := by
  simp only [start, install_of_installed loader h]

theorem reportThrough_of_installed (h : s.installed = some ⟨b, t⟩) :
    s.reportThrough s.libraries = (t.report.1, { s with installed := some ⟨b, t.report.2⟩ }) := by
  rw [libraries_of_installed h]
  unfold reportThrough Session.report
  cases t.libraries with
  | error error => rw [withInstalled_eq h]
  | ok loaded =>
      simp only [noteCalls, h]
      rfl

theorem versionThrough_of_installed (h : s.installed = some ⟨b, t⟩) :
    s.versionThrough s.libraries =
      (t.version.1, { s with installed := some ⟨b, t.version.2⟩ }) := by
  rw [libraries_of_installed h]
  unfold versionThrough Session.version
  cases t.libraries with
  | error error => rw [withInstalled_eq h]
  | ok loaded =>
      simp only [noteCalls, h]
      rfl

/-- **The shared session is one session.** A request is answered with the reply of the session of the
installed bootstrap, with the same events, and moves that session as it would move by itself. -/
theorem step_of_installed (h : s.installed = some ⟨b, t⟩) (w : World) {request : Request}
    (hdirect : request.IsDirect) :
    Tells b request (t.step b w request.asks).1.value (s.step loader w request).1.value ∧
      (s.step loader w request).1.events = (t.step b w request.asks).1.events ∧
      (s.step loader w request).2.installed = some ⟨b, (t.step b w request.asks).2⟩ := by
  cases request with
  | install options =>
      simp only [step, install_of_installed loader h]
      exact ⟨.install options t.phase, rfl, h⟩
  | resolve options =>
      simp only [step, install_of_installed loader h]
      exact ⟨.resolve options (b.resolve w).value, rfl, h⟩
  | start =>
      simp only [step, start_of_installed loader h]
      refine ⟨?_, rfl, rfl⟩
      show Tells b .start (.start (t.start b w).1.value) _
      cases (t.start b w).1.value with
      | ok loaded => exact .start_ok loaded
      | error error => exact .start_error error
  | phase =>
      have hphase : s.phase = t.phase := by
        unfold phase
        rw [h]
      simp only [step, hphase]
      exact ⟨.phase t.phase, rfl, h⟩
  | report =>
      simp only [step, reportThrough_of_installed h]
      exact ⟨.report t.report.1.value, rfl, rfl⟩
  | version =>
      simp only [step, versionThrough_of_installed h]
      exact ⟨.version t.version.1, rfl, rfl⟩
  | connect options =>
      simp only [step, connect, start_of_installed loader h]
      show Tells b (.connect options) (.start (t.start b w).1.value) _ ∧ _ = (t.start b w).1.events ∧
        _ = some (Installed.mk b (t.start b w).2)
      cases (t.start b w).1 with
      | mk value events =>
          cases value with
          | ok loaded => exact ⟨.connect_ok options loaded, rfl, rfl⟩
          | error error => exact ⟨.connect_error options error, rfl, rfl⟩
  | reportThrough handle => exact hdirect.elim
  | versionThrough handle => exact hdirect.elim

/-- With a bootstrap installed, the options of a request are not looked at. -/
theorem step_withOptions (h : s.installed = some ⟨b, t⟩) (w : World) (request : Request)
    (options : BootstrapOptions) :
    s.step loader w (request.withOptions options) = s.step loader w request := by
  cases request with
  | install own => simp only [Request.withOptions, step, install_of_installed loader h]
  | resolve own => simp only [Request.withOptions, step, install_of_installed loader h]
  | connect own => simp only [Request.withOptions, step, connect, start_of_installed loader h]
  | start => rfl
  | phase => rfl
  | report => rfl
  | version => rfl
  | reportThrough handle => rfl
  | versionThrough handle => rfl

/-- A bootstrap that is installed stays. -/
theorem exists_installed_step (h : s.installed = some ⟨b, t⟩) (w : World) (request : Request) :
    ∃ t', (s.step loader w request).2.installed = some ⟨b, t'⟩ := by
  rcases request.isDirect_or with hdirect | ⟨handle, rfl⟩ | ⟨handle, rfl⟩
  · exact ⟨_, (step_of_installed loader h w hdirect).2.2⟩
  · cases hhandle : s.handles[handle]? with
    | none => exact ⟨t, by simpa only [step, hhandle] using h⟩
    | some loaded =>
        simp only [step, hhandle]
        exact ⟨_, noteCalls_installed h loaded.report.2⟩
  · cases hhandle : s.handles[handle]? with
    | none => exact ⟨t, by simpa only [step, hhandle] using h⟩
    | some loaded =>
        simp only [step, hhandle]
        exact ⟨_, noteCalls_installed h loaded.version.2⟩

end Installed

/-! ## Many requests -/

theorem run_cons (s : SharedSession) (w : World) (request : Request)
    (rest : List (World × Request)) :
    run loader s ((w, request) :: rest) =
      ((s.step loader w request).1 :: (run loader (s.step loader w request).2 rest).1,
        (run loader (s.step loader w request).2 rest).2) :=
  rfl

theorem run_append (s : SharedSession) (first second : List (World × Request)) :
    run loader s (first ++ second) =
      ((run loader s first).1 ++ (run loader (run loader s first).2 second).1,
        (run loader (run loader s first).2 second).2) := by
  induction first generalizing s with
  | nil => rfl
  | cons entry rest ih =>
      obtain ⟨w, request⟩ := entry
      rw [List.cons_append, run_cons, run_cons, ih]
      rfl

theorem run_of_uninstalled (steps : List (World × Request))
    (h : ∀ entry ∈ steps, entry.2.options? = none) :
    List.Forall₂ (fun entry reply => Uninstalled entry.2 reply.value) steps
        (run loader fresh steps).1 ∧
      (run loader fresh steps).2 = fresh := by
  induction steps with
  | nil => exact ⟨.nil, rfl⟩
  | cons entry rest ih =>
      obtain ⟨w, request⟩ := entry
      obtain ⟨hreply, hs⟩ := step_of_uninstalled loader w (h (w, request) List.mem_cons_self)
      obtain ⟨hreplies, hs'⟩ := ih fun entry he => h entry (List.mem_cons_of_mem _ he)
      rw [run_cons, hs]
      exact ⟨.cons hreply hreplies, hs'⟩

/-- What requests come down to in one session, each in its own world. -/
def asked (steps : List (World × Request)) : List (World × Session.Request) :=
  steps.map fun entry => (entry.1, entry.2.asks)

/-- Request by request, the replies of the shared session are those of the one session. -/
theorem run_of_installed {b : Bootstrap} {s : SharedSession} {t : Session}
    (h : s.installed = some ⟨b, t⟩) (steps : List (World × Request))
    (hdirect : ∀ entry ∈ steps, entry.2.IsDirect) :
    List.Forall₂
        (fun entry reply => Tells b entry.1.2 entry.2.value reply.value ∧
          reply.events = entry.2.events)
        (steps.zip (Session.run b t (asked steps)).1) (run loader s steps).1 ∧
      (run loader s steps).2.installed = some ⟨b, (Session.run b t (asked steps)).2⟩ := by
  induction steps generalizing s t with
  | nil => exact ⟨.nil, h⟩
  | cons entry rest ih =>
      obtain ⟨w, request⟩ := entry
      obtain ⟨hreply, hevents, hs⟩ :=
        step_of_installed loader h w (hdirect (w, request) List.mem_cons_self)
      obtain ⟨hreplies, hs'⟩ := ih hs fun entry he => hdirect entry (List.mem_cons_of_mem _ he)
      exact ⟨.cons ⟨hreply, hevents⟩ hreplies, hs'⟩

/-- Requests with other options in place of theirs, the same for all. -/
def withOptions (options : BootstrapOptions) (steps : List (World × Request)) :
    List (World × Request) :=
  steps.map fun entry => (entry.1, entry.2.withOptions options)

theorem run_withOptions {b : Bootstrap} {s : SharedSession} {t : Session}
    (h : s.installed = some ⟨b, t⟩) (options : BootstrapOptions) (steps : List (World × Request)) :
    run loader s (withOptions options steps) = run loader s steps := by
  induction steps generalizing s t with
  | nil => rfl
  | cons entry rest ih =>
      obtain ⟨w, request⟩ := entry
      obtain ⟨t', hs⟩ := exists_installed_step loader h w request
      show run loader s ((w, request.withOptions options) :: withOptions options rest) = _
      rw [run_cons, run_cons, step_withOptions loader h, ih hs]

/-! ## Main statement -/

/-- **A shared session is one bootstrap, with the options of the first who needs one.** Up to the
first request that needs a bootstrap every reply is that of a session without one, and nothing is
created. That request installs a bootstrap with its options, or with none if it has none to give; it
and all after it, in whatever worlds, are answered as one session of that bootstrap answers what they
come down to, with the same events, and what is installed at the end is that bootstrap with that
session. Runs that differ only in the options of later requests have the same replies and the same
end. -/
theorem shared_session_is_one_bootstrap (before : List (World × Request)) (w : World)
    (first : Request) (options : BootstrapOptions) (after : List (World × Request))
    (hbefore : ∀ entry ∈ before, entry.2.options? = none)
    (hfirst : first.options? = some options) :
    (List.Forall₂ (fun entry reply => Uninstalled entry.2 reply.value) before
        (run loader fresh before).1 ∧
      (run loader fresh before).2 = fresh) ∧
    ((∀ entry ∈ (w, first) :: after, entry.2.IsDirect) →
      ∃ replies,
        (run loader fresh (before ++ (w, first) :: after)).1 =
          (run loader fresh before).1 ++ replies ∧
        List.Forall₂
          (fun entry reply => Tells (.ofOptions loader w options) entry.1.2 entry.2.value reply.value ∧
            reply.events = entry.2.events)
          (((w, first) :: after).zip
            (Session.run (.ofOptions loader w options) .fresh (asked ((w, first) :: after))).1)
          replies ∧
        (run loader fresh (before ++ (w, first) :: after)).2.installed =
          some ⟨.ofOptions loader w options,
            (Session.run (.ofOptions loader w options) .fresh (asked ((w, first) :: after))).2⟩) ∧
    ∀ other, withOptions .default other = withOptions .default after →
      run loader fresh (before ++ (w, first) :: other) =
        run loader fresh (before ++ (w, first) :: after) := by
  obtain ⟨hreplies, hs⟩ := run_of_uninstalled loader before hbefore
  -- The first request is the first one to a session that has its bootstrap installed already.
  have hrun : ∀ rest, run loader fresh ((w, first) :: rest) =
      run loader ⟨some ⟨.ofOptions loader w options, .fresh⟩, []⟩ ((w, first) :: rest) := by
    intro rest
    rw [run_cons, run_cons, step_of_options loader hfirst rfl]
    rfl
  refine ⟨⟨hreplies, hs⟩, ?_, ?_⟩
  · intro hdirect
    obtain ⟨htells, hinstalled⟩ :=
      run_of_installed loader
        (s := ⟨some ⟨.ofOptions loader w options, .fresh⟩, []⟩) rfl ((w, first) :: after) hdirect
    rw [run_append, hs, hrun]
    exact ⟨_, rfl, htells, hinstalled⟩
  · intro other hother
    rw [run_append, run_append, hs, hrun, hrun, run_cons, run_cons]
    obtain ⟨t, hinstalled⟩ := exists_installed_step loader
      (s := ⟨some ⟨.ofOptions loader w options, .fresh⟩, []⟩) rfl w first
    rw [← run_withOptions loader hinstalled .default other, hother,
      run_withOptions loader hinstalled]

/-- Options that choose the host and the artifact of the small installation. -/
def sampleOptions : BootstrapOptions := ⟨some sampleHost, some (.ofString "/my%20app/bin/shim.jar")⟩

/-- A session that is looked at, connected to with the options of the small installation, and connected
to again with options that choose nothing: it is ready, as it would be with any options there. -/
theorem shared_session_is_one_bootstrap_of_second_connect :
    (∀ entry ∈ [(bareWorld, Request.phase)], entry.2.options? = none) ∧
    (∀ entry ∈ [(installedWorld, Request.connect sampleOptions), (bareWorld, .connect .default)],
      entry.2.IsDirect) ∧
    (∃ t : Session,
      (run (.scripted []) fresh ([(bareWorld, .phase)] ++
        (installedWorld, .connect sampleOptions) :: [(bareWorld, .connect .default)])).2.installed =
          some ⟨.ofOptions (.scripted []) installedWorld sampleOptions, t⟩ ∧ t.phase = .ready) ∧
    run (.scripted []) fresh ([(bareWorld, .phase)] ++
        (installedWorld, .connect sampleOptions) :: [(bareWorld, .connect sampleOptions)]) =
      run (.scripted []) fresh ([(bareWorld, .phase)] ++
        (installedWorld, .connect sampleOptions) :: [(bareWorld, .connect .default)]) := by
  have hbefore : ∀ entry ∈ [(bareWorld, Request.phase)], entry.2.options? = none := by
    intro entry hentry
    rw [List.mem_singleton.1 hentry]
    rfl
  have hdirect : ∀ entry ∈
      [(installedWorld, Request.connect sampleOptions), (bareWorld, .connect .default)],
      entry.2.IsDirect := by
    intro entry hentry
    simp only [List.mem_cons, List.not_mem_nil, or_false] at hentry
    rcases hentry with rfl | rfl <;> trivial
  obtain ⟨-, hone, hother⟩ := shared_session_is_one_bootstrap (.scripted []) [(bareWorld, .phase)]
    installedWorld (.connect sampleOptions) sampleOptions [(bareWorld, .connect .default)] hbefore rfl
  obtain ⟨replies, -, -, hinstalled⟩ := hone hdirect
  exact ⟨hbefore, hdirect, ⟨_, hinstalled, by decide +kernel⟩, hother _ rfl⟩

end NativeBootstrap.SharedSession
