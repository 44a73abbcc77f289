import Mathlib.Data.List.Forall2
import NativeBootstrap.Proofs.Session.Runs

/-!
# One outcome for each session

A run of a session has two parts. Up to the first `start` every reply is that of a session that was
never started, and the loader has been handed nothing (`Unstarted`). The first `start` makes the one
attempt, and from then on every reply is read off what that attempt came to (`Settled`): each later
`start` tells the same outcome, the phase and the libraries agree with it, and the paths handed to
the loader are those of the attempt. No request of the second part can undo this, whatever world it
meets, because an outcome at hand is never replaced (`run_of_settled`).

The main statement is `run_tells_one_outcome`. It holds for every bootstrap and every list of
requests, each in a world of its own.
-/

set_option autoImplicit false

namespace NativeBootstrap.Session

/-- The replies of a session that was never started. -/
inductive Unstarted (b : Bootstrap) : World × Request → Reply → Prop where
  | phase (w : World) : Unstarted b (w, .phase) (.phase .unstarted)
  | host (w : World) : Unstarted b (w, .host) (.host b.host)
  | resolve (w : World) : Unstarted b (w, .resolve) (.resolve (b.resolve w).value)
  | libraries (w : World) : Unstarted b (w, .libraries) (.libraries (.error (.notInitialized none)))
  | get (w : World) (name : String) :
      Unstarted b (w, .get name) (.get (.error (.notInitialized none)))
  | report (w : World) : Unstarted b (w, .report) (.report (.error (.notInitialized none)))
  | version (w : World) : Unstarted b (w, .version) (.version (.error (.notInitialized none)))

/-- The replies of a session with this outcome. -/
inductive Settled (b : Bootstrap) :
    Except BootstrapError Loaded → World × Request → Reply → Prop where
  | start (outcome : Except BootstrapError Loaded) (w : World) :
      Settled b outcome (w, .start) (.start outcome)
  | host (outcome : Except BootstrapError Loaded) (w : World) :
      Settled b outcome (w, .host) (.host b.host)
  | resolve (outcome : Except BootstrapError Loaded) (w : World) :
      Settled b outcome (w, .resolve) (.resolve (b.resolve w).value)
  | phase_ready (loaded : Loaded) (w : World) :
      Settled b (.ok loaded) (w, .phase) (.phase .ready)
  | phase_failed (error : BootstrapError) (w : World) :
      Settled b (.error error) (w, .phase) (.phase .failed)
  | libraries_ready (loaded : Loaded) (w : World) :
      Settled b (.ok loaded) (w, .libraries) (.libraries (.ok loaded))
  | libraries_failed (error : BootstrapError) (w : World) :
      Settled b (.error error) (w, .libraries) (.libraries (.error (.notInitialized (some error))))
  | get_ready (loaded : Loaded) (w : World) (name : String) :
      Settled b (.ok loaded) (w, .get name) (.get (loaded.get name))
  | get_failed (error : BootstrapError) (w : World) (name : String) :
      Settled b (.error error) (w, .get name) (.get (.error (.notInitialized (some error))))
  | report_ready (loaded : Loaded) (w : World) :
      Settled b (.ok loaded) (w, .report) (.report loaded.report.1.value)
  | report_failed (error : BootstrapError) (w : World) :
      Settled b (.error error) (w, .report) (.report (.error (.notInitialized (some error))))
  | version_ready (loaded : Loaded) (w : World) :
      Settled b (.ok loaded) (w, .version) (.version loaded.version.1)
  | version_failed (error : BootstrapError) (w : World) :
      Settled b (.error error) (w, .version) (.version (.error (.notInitialized (some error))))

variable (b : Bootstrap)

/-! ## Before the first start -/

/-- Without an outcome, a request that is no start is answered as in a session that was never
started, and changes nothing at all. -/
theorem step_of_pending {s : Session} (h : s.outcome = none) (w : World) {request : Request}
    (hr : request ≠ .start) :
    Unstarted b (w, request) (s.step b w request).1.value ∧ (s.step b w request).2 = s := by
  have hlib : s.libraries = .error (.notInitialized none) := by
    unfold libraries
    rw [h]
  cases request with
  | start => exact absurd rfl hr
  | phase =>
      have hphase : s.phase = .unstarted := by
        unfold phase
        rw [h]
      refine ⟨?_, rfl⟩
      show Unstarted b (w, .phase) (.phase s.phase)
      rw [hphase]
      exact .phase w
  | host => exact ⟨.host w, rfl⟩
  | resolve => exact ⟨.resolve w, rfl⟩
  | libraries =>
      refine ⟨?_, rfl⟩
      show Unstarted b (w, .libraries) (.libraries s.libraries)
      rw [hlib]
      exact .libraries w
  | get name =>
      refine ⟨?_, rfl⟩
      show Unstarted b (w, .get name) (.get (s.libraries.bind fun loaded => loaded.get name))
      rw [hlib]
      exact .get w name
  | report =>
      have hreport : s.report = (⟨.error (.notInitialized none), []⟩, s) := by
        unfold report
        rw [hlib]
      simp only [step, hreport]
      exact ⟨.report w, trivial⟩
  | version =>
      have hversion : s.version = (.error (.notInitialized none), s) := by
        unfold version
        rw [hlib]
      simp only [step, hversion]
      exact ⟨.version w, trivial⟩

theorem run_of_pending {s : Session} (h : s.outcome = none) (steps : List (World × Request))
    (hsteps : ∀ entry ∈ steps, entry.2 ≠ .start) :
    List.Forall₂ (fun entry reply => Unstarted b entry reply.value) steps (run b s steps).1 ∧
      (run b s steps).2 = s := by
  induction steps with
  | nil => exact ⟨.nil, rfl⟩
  | cons entry rest ih =>
      obtain ⟨w, request⟩ := entry
      obtain ⟨hreply, hs⟩ := step_of_pending b h w (hsteps (w, request) List.mem_cons_self)
      obtain ⟨hreplies, hs'⟩ := ih fun entry he => hsteps entry (List.mem_cons_of_mem _ he)
      rw [run_cons, hs]
      exact ⟨.cons hreply hreplies, hs'⟩

/-! ## From the first start on -/

/-- With an outcome at hand, every request is answered from it. -/
theorem reply_of_settled {s : Session} {outcome : Except BootstrapError Loaded}
    (h : s.outcome = some outcome) (w : World) (request : Request) :
    Settled b outcome (w, request) (s.step b w request).1.value := by
  cases request with
  | start =>
      show Settled b outcome (w, .start) (.start (s.start b w).1.value)
      rw [start_of_settled b h]
      exact .start outcome w
  | host => exact .host outcome w
  | resolve => exact .resolve outcome w
  | phase =>
      show Settled b outcome (w, .phase) (.phase s.phase)
      unfold phase
      rw [h]
      cases outcome with
      | ok loaded => exact .phase_ready loaded w
      | error error => exact .phase_failed error w
  | libraries =>
      show Settled b outcome (w, .libraries) (.libraries s.libraries)
      unfold libraries
      rw [h]
      cases outcome with
      | ok loaded => exact .libraries_ready loaded w
      | error error => exact .libraries_failed error w
  | get name =>
      show Settled b outcome (w, .get name) (.get (s.libraries.bind fun loaded => loaded.get name))
      unfold libraries
      rw [h]
      cases outcome with
      | ok loaded => exact .get_ready loaded w name
      | error error => exact .get_failed error w name
  | report =>
      show Settled b outcome (w, .report) (.report s.report.1.value)
      unfold report libraries
      rw [h]
      cases outcome with
      | ok loaded => exact .report_ready loaded w
      | error error => exact .report_failed error w
  | version =>
      show Settled b outcome (w, .version) (.version s.version.1)
      unfold version libraries
      rw [h]
      cases outcome with
      | ok loaded => exact .version_ready loaded w
      | error error => exact .version_failed error w

theorem replies_of_settled {s : Session} {outcome : Except BootstrapError Loaded}
    (h : s.outcome = some outcome) (steps : List (World × Request)) :
    List.Forall₂ (fun entry reply => Settled b outcome entry reply.value) steps
      (run b s steps).1 := by
  induction steps generalizing s with
  | nil => exact .nil
  | cons entry rest ih =>
      obtain ⟨w, request⟩ := entry
      rw [run_cons]
      exact .cons (reply_of_settled b h w request) (ih (step_of_settled b h w request).1)

/-- The first start answers with what the attempt comes to, and so does every request after it. -/
theorem run_of_first_start {s : Session} (h : s.outcome = none) (w : World)
    (after : List (World × Request)) :
    List.Forall₂ (fun entry reply => Settled b (attempt b w s.handed).value.1 entry reply.value)
        ((w, .start) :: after) (run b s ((w, .start) :: after)).1 ∧
      (run b s ((w, .start) :: after)).2.outcome = some (attempt b w s.handed).value.1 ∧
      (run b s ((w, .start) :: after)).2.handed = s.handed ++ (attempt b w s.handed).value.2 := by
  rw [run_cons]
  have hreply : (s.step b w .start).1.value = .start (attempt b w s.handed).value.1 := by
    show Reply.start (s.start b w).1.value = _
    rw [start_of_pending b h]
  have hout : (s.step b w .start).2.outcome = some (attempt b w s.handed).value.1 := by
    show (s.start b w).2.outcome = _
    rw [start_of_pending b h]
  have hhanded : (s.step b w .start).2.handed = s.handed ++ (attempt b w s.handed).value.2 := by
    show (s.start b w).2.handed = _
    rw [start_of_pending b h]
  obtain ⟨hout', hhanded'⟩ := run_of_settled b hout after
  refine ⟨.cons ?_ (replies_of_settled b hout after), hout', hhanded'.trans hhanded⟩
  rw [hreply]
  exact .start _ w

/-! ## Whole runs -/

/-- **A session has one outcome.** Up to the first start nothing happens: every reply is that of a
session that was never started, and the session is still the fresh one, with no path handed to the
loader. The first start makes the attempt in its own world; every reply from there on tells that
attempt's outcome, and the paths handed to the loader stay those of that attempt. -/
theorem run_tells_one_outcome (before : List (World × Request)) (w : World)
    (after : List (World × Request)) (hbefore : ∀ entry ∈ before, entry.2 ≠ .start) :
    (List.Forall₂ (fun entry reply => Unstarted b entry reply.value) before
        (run b fresh before).1 ∧
      (run b fresh before).2 = fresh) ∧
    ∃ replies,
      (run b fresh (before ++ (w, .start) :: after)).1 = (run b fresh before).1 ++ replies ∧
      List.Forall₂ (fun entry reply => Settled b (attempt b w []).value.1 entry reply.value)
        ((w, .start) :: after) replies ∧
      (run b fresh (before ++ (w, .start) :: after)).2.outcome =
        some (attempt b w []).value.1 ∧
      (run b fresh (before ++ (w, .start) :: after)).2.handed = (attempt b w []).value.2 := by
  obtain ⟨hreplies, hs⟩ := run_of_pending b (s := fresh) rfl before hbefore
  obtain ⟨hsettled, hout, hhanded⟩ := run_of_first_start b (s := fresh) rfl w after
  refine ⟨⟨hreplies, hs⟩, (run b fresh ((w, .start) :: after)).1, ?_, hsettled, ?_, ?_⟩
  · rw [run_append, hs]
  · rw [run_append, hs]
    exact hout
  · rw [run_append, hs]
    exact hhanded

/-- A session that is looked at, started, and started again after its libraries are gone: the outcome
of the first start stays. -/
theorem run_tells_one_outcome_of_removal :
    (∀ entry ∈ [(bareWorld, Request.phase)], entry.2 ≠ .start) ∧
    ∃ loaded,
      (run sampleBootstrap fresh ([(bareWorld, .phase)] ++
        (installedWorld, .start) :: [(bareWorld, .start), (bareWorld, .libraries)])).2.outcome =
          some (.ok loaded) ∧
      (attempt sampleBootstrap bareWorld []).value.1.isOk = false := by
  have hbefore : ∀ entry ∈ [(bareWorld, Request.phase)], entry.2 ≠ .start := by
    intro entry hentry
    rw [List.mem_singleton.1 hentry]
    exact nofun
  obtain ⟨loaded, hloaded⟩ := sample_attempt_succeeds
  obtain ⟨-, replies, -, -, hout, -⟩ :=
    run_tells_one_outcome sampleBootstrap [(bareWorld, .phase)] installedWorld
      [(bareWorld, .start), (bareWorld, .libraries)] hbefore
  exact ⟨hbefore, loaded, hout.trans (congrArg some hloaded), by decide +kernel⟩

end NativeBootstrap.Session
