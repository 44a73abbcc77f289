import NativeBootstrap.Proofs.Library.OrderedLoading
import NativeBootstrap.Session

/-!
# Runs of a session

What one request does to a session, stated once for all later proofs. A `start` is the only request
that settles an outcome or hands a path to the loader, and it does so only while there is no outcome
(`start_of_pending`, `start_of_settled`). Every other request leaves both as they are and at most
lengthens the ledger of calls (`step_of_ne_start`). A run of one list of requests after another is
the run of the two lists joined (`run_append`). Every path that a run hands to the loader is that of
an entry of a plan that resolving gives in one of the run's worlds (`mem_handed_run`).

The module ends with a small installation, which the instances of the main results are about.
-/

set_option autoImplicit false

namespace NativeBootstrap.Session

variable (b : Bootstrap)

/-! ## The attempt -/

/-- Where resolving fails, the attempt fails with the same error and hands nothing over. -/
theorem attempt_of_resolve_error {w : World} {error : BootstrapError}
    (h : (b.resolve w).value = .error error) (earlier : List Path) :
    (attempt b w earlier).value = (.error error, []) := by
  simp only [attempt, h]

/-- Where resolving gives a plan, the attempt loads that plan. -/
theorem attempt_of_resolve_ok {w : World} {plan : LoadPlan} (h : (b.resolve w).value = .ok plan)
    (earlier : List Path) : (attempt b w earlier).value = load b.loader w earlier plan := by
  simp only [attempt, h]

theorem mem_handed_attempt {w : World} {earlier : List Path} {path : Path}
    (h : path ∈ (attempt b w earlier).value.2) :
    ∃ plan, (b.resolve w).value = .ok plan ∧ path ∈ plan.entries.map PlanEntry.path := by
  cases hresolve : (b.resolve w).value with
  | error error =>
      rw [attempt_of_resolve_error b hresolve] at h
      cases h
  | ok plan =>
      rw [attempt_of_resolve_ok b hresolve] at h
      exact ⟨plan, rfl, (isPrefix_handed_load b.loader w earlier plan).subset h⟩

/-! ## One request -/

/-- A start with an outcome at hand tells it and does nothing. -/
theorem start_of_settled {s : Session} {outcome : Except BootstrapError Loaded}
    (h : s.outcome = some outcome) (w : World) : s.start b w = (⟨outcome, []⟩, s) := by
  unfold start
  rw [h]

/-- A start without an outcome makes the attempt and keeps what it comes to. -/
theorem start_of_pending {s : Session} (h : s.outcome = none) (w : World) :
    s.start b w =
      (⟨(attempt b w s.handed).value.1, (attempt b w s.handed).events⟩,
        { s with
          outcome := some (attempt b w s.handed).value.1
          handed := s.handed ++ (attempt b w s.handed).value.2 }) := by
  unfold start
  rw [h]

/-- A report changes nothing but the ledger of calls. -/
theorem report_session (s : Session) :
    ∃ calls, s.report.2 = { s with called := s.called ++ calls } := by
  unfold report
  cases s.libraries with
  | error error => exact ⟨[], by simp⟩
  | ok loaded => exact ⟨loaded.report.2, rfl⟩

/-- A version query changes nothing but the ledger of calls. -/
theorem version_session (s : Session) :
    ∃ calls, s.version.2 = { s with called := s.called ++ calls } := by
  unfold version
  cases s.libraries with
  | error error => exact ⟨[], by simp⟩
  | ok loaded => exact ⟨loaded.version.2, rfl⟩

/-- Every request but a start changes nothing but the ledger of calls. -/
theorem step_of_ne_start (s : Session) (w : World) {request : Request} (h : request ≠ .start) :
    ∃ calls, (s.step b w request).2 = { s with called := s.called ++ calls } := by
  cases request with
  | start => exact absurd rfl h
  | report => exact report_session s
  | version => exact version_session s
  | phase => exact ⟨[], by simp [step]⟩
  | host => exact ⟨[], by simp [step]⟩
  | resolve => exact ⟨[], by simp [step]⟩
  | libraries => exact ⟨[], by simp [step]⟩
  | get name => exact ⟨[], by simp [step]⟩

/-- Once there is an outcome, no request changes it or hands anything to the loader. -/
theorem step_of_settled {s : Session} {outcome : Except BootstrapError Loaded}
    (h : s.outcome = some outcome) (w : World) (request : Request) :
    (s.step b w request).2.outcome = some outcome ∧
      (s.step b w request).2.handed = s.handed := by
  by_cases hr : request = .start
  · subst hr
    have hs : (s.step b w .start).2 = s := by
      show (s.start b w).2 = s
      rw [start_of_settled b h]
    rw [hs]
    exact ⟨h, rfl⟩
  · obtain ⟨calls, hs⟩ := step_of_ne_start b s w hr
    rw [hs]
    exact ⟨h, rfl⟩

/-- A path handed over by a request is that of an entry of the plan of the moment. -/
theorem mem_handed_step {s : Session} {w : World} {request : Request} {path : Path}
    (h : path ∈ (s.step b w request).2.handed) :
    path ∈ s.handed ∨
      ∃ plan, (b.resolve w).value = .ok plan ∧ path ∈ plan.entries.map PlanEntry.path := by
  cases hout : s.outcome with
  | some outcome =>
      rw [(step_of_settled b hout w request).2] at h
      exact Or.inl h
  | none =>
      by_cases hr : request = .start
      · subst hr
        change path ∈ (s.start b w).2.handed at h
        rw [start_of_pending b hout] at h
        rcases List.mem_append.1 h with h | h
        · exact Or.inl h
        · exact Or.inr (mem_handed_attempt b h)
      · obtain ⟨calls, hs⟩ := step_of_ne_start b s w hr
        rw [hs] at h
        exact Or.inl h

/-! ## Many requests -/

theorem run_cons (s : Session) (w : World) (request : Request) (rest : List (World × Request)) :
    run b s ((w, request) :: rest) =
      ((s.step b w request).1 :: (run b (s.step b w request).2 rest).1,
        (run b (s.step b w request).2 rest).2) :=
  rfl

/-- A run gives one reply to each request. -/
theorem length_run (s : Session) (steps : List (World × Request)) :
    (run b s steps).1.length = steps.length := by
  induction steps generalizing s with
  | nil => rfl
  | cons entry rest ih =>
      obtain ⟨w, request⟩ := entry
      rw [run_cons, List.length_cons, List.length_cons, ih]

theorem run_append (s : Session) (first second : List (World × Request)) :
    run b s (first ++ second) =
      ((run b s first).1 ++ (run b (run b s first).2 second).1,
        (run b (run b s first).2 second).2) := by
  induction first generalizing s with
  | nil => rfl
  | cons entry rest ih =>
      obtain ⟨w, request⟩ := entry
      rw [List.cons_append, run_cons, run_cons, ih]
      rfl

/-- Once there is an outcome, no run changes it or hands anything to the loader. -/
theorem run_of_settled {s : Session} {outcome : Except BootstrapError Loaded}
    (h : s.outcome = some outcome) (steps : List (World × Request)) :
    (run b s steps).2.outcome = some outcome ∧ (run b s steps).2.handed = s.handed := by
  induction steps generalizing s with
  | nil => exact ⟨h, rfl⟩
  | cons entry rest ih =>
      obtain ⟨w, request⟩ := entry
      obtain ⟨hout, hhanded⟩ := step_of_settled b h w request
      obtain ⟨hout', hhanded'⟩ := ih hout
      rw [run_cons]
      exact ⟨hout', hhanded'.trans hhanded⟩

theorem mem_handed_run {s : Session} {steps : List (World × Request)} {path : Path}
    (h : path ∈ (run b s steps).2.handed) :
    path ∈ s.handed ∨
      ∃ entry ∈ steps, ∃ plan, (b.resolve entry.1).value = .ok plan ∧
        path ∈ plan.entries.map PlanEntry.path := by
  induction steps generalizing s with
  | nil => exact Or.inl h
  | cons entry rest ih =>
      obtain ⟨w, request⟩ := entry
      rw [run_cons] at h
      rcases ih h with h | ⟨entry, hentry, hplan⟩
      · rcases mem_handed_step b h with h | hplan
        · exact Or.inl h
        · exact Or.inr ⟨(w, request), List.mem_cons_self, hplan⟩
      · exact Or.inr ⟨entry, List.mem_cons_of_mem _ hentry, hplan⟩

end NativeBootstrap.Session

/-! ## A small installation -/

namespace NativeBootstrap

/-- A host that libraries are built for. -/
def sampleHost : Host := ⟨"Windows 10", none, "amd64", "64", "/"⟩

/-- A world without files. -/
def bareWorld : World := ⟨⟨[]⟩, .root, ⟨.ofString "shim", some (.ofString "/opt/shim")⟩, sampleHost⟩

/-- The bare world with a directory for the libraries of the host. -/
def installedWorld : World := bareWorld.change (.directory (.ofString "/my app/libs/win64/Release"))

/-- A bootstrap beside an artifact in the same tree, with a loader that takes every path. -/
def sampleBootstrap : Bootstrap :=
  ⟨.scripted [], sampleHost, some (.ofString "/my%20app/bin/shim.jar")⟩

theorem exists_of_isOk {ε α : Type} {result : Except ε α} (h : result.isOk = true) :
    ∃ value, result = .ok value := by
  cases result with
  | error error => cases h
  | ok value => exact ⟨value, rfl⟩

theorem sample_attempt_succeeds :
    ∃ loaded, (Session.attempt sampleBootstrap installedWorld []).value.1 = .ok loaded :=
  exists_of_isOk (by decide +kernel)

end NativeBootstrap
