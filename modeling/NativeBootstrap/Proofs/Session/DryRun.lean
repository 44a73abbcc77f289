import NativeBootstrap.Proofs.Session.Runs

/-!
# Resolving foretells a start, and leaves no trace

`Bootstrap.resolve` is the dry run of a start. Both read the same world: where resolving fails, the
attempt fails with the same error and hands nothing to the loader; where it gives a plan, the attempt
loads that plan (`attempt_of_resolve_error`, `attempt_of_resolve_ok`).

A resolve answers from the world alone and changes no session, so deleting any resolves from a run
deletes their replies and nothing else (`run_filter_resolve`). Two runs with the same other requests
are therefore told apart by nothing but the replies to their resolves.

The main statement is `resolve_foretells_start`.
-/

set_option autoImplicit false

namespace NativeBootstrap.Session

variable (b : Bootstrap)

/-! ## Runs without their dry runs -/

/-- Whether an entry of a run is something else than a resolve. -/
def Acts (entry : World × Request) : Bool := entry.2 != .resolve

theorem step_resolve (s : Session) (w : World) :
    s.step b w .resolve = (⟨.resolve (b.resolve w).value, (b.resolve w).events⟩, s) :=
  rfl

/-- Deleting the resolves of a run deletes their replies and leaves every other reply, and the
session at the end, as they are. -/
theorem run_filter_resolve (s : Session) (steps : List (World × Request)) :
    (run b s (steps.filter Acts)).2 = (run b s steps).2 ∧
      (steps.filter Acts).zip (run b s (steps.filter Acts)).1 =
        (steps.zip (run b s steps).1).filter fun entry => Acts entry.1 := by
  induction steps generalizing s with
  | nil => exact ⟨rfl, rfl⟩
  | cons entry rest ih =>
      obtain ⟨w, request⟩ := entry
      by_cases hr : request = .resolve
      · subst hr
        -- The session is the same after it, so the hypothesis for the rest speaks of it.
        have hdry : Acts (w, .resolve) = false := rfl
        rw [List.filter_cons, hdry, run_cons, step_resolve, List.zip_cons_cons, List.filter_cons,
          hdry]
        exact ih s
      · have hacts : Acts (w, request) = true := by simp [Acts, hr]
        obtain ⟨hs, hreplies⟩ := ih (s.step b w request).2
        rw [List.filter_cons, if_pos hacts, run_cons, run_cons, List.zip_cons_cons,
          List.zip_cons_cons, List.filter_cons, if_pos hacts, hreplies]
        exact ⟨hs, rfl⟩

/-! ## Main statement -/

/-- **The dry run and the real run agree, and the dry run leaves no trace.** Before the first start,
and in the same world: an error of resolving is the error of a start, which then hands nothing to
the loader; a plan of resolving is the plan of a start, which hands over the first paths of that
plan, and all of them if it succeeds. A run gives one reply to each request, and two runs that differ
only in their resolves end in the same session, with the same paths handed to the loader, and give
the same replies to everything else. -/
theorem resolve_foretells_start :
    (∀ (s : Session) (w : World), s.outcome = none →
      (∀ error, (b.resolve w).value = .error error →
        (s.start b w).1.value = .error error ∧ (s.start b w).2.handed = s.handed) ∧
      ∀ plan, (b.resolve w).value = .ok plan →
        ∃ handed, (s.start b w).2.handed = s.handed ++ handed ∧
          handed <+: plan.entries.map PlanEntry.path ∧
          ∀ loaded, (s.start b w).1.value = .ok loaded →
            loaded.plan = plan ∧ handed = plan.entries.map PlanEntry.path) ∧
    (∀ (s : Session) (steps : List (World × Request)), (run b s steps).1.length = steps.length) ∧
    ∀ (s : Session) (steps thinned : List (World × Request)),
      thinned.filter Acts = steps.filter Acts →
      (run b s thinned).2 = (run b s steps).2 ∧
        (thinned.zip (run b s thinned).1).filter (fun entry => Acts entry.1) =
          (steps.zip (run b s steps).1).filter fun entry => Acts entry.1 := by
  refine ⟨?_, length_run b, ?_⟩
  · intro s w hs
    refine ⟨?_, ?_⟩
    · intro error herror
      rw [start_of_pending b hs, attempt_of_resolve_error b herror]
      exact ⟨rfl, List.append_nil _⟩
    · intro plan hplan
      rw [start_of_pending b hs, attempt_of_resolve_ok b hplan]
      refine ⟨_, rfl, isPrefix_handed_load b.loader w s.handed plan, ?_⟩
      intro loaded hloaded
      obtain ⟨hp, -, hall⟩ := of_load_eq_ok b.loader w hloaded
      exact ⟨hp, hall⟩
  · intro s steps thinned h
    -- Both runs are compared with the run that is left when every resolve is deleted.
    obtain ⟨hs, hreplies⟩ := run_filter_resolve b s steps
    obtain ⟨hs', hreplies'⟩ := run_filter_resolve b s thinned
    rw [h] at hs' hreplies'
    exact ⟨hs'.symm.trans hs, hreplies'.symm.trans hreplies⟩

/-- The plan of the small installation is the one that a start then loads, and a start after two dry
runs leaves what a start alone leaves. -/
theorem resolve_foretells_start_of_installation :
    ∃ plan loaded,
      (sampleBootstrap.resolve installedWorld).value = .ok plan ∧
      (fresh.start sampleBootstrap installedWorld).1.value = .ok loaded ∧
      loaded.plan = plan ∧
      (fresh.start sampleBootstrap installedWorld).2.handed = plan.entries.map PlanEntry.path ∧
      (run sampleBootstrap fresh
        [(bareWorld, .resolve), (installedWorld, .resolve), (installedWorld, .start)]).2 =
          (run sampleBootstrap fresh [(installedWorld, .start)]).2 := by
  obtain ⟨hstart, -, hthin⟩ := resolve_foretells_start sampleBootstrap
  obtain ⟨herror, hplan⟩ := hstart fresh installedWorld rfl
  obtain ⟨loaded, hloaded⟩ := sample_attempt_succeeds
  have hvalue : (fresh.start sampleBootstrap installedWorld).1.value = .ok loaded := by
    rw [start_of_pending sampleBootstrap rfl]
    exact hloaded
  cases hresolve : (sampleBootstrap.resolve installedWorld).value with
  | error error =>
      rw [(herror error hresolve).1] at hvalue
      cases hvalue
  | ok plan =>
      obtain ⟨handed, hhanded, -, hall⟩ := hplan plan hresolve
      obtain ⟨hp, hpaths⟩ := hall loaded hvalue
      refine ⟨plan, loaded, rfl, hvalue, hp, ?_, ?_⟩
      · rw [hhanded, hpaths]
        rfl
      · exact (hthin fresh [(installedWorld, .start)]
          [(bareWorld, .resolve), (installedWorld, .resolve), (installedWorld, .start)] rfl).1

end NativeBootstrap.Session
