import NativeBootstrap.Proofs.Session.OneShot

/-!
# The log of a start

A start that makes the attempt logs that it begins, what resolving logs, each path before the loader is
asked for it, and last what it came to. Which paths these are, and what it came to, is told by `Opens`
for the loader that opens files: one way for each point at which the attempt can end. So the log shows
as many paths as the loader was asked for: none if no directory of libraries was found, those up to the
first library that does not open, or all.

A start that finds an outcome logs nothing (`events_of_settled`), so of a whole run only the first
start is in the log. The main statement is `start_log_tells_what_was_done`.
-/

set_option autoImplicit false

namespace NativeBootstrap

/-- The files of some entries open one after the other exactly as each of them opens alone. -/
theorem Accepts.map_openLibrary {w : World} {earlier : List Path} {entries : List PlanEntry}
    {libraries : List Library} (h : Accepts .system w earlier entries libraries) :
    entries.map (fun entry => openLibrary w entry.path) = libraries.map .ok := by
  induction h with
  | nil earlier => rfl
  | @cons earlier entry library rest libraries hload _ ih =>
      have hopen : openLibrary w entry.path = .ok library := hload
      simp [hopen, ih]

namespace Session

/-- How an attempt with the loader that opens files goes in a world: the paths that the loader is asked
for, in order, and the outcome. -/
inductive Opens (b : Bootstrap) (w : World) : List Path → Except BootstrapError Loaded → Prop where
  | unresolved {error : BootstrapError} :
      (b.resolve w).value = .error error →
      Opens b w [] (.error error)
  | notDirectory {plan : LoadPlan} :
      (b.resolve w).value = .ok plan →
      w.isDirectory plan.libsDir = false →
      Opens b w [] (.error (.unresolved (.notDirectory plan.libsDir)))
  /-- The entry at `k` is the first whose file does not open. -/
  | stopped {plan : LoadPlan} {k : Nat} {entry : PlanEntry} {failure : LoadFailure} :
      (b.resolve w).value = .ok plan →
      w.isDirectory plan.libsDir = true →
      (∀ other ∈ plan.entries.take k, ∃ library, openLibrary w other.path = .ok library) →
      plan.entries[k]? = some entry →
      openLibrary w entry.path = .error failure →
      Opens b w ((plan.entries.take (k + 1)).map PlanEntry.path)
        (.error (.load k entry.path failure))
  | ready {plan : LoadPlan} {libraries : List Library} :
      (b.resolve w).value = .ok plan →
      w.isDirectory plan.libsDir = true →
      plan.entries.map (fun entry => openLibrary w entry.path) = libraries.map .ok →
      Opens b w (plan.entries.map PlanEntry.path) (.ok ⟨plan, libraries⟩)

variable {b : Bootstrap}

/-! ## The attempt -/

/-- The attempt goes one of these ways. -/
theorem opens_attempt (hb : b.loader = .system) (w : World) (earlier : List Path) :
    Opens b w (attempt b w earlier).value.2 (attempt b w earlier).value.1 := by
  cases hresolve : (b.resolve w).value with
  | error error =>
      rw [attempt_of_resolve_error b hresolve]
      exact .unresolved hresolve
  | ok plan =>
      rw [attempt_of_resolve_ok b hresolve]
      cases hdir : w.isDirectory plan.libsDir with
      | false =>
          rw [load_of_not_directory b.loader w hdir]
          exact .notDirectory hresolve hdir
      | true =>
          rw [load_of_directory b.loader w hdir, hb]
          rcases loadEntries_cases .system w 0 earlier plan.entries with
            ⟨libraries, haccepted, hrun⟩ |
            ⟨before, entry, after, libraries, failure, hsplit, haccepted, hbad, hrun⟩
          · rw [hrun]
            exact .ready hresolve hdir haccepted.map_openLibrary
          · -- The entry that is turned down stands behind `before`, so its place is the length of that.
            have htake : plan.entries.take before.length = before := by
              simp [hsplit]
            have hpaths : (plan.entries.take (before.length + 1)).map PlanEntry.path =
                before.map PlanEntry.path ++ [entry.path] := by
              simp [hsplit, List.take_append, List.take_of_length_le]
            have hopened : ∀ other ∈ plan.entries.take before.length,
                ∃ library, openLibrary w other.path = .ok library := by
              intro other hother
              rw [htake] at hother
              have hmem : openLibrary w other.path ∈ libraries.map Except.ok := by
                rw [← haccepted.map_openLibrary]
                exact List.mem_map_of_mem hother
              obtain ⟨library, -, hlibrary⟩ := List.mem_map.1 hmem
              exact ⟨library, hlibrary.symm⟩
            rw [hrun, Nat.zero_add, ← hpaths]
            exact .stopped hresolve hdir hopened (by simp [hsplit]) hbad

/-! ## Records -/

/-- The record on a path that the loader is asked for. -/
def openingRecord (path : Path) : Record :=
  ⟨.info, "clogger_bridge::library", "load library: " ++ path.display⟩

/-- The last record of an attempt, by what it came to. -/
def closingRecord : Except BootstrapError Loaded → Record
  | .ok loaded =>
    ⟨.info, "clogger_bridge::bootstrap",
      "native libraries ready: " ++ loaded.plan.libsDir.display⟩
  | .error error =>
    ⟨.error, "clogger_bridge::bootstrap",
      "native library bootstrap failed: " ++ error.message⟩

/-- The last event of an attempt. -/
def closing : Except BootstrapError Loaded → Event
  | .ok loaded => .ready loaded.plan.libsDir
  | .error error => .failed error

theorem record_closing (outcome : Except BootstrapError Loaded) :
    (closing outcome).record = closingRecord outcome := by
  cases outcome with
  | ok loaded => rfl
  | error error => rfl

theorem events_attempt (w : World) (earlier : List Path) :
    (attempt b w earlier).events =
      .resolving :: (b.resolve w).events ++
        (attempt b w earlier).value.2.flatMap b.loader.notice ++
        [closing (attempt b w earlier).value.1] :=
  rfl

/-- The log of an attempt: its beginning, that of resolving, the paths asked for, and its end. -/
theorem records_attempt (hb : b.loader = .system) (w : World) (earlier : List Path) :
    (attempt b w earlier).events.map Event.record =
      ⟨.info, "clogger_bridge::bootstrap", "resolving native libraries"⟩ ::
        ((b.resolve w).events.map Event.record ++
          (attempt b w earlier).value.2.map openingRecord ++
          [closingRecord (attempt b w earlier).value.1]) := by
  have hopening : ∀ paths : List Path,
      (paths.flatMap b.loader.notice).map Event.record = paths.map openingRecord := by
    intro paths
    rw [hb]
    induction paths with
    | nil => rfl
    | cons path rest ih =>
        rw [List.flatMap_cons, List.map_append, ih]
        rfl
  rw [events_attempt, List.map_append, List.map_append, hopening, List.map_singleton,
    record_closing]
  rfl

/-- A start that finds an outcome logs nothing. -/
theorem events_of_settled {s : Session} {outcome : Except BootstrapError Loaded}
    (h : s.outcome = some outcome) (steps : List (World × Request)) :
    ∀ pair ∈ steps.zip (run b s steps).1, pair.1.2 = .start → pair.2.events = [] := by
  induction steps generalizing s with
  | nil =>
      intro pair hpair
      cases hpair
  | cons entry rest ih =>
      obtain ⟨w, request⟩ := entry
      intro pair hpair hstart
      rw [run_cons, List.zip_cons_cons] at hpair
      rcases List.mem_cons.1 hpair with rfl | hpair
      · -- The outcome is told as it is, so there is nothing to log.
        obtain rfl : request = .start := hstart
        show (s.start b w).1.events = []
        rw [start_of_settled b h]
      · exact ih (step_of_settled b h w request).1 pair hpair hstart

/-! ## Main statement -/

/-- **The log of a start tells exactly what was done.** Let a bootstrap open files, for any host and
artifact, and let a run start it for the first time in some world. The first start then logs one record
that it begins, those that resolving alone logs in that world, one for each path that the loader is
asked for, in order, and one on the outcome: of level info with the directory of the libraries if it
succeeds, and of level error with the message of the failure if not. The paths are none if resolving or
the check of the directory fails, those of the first `k + 1` entries if the entry at `k` is the first
that does not open, and all of them if it succeeds; the loader is never asked for more. No later start
of the run logs anything. -/
theorem start_log_tells_what_was_done (hb : b.loader = .system) (before : List (World × Request))
    (w : World) (after : List (World × Request)) (hbefore : ∀ entry ∈ before, entry.2 ≠ .start) :
    ∃ first later opened outcome,
      (run b fresh (before ++ (w, .start) :: after)).1 =
        (run b fresh before).1 ++ first :: later ∧
      first.value = .start outcome ∧
      (run b fresh (before ++ (w, .start) :: after)).2.outcome = some outcome ∧
      (run b fresh (before ++ (w, .start) :: after)).2.handed = opened ∧
      Opens b w opened outcome ∧
      first.events.map Event.record =
        ⟨.info, "clogger_bridge::bootstrap", "resolving native libraries"⟩ ::
          ((b.resolve w).events.map Event.record ++ opened.map openingRecord ++
            [closingRecord outcome]) ∧
      ∀ pair ∈ after.zip later, pair.1.2 = .start → pair.2.events = [] := by
  obtain ⟨-, hfresh⟩ := run_of_pending b (s := fresh) rfl before hbefore
  have hstart : fresh.step b w .start =
      (⟨.start (attempt b w []).value.1, (attempt b w []).events⟩,
        { fresh with
          outcome := some (attempt b w []).value.1
          handed := (attempt b w []).value.2 }) := by
    simp only [step, start_of_pending b (s := fresh) rfl]
    rfl
  have hsettled : (fresh.step b w .start).2.outcome = some (attempt b w []).value.1 := by
    rw [hstart]
  obtain ⟨hout, hhanded⟩ := run_of_settled b hsettled after
  refine ⟨(fresh.step b w .start).1, (run b (fresh.step b w .start).2 after).1,
    (attempt b w []).value.2, (attempt b w []).value.1, ?_, ?_, ?_, ?_, opens_attempt hb w [], ?_,
    events_of_settled hsettled after⟩
  · rw [run_append, hfresh, run_cons]
  · rw [hstart]
  · rw [run_append, hfresh, run_cons]
    exact hout
  · rw [run_append, hfresh, run_cons, hhanded, hstart]
  · rw [hstart]
    exact records_attempt hb w []

/-- The small installation for the loader that opens files. -/
def openingBootstrap : Bootstrap := { sampleBootstrap with loader := .system }

/-- The path of a library of the small installation. -/
def installedPath (name : String) : Path := .ofString ("/my app/libs/win64/Release/" ++ name)

/-- The world of the small installation with a core and without a wrapper. -/
def coreWorld : World :=
  installedWorld.change (.library (installedPath coreLibrary) ⟨["clogger_lib_version"], none, none⟩)

/-- A look at the phase, a start that finds no wrapper, and one that finds no core: two paths are
logged, and then the failure of the second entry. -/
theorem start_log_tells_what_was_done_of_missing_wrapper :
    openingBootstrap.loader = .system ∧
    (∀ entry ∈ [(bareWorld, Request.phase)], entry.2 ≠ .start) ∧
    ∃ first later,
      (run openingBootstrap fresh
        ([(bareWorld, .phase)] ++ (coreWorld, .start) :: [(installedWorld, .start)])).1 =
          (run openingBootstrap fresh [(bareWorld, .phase)]).1 ++ first :: later ∧
      first.events.map Event.record =
        [⟨.info, "clogger_bridge::bootstrap", "resolving native libraries"⟩,
          ⟨.debug, "clogger_bridge::bootstrap", "host: Windows 64-bit -> win64/Release"⟩,
          openingRecord (installedPath coreLibrary), openingRecord (installedPath wrapperLibrary),
          ⟨.error, "clogger_bridge::bootstrap",
            "native library bootstrap failed: failed to load entry 1 "
              ++ "(/my app/libs/win64/Release/clogger_jniwrapper.dll)"⟩] := by
  have hbefore : ∀ entry ∈ [(bareWorld, Request.phase)], entry.2 ≠ .start := by
    intro entry hentry
    rw [List.mem_singleton.1 hentry]
    exact nofun
  have hfound : (run openingBootstrap fresh
      ([(bareWorld, .phase)] ++ (coreWorld, .start) :: [(installedWorld, .start)])).2.outcome =
        some (.error (.load 1 (installedPath wrapperLibrary) .unloadable)) := by decide +kernel
  have hasked : (run openingBootstrap fresh
      ([(bareWorld, .phase)] ++ (coreWorld, .start) :: [(installedWorld, .start)])).2.handed =
        [installedPath coreLibrary, installedPath wrapperLibrary] := by decide +kernel
  have hresolve : (openingBootstrap.resolve coreWorld).events.map Event.record =
      [⟨.debug, "clogger_bridge::bootstrap", "host: Windows 64-bit -> win64/Release"⟩] := by
    decide +kernel
  have hclosing : closingRecord (.error (.load 1 (installedPath wrapperLibrary) .unloadable)) =
      ⟨.error, "clogger_bridge::bootstrap",
        "native library bootstrap failed: failed to load entry 1 "
          ++ "(/my app/libs/win64/Release/clogger_jniwrapper.dll)"⟩ := by decide +kernel
  obtain ⟨first, later, opened, outcome, hrun, -, hout, hhanded, -, hlog, -⟩ :=
    start_log_tells_what_was_done (b := openingBootstrap) rfl [(bareWorld, .phase)] coreWorld
      [(installedWorld, .start)] hbefore
  refine ⟨rfl, hbefore, first, later, hrun, ?_⟩
  obtain rfl : _ = outcome := Option.some.inj (hfound.symm.trans hout)
  rw [hlog, ← hhanded, hasked, hresolve, hclosing]
  rfl

end Session

end NativeBootstrap
