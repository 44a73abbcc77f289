import NativeBootstrap.Proofs.Resolution.UnsupportedHost

/-!
# Each name has its library

Loaded libraries are a plan and a list, and a name is looked up in the plan. What ties the two is
that a load that succeeds was accepted entry by entry: the library in a place is what the loader gave
for the entry in that place (`Accepts.exists_getElem?`). So a name is found exactly if the plan has
it, and what is found is the library of its first entry (`Loaded.get_of_first`).

A session that is ready holds what its first start loaded (`Session.exists_first_start`), which is
one library for the core and one for the wrapper. So its calls find theirs, in every run
(`Session.run_ne_missingLibrary`). The main statement is `loaded_libraries_answer_to_their_names`.
-/

set_option autoImplicit false

namespace NativeBootstrap

/-! ## Positions of names -/

/-- The position of a name is that of its first entry. -/
theorem LoadPlan.position?_of_first {plan : LoadPlan} {before after : List PlanEntry}
    {entry : PlanEntry} {name : String} (hplan : plan.entries = before ++ entry :: after)
    (hname : entry.name = name) (hfirst : ∀ other ∈ before, other.name ≠ name) :
    plan.position? name = some before.length := by
  have hnone : before.findIdx? (fun other => other.name == name) = none := by
    rw [List.findIdx?_eq_none_iff]
    intro other hother
    simpa using hfirst other hother
  unfold position?
  rw [hplan, List.findIdx?_append, hnone, List.findIdx?_cons]
  simp [hname]

theorem LoadPlan.position?_of_no_entry {plan : LoadPlan} {name : String}
    (h : ∀ entry ∈ plan.entries, entry.name ≠ name) : plan.position? name = none := by
  unfold position?
  rw [List.findIdx?_eq_none_iff]
  intro entry hentry
  simpa using h entry hentry

/-- A name that some entry has is that of a first one. -/
theorem exists_first_entry {entries : List PlanEntry} {name : String}
    (h : ∃ entry ∈ entries, entry.name = name) :
    ∃ before entry after, entries = before ++ entry :: after ∧ entry.name = name ∧
      ∀ other ∈ before, other.name ≠ name := by
  induction entries with
  | nil =>
      obtain ⟨entry, hentry, -⟩ := h
      cases hentry
  | cons entry rest ih =>
      by_cases hname : entry.name = name
      · exact ⟨[], entry, rest, rfl, hname, nofun⟩
      · have hrest : ∃ other ∈ rest, other.name = name := by
          obtain ⟨other, hother, hsame⟩ := h
          rcases List.mem_cons.1 hother with rfl | hother
          · exact absurd hsame hname
          · exact ⟨other, hother, hsame⟩
        obtain ⟨before, found, after, rfl, hfound, hfirst⟩ := ih hrest
        exact ⟨entry :: before, found, after, rfl, hfound,
          List.forall_mem_cons.2 ⟨hname, hfirst⟩⟩

/-! ## The library in a place -/

section Load

variable {loader : Loader} {w : World} {earlier : List Path}

/-- The library in a place is what the loader gave for the entry there, after the paths of those
before it. -/
theorem Accepts.exists_getElem? {before after : List PlanEntry} {entry : PlanEntry}
    {libraries : List Library} (h : Accepts loader w earlier (before ++ entry :: after) libraries) :
    ∃ library, libraries[before.length]? = some library ∧
      loader.load w (earlier ++ before.map PlanEntry.path) entry.path = .ok library := by
  -- The paths before the place move, one by one, to those that were handed over earlier.
  induction before generalizing earlier libraries with
  | nil =>
      cases h with
      | @cons _ _ library _ _ hload hrest => exact ⟨library, rfl, by simpa using hload⟩
  | cons first before ih =>
      cases h with
      | cons hload hrest =>
          obtain ⟨library, hget, hlibrary⟩ := ih hrest
          refine ⟨library, hget, ?_⟩
          rw [List.append_assoc] at hlibrary
          exact hlibrary

theorem Accepts.exists_pair {first second : PlanEntry} {libraries : List Library}
    (h : Accepts loader w earlier [first, second] libraries) :
    ∃ library library', libraries = [library, library'] ∧
      loader.load w earlier first.path = .ok library ∧
      loader.load w (earlier ++ [first.path]) second.path = .ok library' := by
  cases h with
  | cons hfirst hrest =>
      cases hrest with
      | cons hsecond hnone =>
          cases hnone
          exact ⟨_, _, rfl, hfirst, hsecond⟩

/-- A name is that of the library loaded for its first entry. -/
theorem Loaded.get_of_first {loaded : Loaded}
    (h : Accepts loader w earlier loaded.plan.entries loaded.libraries)
    {before after : List PlanEntry} {entry : PlanEntry} {name : String}
    (hplan : loaded.plan.entries = before ++ entry :: after) (hname : entry.name = name)
    (hfirst : ∀ other ∈ before, other.name ≠ name) :
    ∃ library, loaded.get name = .ok library ∧
      loader.load w (earlier ++ before.map PlanEntry.path) entry.path = .ok library := by
  rw [hplan] at h
  obtain ⟨library, hget, hload⟩ := h.exists_getElem?
  refine ⟨library, ?_, hload⟩
  unfold get
  rw [LoadPlan.position?_of_first hplan hname hfirst, Option.bind_some, hget]

theorem Loaded.get_of_no_entry {loaded : Loaded} {name : String}
    (h : ∀ entry ∈ loaded.plan.entries, entry.name ≠ name) :
    loaded.get name = .error (.missingLibrary name) := by
  unfold get
  rw [LoadPlan.position?_of_no_entry h]
  rfl

theorem Loaded.exists_get_iff {loaded : Loaded}
    (h : Accepts loader w earlier loaded.plan.entries loaded.libraries) {name : String} :
    (∃ library, loaded.get name = .ok library) ↔
      ∃ entry ∈ loaded.plan.entries, entry.name = name := by
  constructor
  · rintro ⟨library, hget⟩
    by_contra hnone
    push Not at hnone
    rw [get_of_no_entry hnone] at hget
    cases hget
  · intro hentry
    obtain ⟨before, entry, after, hplan, hname, hfirst⟩ := exists_first_entry hentry
    obtain ⟨library, hget, -⟩ := get_of_first h hplan hname hfirst
    exact ⟨library, hget⟩

/-- The path of a library in a directory. -/
def libraryPath (separator directory name : String) : Path :=
  .ofString (Path.joinWith separator directory [name])

/-- What is loaded for a plan under a root is a library for the core and then one for the wrapper. -/
theorem exists_get_underRoot {loaded : Loaded} {root separator : String} {variant : Variant}
    (h : (load loader w earlier (.underRoot root variant separator)).1 = .ok loaded) :
    ∃ directory core wrapper, loaded.plan.libsDir = .ofString directory ∧
      loaded.libraries = [core, wrapper] ∧
      (loaded.get coreLibrary = .ok core ∧
        loader.load w earlier (libraryPath separator directory coreLibrary) = .ok core) ∧
      loaded.get wrapperLibrary = .ok wrapper ∧
        loader.load w (earlier ++ [libraryPath separator directory coreLibrary])
          (libraryPath separator directory wrapperLibrary) = .ok wrapper := by
  obtain ⟨hplan, haccepted, -⟩ := of_load_eq_ok loader w h
  let directory := LoadPlan.libsDirectory root variant separator
  have hentries : loaded.plan.entries =
      [⟨coreLibrary, libraryPath separator directory coreLibrary⟩,
        ⟨wrapperLibrary, libraryPath separator directory wrapperLibrary⟩] :=
    congrArg LoadPlan.entries hplan
  have hother : ∀ other ∈ [PlanEntry.mk coreLibrary (libraryPath separator directory coreLibrary)],
      other.name ≠ wrapperLibrary := by
    intro other hmem
    rw [List.mem_singleton.1 hmem]
    exact (by decide : coreLibrary ≠ wrapperLibrary)
  rw [← hplan, hentries] at haccepted
  obtain ⟨core, wrapper, hlibraries, hloadCore, hloadWrapper⟩ := haccepted.exists_pair
  have hfirst : loaded.plan.position? coreLibrary = some 0 :=
    LoadPlan.position?_of_first (show loaded.plan.entries = [] ++ _ :: _ from hentries) rfl nofun
  have hsecond : loaded.plan.position? wrapperLibrary = some 1 :=
    LoadPlan.position?_of_first (show loaded.plan.entries = [_] ++ _ :: _ from hentries) rfl hother
  refine ⟨directory, core, wrapper, congrArg LoadPlan.libsDir hplan, hlibraries, ⟨?_, hloadCore⟩, ?_,
    hloadWrapper⟩
  · unfold Loaded.get
    rw [hfirst, hlibraries]
    rfl
  · unfold Loaded.get
    rw [hsecond, hlibraries]
    rfl

end Load

/-! ## Calls -/

namespace Loaded

variable {loaded : Loaded} {core wrapper : Library}

/-- A report is a call into the wrapper, if that exports it. -/
theorem report_of_get (h : loaded.get wrapperLibrary = .ok wrapper) :
    (loaded.report.1.value, loaded.report.2) =
      if wrapper.image.hasSymbol EntryPoint.report.symbol then (.ok (), [⟨wrapper.id, .report⟩])
      else (.error (.missingSymbol wrapper.path EntryPoint.report.symbol), []) := by
  have hget : loaded.get EntryPoint.report.library = .ok wrapper := h
  unfold report find Library.lookUp
  by_cases hsymbol : wrapper.image.hasSymbol EntryPoint.report.symbol = true
  · simp [hget, hsymbol, bind, Except.bind, pure, Except.pure]
  · simp [hget, hsymbol, bind, Except.bind]

/-- A version query is a call into the core, if that exports it, and tells what the core answers. -/
theorem version_of_get (h : loaded.get coreLibrary = .ok core) :
    loaded.version =
      if core.image.hasSymbol EntryPoint.version.symbol then
        (core.image.answer.read, [⟨core.id, .version⟩])
      else (.error (.missingSymbol core.path EntryPoint.version.symbol), []) := by
  have hget : loaded.get EntryPoint.version.library = .ok core := h
  unfold version find Library.lookUp
  by_cases hsymbol : core.image.hasSymbol EntryPoint.version.symbol = true
  · simp [hget, hsymbol, bind, Except.bind, pure, Except.pure]
  · simp [hget, hsymbol, bind, Except.bind]

end Loaded

theorem Loaded.report_ne_missingLibrary {loaded : Loaded} {wrapper : Library}
    (h : loaded.get wrapperLibrary = .ok wrapper) (name : String) :
    loaded.report.1.value ≠ .error (.missingLibrary name) := by
  have hreport := congrArg Prod.fst (report_of_get h)
  rw [show loaded.report.1.value = _ from hreport]
  split <;> exact nofun

theorem Loaded.version_ne_missingLibrary {loaded : Loaded} {core : Library}
    (h : loaded.get coreLibrary = .ok core) (name : String) :
    loaded.version.1 ≠ .error (.missingLibrary name) := by
  rw [version_of_get h]
  unfold VersionAnswer.read
  split
  · split <;> exact nofun
  · exact nofun

/-! ## Sessions that are ready -/

namespace Session

variable {b : Bootstrap} {s : Session}

/-- An outcome that was not there before a run is that of the attempt of its first start. -/
theorem exists_first_start (h : s.outcome = none) {steps : List (World × Request)}
    {outcome : Except BootstrapError Loaded} (hrun : (run b s steps).2.outcome = some outcome) :
    ∃ before w after, steps = before ++ (w, .start) :: after ∧
      (∀ entry ∈ before, entry.2 ≠ .start) ∧ (attempt b w s.handed).value.1 = outcome := by
  induction steps with
  | nil => cases h.symm.trans hrun
  | cons entry rest ih =>
      obtain ⟨w, request⟩ := entry
      by_cases hr : request = .start
      · subst hr
        obtain ⟨-, hout, -⟩ := run_of_first_start b h w rest
        exact ⟨[], w, rest, rfl, nofun, Option.some.inj (hout.symm.trans hrun)⟩
      · obtain ⟨-, hsame⟩ := step_of_pending b h w hr
        rw [run_cons, hsame] at hrun
        obtain ⟨before, w', after, rfl, hbefore, hattempt⟩ := ih hrun
        exact ⟨(w, request) :: before, w', after, rfl,
          List.forall_mem_cons.2 ⟨hr, hbefore⟩, hattempt⟩

/-- An attempt that succeeds loads a core and a wrapper, in the directory of the resolved plan. -/
theorem exists_get_of_attempt {w : World} {earlier : List Path} {loaded : Loaded}
    (h : (attempt b w earlier).value.1 = .ok loaded) :
    (b.resolve w).value = .ok loaded.plan ∧
      ∃ directory core wrapper, loaded.plan.libsDir = .ofString directory ∧
        loaded.libraries = [core, wrapper] ∧
        (loaded.get coreLibrary = .ok core ∧
          b.loader.load w earlier (libraryPath b.host.fileSeparator directory coreLibrary) =
            .ok core) ∧
        loaded.get wrapperLibrary = .ok wrapper ∧
          b.loader.load w (earlier ++ [libraryPath b.host.fileSeparator directory coreLibrary])
            (libraryPath b.host.fileSeparator directory wrapperLibrary) = .ok wrapper := by
  cases hresolve : (b.resolve w).value with
  | error error =>
      rw [attempt_of_resolve_error b hresolve] at h
      cases h
  | ok plan =>
      rw [attempt_of_resolve_ok b hresolve] at h
      obtain ⟨variant, text, root, -, -, -, rfl⟩ := Bootstrap.resolve_eq_ok_iff.1 hresolve
      refine ⟨?_, exists_get_underRoot h⟩
      rw [(of_load_eq_ok b.loader w h).1]

/-- No call of a session fails for want of a library. -/
theorem step_ne_missingLibrary (h : Attempted b s) (w : World) (request : Request) (name : String) :
    (s.step b w request).1.value ≠ .report (.error (.missingLibrary name)) ∧
      (s.step b w request).1.value ≠ .version (.error (.missingLibrary name)) := by
  cases hs : s.outcome with
  | none =>
      by_cases hr : request = .start
      · subst hr
        exact ⟨nofun, nofun⟩
      · obtain ⟨hreply, -⟩ := step_of_pending b hs w hr
        generalize (s.step b w request).1.value = reply at hreply
        cases hreply <;> exact ⟨nofun, nofun⟩
  | some outcome =>
      have hreply := reply_of_settled b hs w request
      generalize (s.step b w request).1.value = reply at hreply
      cases hreply with
      | report_ready loaded =>
          obtain ⟨w', earlier, hattempt⟩ := h _ hs
          obtain ⟨-, -, -, wrapper, -, -, -, hget, -⟩ := exists_get_of_attempt hattempt
          refine ⟨?_, nofun⟩
          rw [ne_eq, Reply.report.injEq]
          exact Loaded.report_ne_missingLibrary hget name
      | version_ready loaded =>
          obtain ⟨w', earlier, hattempt⟩ := h _ hs
          obtain ⟨-, -, core, -, -, -, ⟨hget, -⟩, -⟩ := exists_get_of_attempt hattempt
          refine ⟨nofun, ?_⟩
          rw [ne_eq, Reply.version.injEq]
          exact Loaded.version_ne_missingLibrary hget name
      | _ => exact ⟨nofun, nofun⟩

theorem run_ne_missingLibrary (h : Attempted b s) (steps : List (World × Request)) :
    ∀ reply ∈ (run b s steps).1, ∀ name,
      reply.value ≠ .report (.error (.missingLibrary name)) ∧
        reply.value ≠ .version (.error (.missingLibrary name)) := by
  induction steps generalizing s with
  | nil => exact nofun
  | cons entry rest ih =>
      obtain ⟨w, request⟩ := entry
      rw [run_cons]
      exact List.forall_mem_cons.2
        ⟨step_ne_missingLibrary h w request, ih (h.step w request)⟩

theorem exists_outcome_of_ready (h : s.phase = .ready) :
    ∃ loaded, s.outcome = some (.ok loaded) := by
  unfold phase at h
  split at h
  · cases h
  · exact ⟨_, ‹_›⟩
  · cases h

theorem report_of_ready {loaded : Loaded} (h : s.outcome = some (.ok loaded)) :
    s.report = (loaded.report.1, { s with called := s.called ++ loaded.report.2 }) := by
  unfold report libraries
  rw [h]

theorem version_of_ready {loaded : Loaded} (h : s.outcome = some (.ok loaded)) :
    s.version = (loaded.version.1, { s with called := s.called ++ loaded.version.2 }) := by
  unfold version libraries
  rw [h]

end Session

/-! ## Main statement -/

open Session in
/-- **A load that succeeds misses no library.** It keeps the plan and gives as many libraries as that
has entries. A name is found exactly if the plan has it, and what is found is what the loader gave for
the path of the first entry with that name, after the paths of all entries before.

So no call in any run of a session fails for want of a library. When a run has left its session ready,
the loader gave a core and a wrapper in the world of the first start, from the directory of the plan
that was resolved there; a report then calls that wrapper and a version query that core, or fails
because the library does not export what is called. -/
theorem loaded_libraries_answer_to_their_names :
    (∀ (loader : Loader) (w : World) (earlier : List Path) (plan : LoadPlan) (loaded : Loaded),
      (load loader w earlier plan).1 = .ok loaded →
      loaded.plan = plan ∧ loaded.libraries.length = plan.entries.length ∧
      (∀ name, (∃ library, loaded.get name = .ok library) ↔
        ∃ entry ∈ plan.entries, entry.name = name) ∧
      ∀ before entry after, plan.entries = before ++ entry :: after →
        (∀ other ∈ before, other.name ≠ entry.name) →
        ∃ library, loaded.get entry.name = .ok library ∧
          loader.load w (earlier ++ before.map PlanEntry.path) entry.path = .ok library) ∧
    ∀ (b : Bootstrap) (steps : List (World × Request)) (replies : List (Logged Reply))
      (s : Session), run b fresh steps = (replies, s) →
      (∀ reply ∈ replies, ∀ name,
        reply.value ≠ .report (.error (.missingLibrary name)) ∧
          reply.value ≠ .version (.error (.missingLibrary name))) ∧
      (s.phase = .ready →
        ∃ before w after plan directory core wrapper,
          steps = before ++ (w, .start) :: after ∧ (∀ entry ∈ before, entry.2 ≠ .start) ∧
          (b.resolve w).value = .ok plan ∧ plan.libsDir = .ofString directory ∧
          b.loader.load w [] (libraryPath b.host.fileSeparator directory "libclogger_dll.dll") =
            .ok core ∧
          b.loader.load w [libraryPath b.host.fileSeparator directory "libclogger_dll.dll"]
            (libraryPath b.host.fileSeparator directory "clogger_jniwrapper.dll") = .ok wrapper ∧
          (s.report.1.value, s.report.2.called) =
            (if wrapper.image.hasSymbol EntryPoint.report.symbol then
              (.ok (), s.called ++ [⟨wrapper.id, .report⟩])
            else (.error (.missingSymbol wrapper.path EntryPoint.report.symbol), s.called)) ∧
          (s.version.1, s.version.2.called) =
            (if core.image.hasSymbol EntryPoint.version.symbol then
              (core.image.answer.read, s.called ++ [⟨core.id, .version⟩])
            else (.error (.missingSymbol core.path EntryPoint.version.symbol), s.called))) := by
  refine ⟨?_, ?_⟩
  · intro loader w earlier plan loaded hload
    obtain ⟨rfl, haccepted, -⟩ := of_load_eq_ok loader w hload
    refine ⟨rfl, haccepted.length_eq, fun _ => Loaded.exists_get_iff haccepted, ?_⟩
    intro before entry after hplan hfirst
    exact Loaded.get_of_first haccepted hplan rfl hfirst
  · intro b steps replies s hrun
    have hreplies : (run b fresh steps).1 = replies := congrArg Prod.fst hrun
    have hs : (run b fresh steps).2 = s := congrArg Prod.snd hrun
    refine ⟨hreplies ▸ run_ne_missingLibrary (attempted_fresh b) steps, ?_⟩
    intro hready
    obtain ⟨loaded, hout⟩ := exists_outcome_of_ready hready
    obtain ⟨before, w, after, hsteps, hbefore, hattempt⟩ :=
      exists_first_start rfl (hs ▸ hout)
    obtain ⟨hplan, directory, core, wrapper, hlibs, -, ⟨hcore, hloadCore⟩, hwrapper,
        hloadWrapper⟩ :=
      exists_get_of_attempt hattempt
    refine ⟨before, w, after, loaded.plan, directory, core, wrapper, hsteps, hbefore, hplan, hlibs,
      hloadCore, hloadWrapper, ?_, ?_⟩
    · have hreport := Loaded.report_of_get hwrapper
      rw [report_of_ready hout]
      split
      · rename_i hsymbol
        rw [if_pos hsymbol, Prod.mk.injEq] at hreport
        simp [hreport]
      · rename_i hsymbol
        rw [if_neg hsymbol, Prod.mk.injEq] at hreport
        simp [hreport]
    · rw [version_of_ready hout, Loaded.version_of_get hcore]
      split
      · rfl
      · simp

/-- The small installation with a core that answers the version query and a wrapper that reports. -/
def callableBootstrap : Bootstrap :=
  { sampleBootstrap with
    loader := .scripted
      [.give ⟨[EntryPoint.version.symbol], none, some [0x31]⟩,
        .give ⟨[EntryPoint.report.symbol], none, none⟩] }

/-- The session of this installation after its start. -/
def callableSession : Session := (Session.run callableBootstrap .fresh [(installedWorld, .start)]).2

/-- A plan with two entries of one name, and a session that is ready, whose calls find the core and
the wrapper that were loaded first and second. -/
theorem loaded_libraries_answer_to_their_names_of_repeated_name :
    (∃ loaded library,
      (load (.scripted []) installedWorld [] ⟨.ofString "/my app",
        [⟨"a", .ofString "/x"⟩, ⟨"a", .ofString "/y"⟩, ⟨"b", .ofString "/z"⟩]⟩).1 = .ok loaded ∧
      loaded.libraries.length = 3 ∧ loaded.get "a" = .ok library ∧
      library = ⟨.ofString "/x", ⟨[], none, none⟩, .turn 0⟩) ∧
    callableSession.phase = .ready ∧
    (callableSession.report.1.value = .ok () ∧
      callableSession.report.2.called = [⟨.turn 1, .report⟩]) ∧
    callableSession.version.1 = .ok ⟨"", "1"⟩ ∧
      callableSession.version.2.called = [⟨.turn 0, .version⟩] := by
  obtain ⟨hloads, hruns⟩ := loaded_libraries_answer_to_their_names
  have hready : callableSession.phase = .ready := by decide +kernel
  have hcalled : callableSession.called = [] := by decide +kernel
  refine ⟨?_, hready, ?_⟩
  · obtain ⟨loaded, hload⟩ : ∃ loaded,
        (load (.scripted []) installedWorld [] ⟨.ofString "/my app",
          [⟨"a", .ofString "/x"⟩, ⟨"a", .ofString "/y"⟩, ⟨"b", .ofString "/z"⟩]⟩).1 = .ok loaded :=
      exists_of_isOk (by decide +kernel)
    obtain ⟨-, hlength, -, hfirst⟩ := hloads _ _ _ _ _ hload
    obtain ⟨library, hget, hlibrary⟩ := hfirst [] _ _ rfl nofun
    exact ⟨loaded, library, hload, hlength, hget, (Except.ok.inj hlibrary).symm⟩
  · obtain ⟨before, w, after, plan, directory, core, wrapper, -, -, -, -, hcore, hwrapper, hreport,
      hversion⟩ := (hruns callableBootstrap [(installedWorld, .start)] _ callableSession rfl).2 hready
    obtain rfl := Except.ok.inj hcore
    obtain rfl := Except.ok.inj hwrapper
    have hreports : Image.hasSymbol ⟨[EntryPoint.report.symbol], none, none⟩
        EntryPoint.report.symbol = true := by decide
    have hanswers : Image.hasSymbol ⟨[EntryPoint.version.symbol], none, some [0x31]⟩
        EntryPoint.version.symbol = true := by decide
    have hread : VersionAnswer.read ⟨none, some [0x31]⟩ = .ok ⟨"", "1"⟩ := by decide +kernel
    rw [if_pos hreports, hcalled, Prod.mk.injEq] at hreport
    rw [if_pos hanswers, hcalled, Prod.mk.injEq] at hversion
    exact ⟨hreport, hversion.1.trans hread, hversion.2⟩

end NativeBootstrap
