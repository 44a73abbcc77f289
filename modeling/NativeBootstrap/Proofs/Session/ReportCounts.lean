import NativeBootstrap.Proofs.Library.VersionQuery

/-!
# Each report is one call into the wrapper

A report that succeeds calls the entry point of the wrapper once, and nothing else calls that entry
point of any image. The invariant behind this is `Counted`: of the calls in the ledger, those of a
report are as many for the wrapper's image as reports have succeeded, and none for any other image;
and before libraries are up nothing has been called at all. One request keeps it (`Counted.step`), and
so does a run (`Counted.run`).

The invariant speaks of images, and says nothing of two libraries that are one image. A scripted
loader gives each library an image of its own (`Loader.scripted_id`), so that the core is not counted
for the wrapper, whatever the two export. The main statement is `reports_reach_wrapper_alone`.
-/

set_option autoImplicit false

namespace NativeBootstrap

/-! ## Calls of a report -/

theorem ForeignCall.isReportOf_iff {call : ForeignCall} {image : ImageId} :
    call.isReportOf image = true ↔ call = ⟨image, .report⟩ := by
  rcases call with ⟨called, entry⟩
  cases entry with
  | report => simp [isReportOf, EntryPoint.arguments]
  | version => simp [isReportOf]

/-- A call is one of the report of at most one image. -/
theorem ForeignCall.countP_report (called image : ImageId) :
    [ForeignCall.mk called .report].countP (·.isReportOf image) = if image = called then 1 else 0 := by
  by_cases h : image = called
  · subst h
    simp [isReportOf_iff]
  · have hne : ¬ called = image := fun heq => h heq.symm
    simp [isReportOf_iff, h, hne]

theorem ForeignCall.countP_version (called image : ImageId) :
    [ForeignCall.mk called .version].countP (·.isReportOf image) = 0 := by
  simp [isReportOf_iff]

/-- A scripted loader gives each library an image of its own. -/
theorem Loader.scripted_id {outcomes : List Outcome} {w : World} {earlier : List Path} {path : Path}
    {library : Library} (h : (scripted outcomes).load w earlier path = .ok library) :
    library.id = .turn earlier.length := by
  simp only [scripted] at h
  generalize outcomes.getD earlier.length (.give ⟨[], none, none⟩) = outcome at h
  cases outcome with
  | reject reason => simp [Outcome.apply] at h
  | fail => simp [Outcome.apply] at h
  | give image =>
      simp only [Outcome.apply, Except.ok.injEq] at h
      subst h
      rfl
  | giveIfFile image =>
      simp only [Outcome.apply] at h
      split at h
      · simp only [Except.ok.injEq] at h
        subst h
        rfl
      · simp at h

/-- A report calls the wrapper if that exports its symbol, and fails without a call if not. -/
theorem Loaded.report_cases {loaded : Loaded} {wrapper : Library}
    (h : loaded.get wrapperLibrary = .ok wrapper) :
    (EntryPoint.report.symbol ∈ wrapper.image.exports ∧ loaded.report.1.value = .ok () ∧
      loaded.report.2 = [⟨wrapper.id, .report⟩]) ∨
    (EntryPoint.report.symbol ∉ wrapper.image.exports ∧
      loaded.report.1.value = .error (.missingSymbol wrapper.path EntryPoint.report.symbol) ∧
      loaded.report.2 = []) := by
  have hne : EntryPoint.report.symbol ≠ "" := by decide
  have hreport := Loaded.report_of_get h
  by_cases hmem : EntryPoint.report.symbol ∈ wrapper.image.exports
  · rw [if_pos ((Image.hasSymbol_iff hne).2 hmem), Prod.mk.injEq] at hreport
    exact Or.inl ⟨hmem, hreport⟩
  · rw [if_neg (mt (Image.hasSymbol_iff hne).1 hmem), Prod.mk.injEq] at hreport
    exact Or.inr ⟨hmem, hreport⟩

namespace Session

/-- Whether a reply tells that a report succeeded. -/
def Reply.isReport : Reply → Bool
  | .report (.ok _) => true
  | _ => false

/-- How many of these replies tell that a report succeeded. -/
def reportsAnswered (replies : List (Logged Reply)) : Nat :=
  replies.countP fun reply => reply.value.isReport

/-- The calls into loaded libraries that a request makes. -/
def Request.calls (loaded : Loaded) : Request → List ForeignCall
  | .report => loaded.report.2
  | .version => loaded.version.2
  | _ => []

variable {b : Bootstrap} {s : Session}

/-! ## One request -/

/-- With libraries up, a request changes nothing but the ledger of calls. -/
theorem step_of_ready {loaded : Loaded} (h : s.outcome = some (.ok loaded)) (w : World) :
    ∀ request : Request,
      (s.step b w request).2 = { s with called := s.called ++ request.calls loaded } := by
  intro request
  cases request with
  | report => simp [step, report_of_ready h, Request.calls]
  | version => simp [step, version_of_ready h, Request.calls]
  | start => simp [step, start_of_settled b h, Request.calls]
  | phase => simp [step, Request.calls]
  | host => simp [step, Request.calls]
  | resolve => simp [step, Request.calls]
  | libraries => simp [step, Request.calls]
  | get name => simp [step, Request.calls]

/-- Without libraries no report succeeds, and nothing is called. -/
theorem step_of_unready (h : ∀ loaded, s.outcome ≠ some (.ok loaded)) (w : World) :
    ∀ request : Request, (s.step b w request).1.value.isReport = false ∧
      (s.step b w request).2.called = s.called := by
  have hlibraries : ∃ failure, s.libraries = .error (.notInitialized failure) := by
    cases hs : s.outcome with
    | none => exact ⟨none, by simp [libraries, hs]⟩
    | some outcome =>
        cases outcome with
        | error error => exact ⟨some error, by simp [libraries, hs]⟩
        | ok loaded => exact absurd hs (h loaded)
  obtain ⟨failure, hlibraries⟩ := hlibraries
  intro request
  cases request with
  | report => simp [step, report, hlibraries, Reply.isReport]
  | version => simp [step, version, hlibraries, Reply.isReport]
  | start =>
      -- Even the start that brings the libraries up calls nothing.
      refine ⟨rfl, ?_⟩
      show (s.start b w).2.called = s.called
      unfold start
      split <;> rfl
  | phase => exact ⟨rfl, rfl⟩
  | host => exact ⟨rfl, rfl⟩
  | resolve => exact ⟨rfl, rfl⟩
  | libraries => exact ⟨rfl, rfl⟩
  | get name => exact ⟨rfl, rfl⟩

/-- With a wrapper, a request makes one call of a report into it if it is a report that succeeds, and
none if not. -/
theorem countP_calls {loaded : Loaded} {wrapper : Library} (h : s.outcome = some (.ok loaded))
    (hget : loaded.get wrapperLibrary = .ok wrapper) (w : World) (image : ImageId) :
    ∀ request : Request,
      (request.calls loaded).countP (·.isReportOf image) =
        if image = wrapper.id ∧ (s.step b w request).1.value.isReport = true then 1 else 0 := by
  intro request
  cases request with
  | report =>
      have hreply : (s.step b w .report).1.value = .report loaded.report.1.value := by
        simp [step, report_of_ready h]
      rw [hreply, Request.calls]
      rcases Loaded.report_cases hget with ⟨-, hvalue, hcalls⟩ | ⟨-, hvalue, hcalls⟩
      · rw [hvalue, hcalls, ForeignCall.countP_report]
        simp [Reply.isReport]
      · rw [hvalue, hcalls]
        simp [Reply.isReport]
  | version =>
      -- A version query calls another entry point, whichever library it finds.
      have hnone : loaded.version.2.countP (·.isReportOf image) = 0 := by
        unfold Loaded.version
        split
        · rfl
        · exact ForeignCall.countP_version _ image
      rw [Request.calls, hnone]
      simp [step, Reply.isReport]
  | start => simp [step, Request.calls, Reply.isReport]
  | phase => simp [step, Request.calls, Reply.isReport]
  | host => simp [step, Request.calls, Reply.isReport]
  | resolve => simp [step, Request.calls, Reply.isReport]
  | libraries => simp [step, Request.calls, Reply.isReport]
  | get name => simp [step, Request.calls, Reply.isReport]

/-! ## The invariant -/

/-- Whether the ledger of a session in which this many reports have succeeded shows them: as calls of
the wrapper's report, and of no other. -/
structure Counted (s : Session) (answered : Nat) : Prop where
  unready : (∀ loaded, s.outcome ≠ some (.ok loaded)) → answered = 0 ∧ s.called = []
  ready : ∀ loaded wrapper, s.outcome = some (.ok loaded) →
    loaded.get wrapperLibrary = .ok wrapper →
    ∀ image, s.reportCount image = if image = wrapper.id then answered else 0

theorem counted_fresh : Counted fresh 0 := by
  constructor
  · intro _
    exact ⟨rfl, rfl⟩
  · intro loaded wrapper hout
    cases hout

/-- A session whose ledger is empty shows no reports. -/
theorem Counted.of_called_eq_nil (h : s.called = []) : Counted s 0 := by
  constructor
  · intro _
    exact ⟨rfl, h⟩
  · intro loaded wrapper _ _ image
    simp [reportCount, h]

/-- A request adds to the ledger what its reply adds to the reports that have succeeded. -/
theorem Counted.step {answered : Nat} (h : Counted s answered) (w : World) (request : Request) :
    Counted (s.step b w request).2
      (answered + if (s.step b w request).1.value.isReport then 1 else 0) := by
  by_cases hunready : ∀ loaded, s.outcome ≠ some (.ok loaded)
  · obtain ⟨rfl, hcalled⟩ := h.unready hunready
    obtain ⟨hreply, hsame⟩ := step_of_unready (b := b) hunready w request
    rw [hreply]
    exact .of_called_eq_nil (hsame.trans hcalled)
  · push Not at hunready
    obtain ⟨loaded, hs⟩ := hunready
    have hnext := step_of_ready (b := b) hs w request
    constructor
    · intro hnone
      exact absurd (by rw [hnext]; exact hs) (hnone loaded)
    · intro other wrapper hother hget image
      -- The libraries are still those that were up before the request.
      rw [hnext] at hother ⊢
      obtain rfl : loaded = other := by
        rw [hs] at hother
        simpa using hother
      have hold := h.ready loaded wrapper hs hget image
      have hnew := countP_calls (b := b) hs hget w image request
      simp only [reportCount] at hold ⊢
      rw [List.countP_append, hold, hnew]
      by_cases himage : image = wrapper.id
      · simp [himage]
      · simp [himage]

/-- What a run adds to the ledger, its replies tell. -/
theorem Counted.run {answered : Nat} (h : Counted s answered) (steps : List (World × Request)) :
    Counted (run b s steps).2 (answered + reportsAnswered (run b s steps).1) := by
  induction steps generalizing s answered with
  | nil => exact h
  | cons entry rest ih =>
      obtain ⟨w, request⟩ := entry
      have hrest := ih (h.step (b := b) w request)
      rw [run_cons]
      simp only [reportsAnswered, List.countP_cons] at hrest ⊢
      rw [Nat.add_comm (List.countP _ _), ← Nat.add_assoc]
      exact hrest

/-! ## Main statement -/

/-- **Each report that succeeds is one call into the wrapper.** At every moment of a session with a
scripted loader, whatever its libraries export, that is, after every run: while the libraries are not
up, no report has succeeded, and none was called of any image. Once they are up, the report of the
wrapper's image was called, with two null pointers, as often as a report has succeeded, and that of
any other image was never called, not of the core's either. From then on a report fails exactly if the
wrapper does not export its symbol, and then changes nothing. -/
theorem reports_reach_wrapper_alone (outcomes : List Outcome) (host : Host) (artifact : Option Path)
    (steps : List (World × Request)) :
    ∀ replies s, run ⟨.scripted outcomes, host, artifact⟩ fresh steps = (replies, s) →
      (s.phase ≠ .ready → reportsAnswered replies = 0 ∧ ∀ image, s.reportCount image = 0) ∧
      (s.phase = .ready → ∃ loaded core wrapper,
        s.libraries = .ok loaded ∧ loaded.libraries = [core, wrapper] ∧
        loaded.get wrapperLibrary = .ok wrapper ∧ core.id ≠ wrapper.id ∧
        s.reportCounts loaded = [0, reportsAnswered replies] ∧
        (∀ image, s.reportCount image =
          if image = wrapper.id then reportsAnswered replies else 0) ∧
        ∀ w,
          ((∃ error, (s.step ⟨.scripted outcomes, host, artifact⟩ w .report).1.value =
              .report (.error error)) ↔
            "Java_com_github_jni_JNIWrapper_JNI_1clogger_1lib_1version" ∉ wrapper.image.exports) ∧
          ("Java_com_github_jni_JNIWrapper_JNI_1clogger_1lib_1version" ∉ wrapper.image.exports →
            (s.step ⟨.scripted outcomes, host, artifact⟩ w .report).2 = s)) := by
  intro replies s hrun
  have hcounted : Counted s (reportsAnswered replies) := by
    have h := (counted_fresh).run (b := ⟨.scripted outcomes, host, artifact⟩) steps
    rw [hrun, Nat.zero_add] at h
    exact h
  refine ⟨?_, ?_⟩
  · intro hphase
    have hunready : ∀ loaded, s.outcome ≠ some (.ok loaded) := by
      intro loaded hout
      exact hphase (by simp [phase, hout])
    obtain ⟨hanswered, hcalled⟩ := hcounted.unready hunready
    refine ⟨hanswered, ?_⟩
    intro image
    simp [reportCount, hcalled]
  · intro hphase
    obtain ⟨loaded, hout⟩ := exists_outcome_of_ready hphase
    obtain ⟨before, w', after, -, -, hattempt⟩ :=
      exists_first_start rfl ((congrArg (fun result => result.2.outcome) hrun).trans hout)
    obtain ⟨-, directory, core, wrapper, -, hlibraries, ⟨-, hcore⟩, hget, hwrapper⟩ :=
      exists_get_of_attempt hattempt
    -- The wrapper was loaded after the core, so it has another turn.
    have hids : core.id ≠ wrapper.id := by
      rw [Loader.scripted_id hcore, Loader.scripted_id hwrapper]
      simp
    have hcount := hcounted.ready loaded wrapper hout hget
    refine ⟨loaded, core, wrapper, by simp [libraries, hout], hlibraries, hget, hids, ?_, hcount, ?_⟩
    · simp [reportCounts, hlibraries, hcount, hids]
    · intro w
      have hreply : (s.step ⟨.scripted outcomes, host, artifact⟩ w .report).1.value =
          .report loaded.report.1.value := by
        simp [step, report_of_ready hout]
      rw [hreply, step_of_ready hout, Request.calls]
      rcases Loaded.report_cases hget with ⟨hmem, hvalue, -⟩ | ⟨hmem, hvalue, hcalls⟩
      · rw [hvalue]
        exact ⟨⟨by simp, fun hnone => absurd hmem hnone⟩, fun hnone => absurd hmem hnone⟩
      · rw [hvalue, hcalls, List.append_nil]
        exact ⟨⟨fun _ => hmem, fun _ => ⟨_, rfl⟩⟩, fun _ => rfl⟩

/-- A core that exports the symbol of the wrapper beside its own, and a wrapper. -/
def twiceExported : List Outcome :=
  [.give ⟨[EntryPoint.version.symbol, EntryPoint.report.symbol], none, some [0x31]⟩,
    .give ⟨[EntryPoint.report.symbol], none, none⟩]

/-- A report before the start and two after it, with a version query and a second start between. -/
def reportingSteps : List (World × Request) :=
  [(installedWorld, .report), (installedWorld, .start), (bareWorld, .report),
    (installedWorld, .version), (installedWorld, .start), (installedWorld, .report)]

/-- What these come to. -/
def reportingRun : List (Logged Reply) × Session :=
  run ⟨.scripted twiceExported, sampleHost, sampleBootstrap.artifact⟩ fresh reportingSteps

/-- The wrapper's report was called twice, and that of the core not at all. -/
theorem reports_reach_wrapper_alone_of_two_reports :
    reportingRun.2.phase = .ready ∧ reportsAnswered reportingRun.1 = 2 ∧
    ∃ loaded, reportingRun.2.libraries = .ok loaded ∧
      reportingRun.2.reportCounts loaded = [0, 2] := by
  have hphase : reportingRun.2.phase = .ready := by decide +kernel
  have hanswered : reportsAnswered reportingRun.1 = 2 := by decide +kernel
  obtain ⟨-, hready⟩ := reports_reach_wrapper_alone twiceExported sampleHost
    sampleBootstrap.artifact reportingSteps reportingRun.1 reportingRun.2 rfl
  obtain ⟨loaded, core, wrapper, hlibraries, -, -, -, hcounts, -⟩ := hready hphase
  rw [hanswered] at hcounts
  exact ⟨hphase, hanswered, loaded, hlibraries, hcounts⟩

end Session

end NativeBootstrap
