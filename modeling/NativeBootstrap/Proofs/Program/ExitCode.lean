import NativeBootstrap.Program
import NativeBootstrap.Proofs.Resolution.UnsupportedHost

/-!
# How a run of the program ends on Linux

There are no libraries for a Linux host, so each command line that can be read ends in a failure, and
the exit code tells how it was read: 0 for a text that was asked for, 2 for misuse, and 1 for all
else. The failure is one of resolving if the plan was asked for, and one of calling, caused by it, if
not (`refusal`). A log filter decides what is written before the report of the failure, and nothing
else (`exists_diagnostics_transcript`).

The main statement is `exit_code_tells_reading`.
-/

set_option autoImplicit false

namespace NativeBootstrap

/-- A host whose system is Linux has no libraries. -/
theorem Variant.select?_of_linux {host : Host} (h : host.osName = "Linux") :
    select? host.descriptor = none ∧ host.descriptor = ⟨.linux, host.descriptor.wordSize⟩ := by
  have hwindows : ¬ "Windows".toList <:+: host.osName.toList := by
    rw [h, ← Text.occursIn_iff]
    decide
  refine ⟨select?_of_not_windows hwindows, ?_⟩
  have hfamily := Host.family_of_linux hwindows (h ▸ List.infix_rfl)
  rw [← hfamily]

namespace Program

open CommandLine (Arguments)

/-! ## Without libraries for the host -/

/-- The failure of a run without libraries for its host. -/
def refusal (host : Host.Descriptor) (planOnly : Bool) : Failure :=
  if planOnly then .bootstrap (.unsupportedPlatform host)
  else .call (.notInitialized (some (.unsupportedPlatform host)))

/-- A refusal of the plan has no cause, and a refusal of calls has the one that there are no libraries
for the host. -/
theorem causes_refusal (words : LoaderWords) (host : Host.Descriptor) (planOnly : Bool) :
    (refusal host planOnly).causes words =
      if planOnly then [] else [(BootstrapError.unsupportedPlatform host).message] := by
  cases planOnly <;> rfl

/-- How a run ends for want of libraries, by what its command line says. -/
def ending (host : Host.Descriptor) : Except CommandLine.Stop Arguments → Outcome
  | .error .help => .shows CommandLine.helpText
  | .error .version => .shows CommandLine.versionText
  | .error (.misuse misuse) => .misused misuse
  | .ok said => .fails (refusal host said.plan)

/-- The code of an ending tells which kind of reading it is of. -/
theorem code_ending (words : LoaderWords) (host : Host.Descriptor)
    (reading : Except CommandLine.Stop Arguments) :
    (((ending host reading).transcript words).code = 0 ↔
      reading = .error .help ∨ reading = .error .version) ∧
    (((ending host reading).transcript words).code = 2 ↔
      ∃ misuse, reading = .error (.misuse misuse)) ∧
    (((ending host reading).transcript words).code = 1 ↔ ∃ said, reading = .ok said) := by
  rcases reading with (_ | _ | misuse) | said <;> simp [ending, Outcome.transcript]

section Unsupported

variable {w : World} (h : Variant.select? w.host.descriptor = none) (loader : Loader)

include h

theorem showPlan_of_unsupported (artifact : Option Path) :
    (showPlan loader w ⟨none, artifact⟩).value =
      .fails (.bootstrap (.unsupportedPlatform w.host.descriptor)) := by
  have hresolve := Bootstrap.resolve_of_unsupported (b := .ofOptions loader w ⟨none, artifact⟩) h w
  simp only [showPlan, SharedSession.install, SharedSession.fresh, hresolve]
  rfl

theorem bringUp_of_unsupported (artifact : Option Path) (versionInfo : Bool) :
    (bringUp loader w ⟨none, artifact⟩ versionInfo).value =
      .fails (.call (.notInitialized (some (.unsupportedPlatform w.host.descriptor)))) := by
  have hstart := Session.start_of_unsupported (b := .ofOptions loader w ⟨none, artifact⟩) h
    (s := .fresh) rfl w
  simp only [bringUp, SharedSession.connect, SharedSession.start, SharedSession.install,
    SharedSession.fresh, hstart]
  rfl

theorem perform_of_unsupported (settings : Settings) :
    (perform loader w settings).value = .fails (refusal w.host.descriptor settings.planOnly) := by
  cases hplan : settings.planOnly with
  | true =>
      rw [perform, if_pos hplan]
      exact showPlan_of_unsupported h loader settings.artifact
  | false =>
      rw [perform, if_neg (by simp [hplan])]
      exact bringUp_of_unsupported h loader settings.artifact settings.versionInfo

/-- A run ends as the reading of its command line says. -/
theorem run_value_of_unsupported (arguments : List Bytes) :
    (run loader w arguments).value = ending w.host.descriptor (Arguments.read arguments) := by
  cases hread : Arguments.read arguments with
  | error stop => cases stop <;> simp only [run, hread, ending]
  | ok said =>
      have hrun : run loader w arguments = perform loader w (.ofArguments said) := by
        simp only [run, hread]
        rfl
      rw [hrun]
      exact perform_of_unsupported h loader (.ofArguments said)

end Unsupported

/-! ## Transcripts -/

/-- The words of the system's loader are written to the diagnostics alone. -/
theorem Outcome.code_transcript_eq (words words' : LoaderWords) (outcome : Outcome) :
    (outcome.transcript words').code = (outcome.transcript words).code := by
  cases outcome <;> rfl

theorem Outcome.output_transcript_eq (words words' : LoaderWords) (outcome : Outcome) :
    (outcome.transcript words').output = (outcome.transcript words).output := by
  cases outcome <;> rfl

section Transcript

variable (words : LoaderWords) (specification : Option String) (stamp : String)
  (ending : Logged Outcome)

theorem transcript_code :
    (transcript words specification stamp ending).code = (ending.value.transcript words).code :=
  rfl

theorem transcript_output :
    (transcript words specification stamp ending).output = (ending.value.transcript words).output :=
  rfl

/-- What the outcome writes stands behind the log. -/
theorem exists_diagnostics_transcript :
    ∃ log, (transcript words specification stamp ending).diagnostics =
      log ++ (ending.value.transcript words).diagnostics :=
  ⟨_, rfl⟩

end Transcript

/-! ## Main statement -/

/-- **The exit code tells how the command line was read.** On a Linux host, with any loader, files,
log filter, stamps and words of the system's loader, a run exits with 0 exactly if the command line
asks for the help or the version, with 2 exactly if it is misused, and with 1 exactly if it can be
read. In that last case nothing is printed, and behind the log stands the report of a failure: that
there are no libraries for Linux, without a cause, if the plan was asked for, and else that the
libraries are not initialized, with that as its cause. Code, output and outcome are the same for all
filters, and for all command lines that can be read and agree on the flag for the plan, so for all
artifacts and with or without the version. -/
theorem exit_code_tells_reading (loader : Loader) (w : World) (hhost : w.host.osName = "Linux")
    (arguments : List Bytes) (words : LoaderWords) (specification : Option String)
    (stamp : String) :
    ((transcript words specification stamp (run loader w arguments)).code = 0 ↔
      Arguments.read arguments = .error .help ∨ Arguments.read arguments = .error .version) ∧
    ((transcript words specification stamp (run loader w arguments)).code = 2 ↔
      ∃ misuse, Arguments.read arguments = .error (.misuse misuse)) ∧
    ((transcript words specification stamp (run loader w arguments)).code = 1 ↔
      ∃ said, Arguments.read arguments = .ok said) ∧
    (∀ said, Arguments.read arguments = .ok said →
      (transcript words specification stamp (run loader w arguments)).output = "" ∧
      ∃ failure, (run loader w arguments).value = .fails failure ∧
        failure = refusal ⟨.linux, w.host.descriptor.wordSize⟩ said.plan ∧
        failure.causes words = (if said.plan then []
          else [(BootstrapError.unsupportedPlatform ⟨.linux, w.host.descriptor.wordSize⟩).message]) ∧
        ∃ log, (transcript words specification stamp (run loader w arguments)).diagnostics =
          log ++ failure.report words) ∧
    ∀ (loader' : Loader) (w' : World) (arguments' : List Bytes) (words' : LoaderWords)
      (specification' : Option String) (stamp' : String),
      w'.host.osName = "Linux" → w'.host.dataModel = w.host.dataModel →
      (arguments' = arguments ∨ ∃ said said', Arguments.read arguments = .ok said ∧
        Arguments.read arguments' = .ok said' ∧ said'.plan = said.plan) →
      (transcript words' specification' stamp' (run loader' w' arguments')).code =
          (transcript words specification stamp (run loader w arguments)).code ∧
        (transcript words' specification' stamp' (run loader' w' arguments')).output =
          (transcript words specification stamp (run loader w arguments)).output ∧
        (run loader' w' arguments').value = (run loader w arguments).value := by
  obtain ⟨hselect, hfamily⟩ := Variant.select?_of_linux hhost
  have hvalue := run_value_of_unsupported hselect loader arguments
  have hcode := code_ending words w.host.descriptor (Arguments.read arguments)
  rw [← hvalue, ← transcript_code words specification stamp] at hcode
  obtain ⟨hshown, hmisused, hfailed⟩ := hcode
  refine ⟨hshown, hmisused, hfailed, ?_, ?_⟩
  · intro said hread
    have hfails : (run loader w arguments).value =
        .fails (refusal ⟨.linux, w.host.descriptor.wordSize⟩ said.plan) := by
      rw [hvalue, hread, hfamily]
      rfl
    obtain ⟨log, hlog⟩ := exists_diagnostics_transcript words specification stamp
      (run loader w arguments)
    rw [hfails] at hlog
    refine ⟨?_, _, hfails, rfl, causes_refusal words _ _, log, hlog⟩
    rw [transcript_output, hfails]
    rfl
  · intro loader' w' arguments' words' specification' stamp' hhost' hmodel hagree
    obtain ⟨hselect', -⟩ := Variant.select?_of_linux hhost'
    have hdescriptor : w'.host.descriptor = w.host.descriptor :=
      Host.descriptor_congr (hhost'.trans hhost.symm) hmodel
    have hsame : (run loader' w' arguments').value = (run loader w arguments).value := by
      rw [hvalue, run_value_of_unsupported hselect' loader', hdescriptor]
      rcases hagree with rfl | ⟨said, said', hread, hread', hplan⟩
      · rfl
      · rw [hread, hread']
        simp only [ending, hplan]
    refine ⟨?_, ?_, hsame⟩
    · rw [transcript_code, transcript_code, hsame, Outcome.code_transcript_eq words words']
    · rw [transcript_output, transcript_output, hsame, Outcome.output_transcript_eq words words']

/-- A world of Linux without files. -/
def linuxWorld : World := { bareWorld with host := .running none }

/-- The plan is asked for, with an artifact and a filter that lets everything through. -/
theorem exit_code_tells_reading_of_plan :
    linuxWorld.host.osName = "Linux" ∧
    (transcript .silent (some "trace") "now " (run .system linuxWorld
      [Utf8.encode "--artifact", [0xff], Utf8.encode "--plan"])).code = 1 ∧
    (run .system linuxWorld [Utf8.encode "--artifact", [0xff], Utf8.encode "--plan"]).value =
      (run (.scripted []) linuxWorld [Utf8.encode "--plan"]).value ∧
    (transcript .silent none "now " (run .system linuxWorld [Utf8.encode "--help"])).code = 0 ∧
    (transcript .silent none "now " (run .system linuxWorld [Utf8.encode "--plan=no"])).code = 2 := by
  have hread : Arguments.read [Utf8.encode "--artifact", [0xff], Utf8.encode "--plan"] =
      .ok ⟨some [0xff], true, false⟩ := by decide +kernel
  have hread' : Arguments.read [Utf8.encode "--plan"] = .ok ⟨none, true, false⟩ := by
    decide +kernel
  have hhelp : Arguments.read [Utf8.encode "--help"] = .error .help := by decide +kernel
  obtain ⟨misuse, hmisuse⟩ : ∃ misuse, Arguments.read [Utf8.encode "--plan=no"] =
      .error (.misuse misuse) := ⟨.unwantedValue .plan (Utf8.encode "no") [], by decide +kernel⟩
  obtain ⟨-, -, hfailed, -, hsame⟩ := exit_code_tells_reading .system linuxWorld rfl
    [Utf8.encode "--artifact", [0xff], Utf8.encode "--plan"] .silent (some "trace") "now "
  obtain ⟨hshown, -⟩ :=
    exit_code_tells_reading .system linuxWorld rfl [Utf8.encode "--help"] .silent none "now "
  obtain ⟨-, hmisused, -⟩ :=
    exit_code_tells_reading .system linuxWorld rfl [Utf8.encode "--plan=no"] .silent none "now "
  refine ⟨rfl, hfailed.2 ⟨_, hread⟩, ?_, hshown.2 (Or.inl hhelp), hmisused.2 ⟨misuse, hmisuse⟩⟩
  exact ((hsame (.scripted []) linuxWorld [Utf8.encode "--plan"] .silent none "now " rfl rfl
    (Or.inr ⟨_, _, hread, hread', rfl⟩)).2.2).symm

end Program

end NativeBootstrap
