import NativeBootstrap.Proofs.Path.Parents
import NativeBootstrap.Proofs.Resolution.BesideDirectory

/-!
# What resolving tells of its failures

On the way to a plan two searches drop their error and log it, and two checks that a directory is
text log nothing. What is logged and what resolving comes to is read off the ways that it can go
(`Bootstrap.Resolves`).

The check of the install root never fails, since a decoded directory is text. That of the artifact's
directory fails only for the absolute form of a relative path, behind a working directory that is no
text (`artifactDirectory_nonText_iff`). Where no artifact is given, that the running program is not
located is one more path error, and the first search logs it as any other. The main statement is
`path_failures_are_warned_once`.
-/

set_option autoImplicit false

namespace NativeBootstrap

/-! ## Absolute forms that are text -/

namespace Path

/-- A path is text if it is text with a name behind it. -/
theorem isText_of_isText_push {bytes : Bytes} {name : Name} (h : Utf8.IsText (push bytes name)) :
    Utf8.IsText bytes := by
  unfold push at h
  obtain ⟨text, htext⟩ := h
  split at htext
  · rename_i hlast
    -- The separator at the end of the path is the cut.
    obtain ⟨front, rfl⟩ := List.getLast?_eq_some_iff.1 hlast
    rw [List.append_assoc, List.singleton_append] at htext
    obtain ⟨before, -, -, hbefore, -⟩ :=
      Utf8.exists_of_encode_eq_append_cons (c := '/') (by decide) htext.symm
    exact ⟨.ofList before ++ "/", by rw [Utf8.encode_append, hbefore, encode_slash]⟩
  · obtain ⟨before, -, -, hbefore, -⟩ :=
      Utf8.exists_of_encode_eq_append_cons (c := '/') (by decide) htext.symm
    exact ⟨.ofList before, hbefore.symm⟩

theorem isText_of_isText_foldl_push {bytes : Bytes} {names : List Name}
    (h : Utf8.IsText (names.foldl push bytes)) : Utf8.IsText bytes := by
  induction names generalizing bytes with
  | nil => exact h
  | cons name names ih => exact isText_of_isText_push (ih h)

theorem toString?_eq_none_iff {p : Path} : p.toString? = none ↔ ¬ Utf8.IsText p.bytes := by
  rw [Option.eq_none_iff_forall_ne_some]
  constructor
  · rintro hnone ⟨text, htext⟩
    exact hnone text (toString?_eq_some_iff.2 (congrArg Path.mk htext))
  · intro htext text hsome
    exact htext ⟨text, congrArg Path.bytes (toString?_eq_some_iff.1 hsome)⟩

theorem isText_of_mem_names {p : Path} {name : Name} (hp : Utf8.IsText p.bytes)
    (h : name ∈ p.names) : Utf8.IsText name := by
  rw [names_eq_filter_splitOn] at h
  exact isText_of_mem_splitOn hp (List.mem_filter.1 h).1

/-- The absolute form of a text is text, unless it is written behind a working directory that is
none. -/
theorem isText_absolute?_iff {workingDirectory : Option Path} {p absolute : Path}
    (hp : Utf8.IsText p.bytes) (h : p.absolute? workingDirectory = some absolute) :
    Utf8.IsText absolute.bytes ↔
      (p.isAbsolute = false → ∀ working, workingDirectory = some working →
        Utf8.IsText working.bytes) := by
  obtain ⟨base, ending, hbase, hending, hbytes⟩ := exists_of_absolute? h
  have hnames : ∀ name ∈ p.names ++ ending, Utf8.IsText name := by
    intro name hname
    rcases List.mem_append.1 hname with hname | hname
    · exact isText_of_mem_names hp hname
    · exact ⟨"", eq_nil_of_mem_ending hending hname⟩
  have hwhole : Utf8.IsText absolute.bytes ↔ Utf8.IsText base := by
    rw [hbytes]
    exact ⟨isText_of_isText_foldl_push, fun htext => isText_foldl_push htext hnames⟩
  rw [hwhole]
  unfold base? at hbase
  by_cases hroot : p.start = .root
  · have habsolute : p.isAbsolute = true := start_eq_root_iff.1 hroot
    have hseparators : Utf8.IsText base := by
      rw [if_pos hroot] at hbase
      split at hbase
      · exact ⟨"//", (Option.some.inj hbase).symm⟩
      · exact ⟨"/", (Option.some.inj hbase).symm⟩
    simp [habsolute, hseparators]
  · have hrelative : p.isAbsolute = false :=
      Bool.eq_false_iff.2 fun habsolute => hroot (start_eq_root_iff.2 habsolute)
    rw [if_neg hroot] at hbase
    obtain ⟨working, hworking, rfl⟩ := Option.map_eq_some_iff.1 hbase
    simp [hrelative, hworking]

end Path

/-! ## Directories that are no text -/

/-- Whether a location is decoded to a relative path of a directory, in a working directory that is no
text. -/
def World.LiesInNonText (w : World) (location : Path) : Prop :=
  ∃ encoded decoded working, location = .ofString encoded ∧ Percent.decode encoded = .ok decoded ∧
    (Path.ofString decoded).isAbsolute = false ∧ w.isDirectory (.ofString decoded) = true ∧
    w.directoryPath? = some working ∧ working.toString? = none

/-- A containing directory is text. -/
theorem toString?_of_containingDirectory {workingDirectory : Option Path} {encoded : String}
    {path : Path} (h : containingDirectory workingDirectory encoded = .ok path) :
    path.toString? ≠ none := by
  obtain ⟨-, -, -, plain, -, -, -, -, rfl⟩ := containingDirectory_eq_ok_iff.1 h
  rw [Path.toString?_ofString]
  exact Option.some_ne_none plain

/-- Where the artifact's directory is found and is no text, the artifact lies in a working directory
that is none; and there its directory is found. -/
theorem artifactDirectory_nonText_iff {w : World} {location : Path} :
    (∃ directory, artifactDirectory w location = .ok directory ∧ directory.toString? = none) ↔
      w.LiesInNonText location := by
  constructor
  · rintro ⟨directory, hdirectory, hnone⟩
    obtain ⟨encoded, decoded, hlocation, hdecoded, ⟨hdir, habsolute⟩ | ⟨-, hfound⟩⟩ :=
      artifactDirectory_eq_ok_iff.1 hdirectory
    · rw [Path.toString?_eq_none_iff, Path.isText_absolute?_iff ⟨decoded, rfl⟩ habsolute] at hnone
      push Not at hnone
      obtain ⟨hrelative, working, hworking, htext⟩ := hnone
      exact ⟨encoded, decoded, working, hlocation, hdecoded, hrelative, hdir, hworking,
        Path.toString?_eq_none_iff.2 htext⟩
    · exact absurd hnone (toString?_of_containingDirectory hfound)
  · rintro ⟨encoded, decoded, working, hlocation, hdecoded, hrelative, hdir, hworking, hnone⟩
    obtain ⟨directory, habsolute⟩ : ∃ directory,
        (Path.ofString decoded).absolute? w.directoryPath? = some directory := by
      have hstart : (Path.ofString decoded).start ≠ .root := by
        intro hroot
        rw [Path.start_eq_root_iff, hrelative] at hroot
        cases hroot
      unfold Path.absolute? Path.base?
      rw [if_neg hstart, hworking]
      exact ⟨_, rfl⟩
    refine ⟨directory, ?_, ?_⟩
    · exact artifactDirectory_eq_ok_iff.2
        ⟨encoded, decoded, hlocation, hdecoded, Or.inl ⟨hdir, habsolute⟩⟩
    · rw [Path.toString?_eq_none_iff, Path.isText_absolute?_iff ⟨decoded, rfl⟩ habsolute]
      intro htext
      exact Path.toString?_eq_none_iff.1 hnone (htext hrelative working hworking)

/-! ## The ways of resolving -/

namespace Bootstrap

variable {b : Bootstrap} {w : World} {variant : Variant} {value : Except BootstrapError LoadPlan}
  {warnings : List Event}

theorem findDirectory_nonText_iff :
    (∃ directory, b.findDirectory w = .ok directory ∧ directory.toString? = none) ↔
      ∃ location, b.location? w = some location ∧ w.LiesInNonText location := by
  cases hlocation : b.location? w with
  | none => simp [findDirectory_of_no_location hlocation]
  | some location =>
      rw [findDirectory_of_location hlocation, artifactDirectory_nonText_iff]
      simp

namespace Resolves

/-- A warning is logged for nothing but a path error. -/
theorem exists_pathFailure (h : Resolves b w variant value warnings) (hne : warnings ≠ []) :
    ∃ error failure, PathFailure b w error failure := by
  cases h with
  | failed hfailure what => exact ⟨_, _, hfailure⟩
  | nonUnicode hdirectory hnone => exact absurd rfl hne
  | planned hdirectory hroot => exact absurd rfl hne

theorem length_warnings_le (h : Resolves b w variant value warnings) : warnings.length ≤ 1 := by
  cases h with
  | failed hfailure what => exact Nat.le_refl 1
  | nonUnicode hdirectory hnone => exact Nat.zero_le 1
  | planned hdirectory hroot => exact Nat.zero_le 1

theorem level_of_mem (h : Resolves b w variant value warnings) {event : Event}
    (hevent : event ∈ warnings) : event.level = .warn := by
  cases h with
  | failed hfailure what =>
      rw [List.mem_singleton.1 hevent]
      rfl
  | nonUnicode hdirectory hnone => cases hevent
  | planned hdirectory hroot => cases hevent

/-- A failure without a warning is that of an artifact's directory that is no text. -/
theorem of_error_of_silent {error : BootstrapError}
    (h : Resolves b w variant (.error error) []) :
    ∃ directory, error = .unresolved (.nonUnicode directory) := by
  cases h with
  | nonUnicode hdirectory hnone => exact ⟨_, rfl⟩

/-- A directory that is told to be no text is the artifact's. -/
theorem of_nonUnicode {directory : Path}
    (h : Resolves b w variant (.error (.unresolved (.nonUnicode directory))) warnings) :
    b.findDirectory w = .ok directory ∧
      directory.toString? = none ∧ warnings = [] := by
  cases h with
  | failed hfailure what => cases hfailure
  | nonUnicode hdirectory hnone => exact ⟨hdirectory, hnone, rfl⟩

theorem ne_load (h : Resolves b w variant value warnings) (index : Nat) (path : Path)
    (failure : LoadFailure) : value ≠ .error (.load index path failure) := by
  cases h <;> exact nofun

end Resolves

end Bootstrap

/-! ## Main statement -/

/-- **Each failure of a path is warned of once, and none is lost.** On a host whose system's name
tells Windows, resolving logs one record of level debug and at most one more, which is a warning. A
warning is logged exactly if the artifact's directory is not found or nothing above it is, because of
a path error; it ends in that error's message, and resolving then fails for want of that directory. No
failure is one of loading. A failure without a warning is that of an artifact's directory that is no
text, which is so exactly if the artifact is decoded to a relative path of a directory and the working
directory is no text. The directory above is always text. The path error of a missing location is met
exactly if no artifact is given and the system does not tell where the program lies; it is the
artifact's directory that is not found then. -/
theorem path_failures_are_warned_once (b : Bootstrap)
    (hhost : "Windows".toList <:+: b.host.osName.toList) (w : World) :
    (∃ debug warnings, (b.resolve w).events.map Event.record = debug :: warnings ∧
      debug.level = .debug ∧ warnings.length ≤ 1 ∧ (∀ warning ∈ warnings, warning.level = .warn) ∧
      (warnings ≠ [] ↔ ∃ error failure, b.PathFailure w error failure) ∧
      (∀ error failure, b.PathFailure w error failure →
        (b.resolve w).value = .error (.unresolved failure) ∧
        ∃ warning what, warnings = [warning] ∧ warning.text = what ++ ": " ++ error.message) ∧
      ∀ error, (b.resolve w).value = .error error →
        (warnings = [] ↔ ∃ directory, error = .unresolved (.nonUnicode directory))) ∧
    (∀ index path failure, (b.resolve w).value ≠ .error (.load index path failure)) ∧
    (∀ directory, (b.resolve w).value = .error (.unresolved (.nonUnicode directory)) ↔
      b.findDirectory w = .ok directory ∧ directory.toString? = none) ∧
    ((∃ directory, (b.resolve w).value = .error (.unresolved (.nonUnicode directory))) ↔
      ∃ location, b.location? w = some location ∧ w.LiesInNonText location) ∧
    (∀ text root, containingDirectory w.directoryPath? text = .ok root → root.toString? ≠ none) ∧
    ∀ failure, b.PathFailure w .notLocated failure ↔
      (b.artifact = none ∧ w.programLocation? = none) ∧ failure = .unknownArtifact := by
  obtain ⟨variant, hselect⟩ : ∃ variant, Variant.select? b.host.descriptor = some variant :=
    ⟨_, Variant.select?_of_windows hhost⟩
  obtain ⟨value, warnings, hresolve, hway⟩ := Bootstrap.exists_resolves hselect w
  have hvalue : (b.resolve w).value = value := by rw [hresolve]
  have hfailed : ∀ error failure, b.PathFailure w error failure →
      value = .error (.unresolved failure) ∧ ∃ what, warnings = [.dropped what error.message] := by
    intro error failure hfailure
    obtain ⟨what, hfailed⟩ := Bootstrap.resolve_of_pathFailure hselect hfailure
    cases hresolve.symm.trans hfailed
    exact ⟨rfl, what, rfl⟩
  have hnonUnicode : ∀ directory,
      (b.resolve w).value = .error (.unresolved (.nonUnicode directory)) ↔
        b.findDirectory w = .ok directory ∧ directory.toString? = none := by
    intro directory
    constructor
    · intro herror
      rw [hvalue] at herror
      subst herror
      obtain ⟨hdirectory, hnone, -⟩ := hway.of_nonUnicode
      exact ⟨hdirectory, hnone⟩
    · rintro ⟨hdirectory, hnone⟩
      rw [Bootstrap.resolve_of_nonUnicode hselect hdirectory hnone]
  refine ⟨⟨(Event.selected b.host.descriptor variant).record, warnings.map Event.record, ?_, rfl, ?_, ?_,
    ?_, ?_, ?_⟩, ?_, hnonUnicode, ?_, fun _ _ => toString?_of_containingDirectory, ?_⟩
  · rw [hresolve]
    rfl
  · rw [List.length_map]
    exact hway.length_warnings_le
  · intro warning hwarning
    obtain ⟨event, hevent, rfl⟩ := List.mem_map.1 hwarning
    exact hway.level_of_mem hevent
  · rw [ne_eq, List.map_eq_nil_iff]
    constructor
    · exact hway.exists_pathFailure
    · rintro ⟨error, failure, hfailure⟩
      obtain ⟨-, what, rfl⟩ := hfailed error failure hfailure
      exact List.cons_ne_nil _ _
  · intro error failure hfailure
    obtain ⟨herror, what, rfl⟩ := hfailed error failure hfailure
    exact ⟨hvalue.trans herror, _, what, rfl, rfl⟩
  · intro error herror
    rw [hvalue] at herror
    subst herror
    rw [List.map_eq_nil_iff]
    constructor
    · rintro rfl
      exact hway.of_error_of_silent
    · rintro ⟨directory, rfl⟩
      exact hway.of_nonUnicode.2.2
  · intro index path failure
    rw [hvalue]
    exact hway.ne_load index path failure
  · simp only [hnonUnicode]
    exact Bootstrap.findDirectory_nonText_iff
  · intro failure
    rw [Bootstrap.pathFailure_notLocated_iff, Bootstrap.location?_eq_none_iff]

/-- A bootstrap of the running program, for the sample host. -/
def programBootstrap : Bootstrap := ⟨.scripted [], sampleHost, none⟩

/-- The bare world, where the system does not tell where the program lies. -/
def unlocatedWorld : World := { bareWorld with invocation := ⟨.ofString "shim", none⟩ }

/-- An artifact that is not decoded, one in the root, one in a working directory that is no text, and a
running program that is not located. -/
theorem path_failures_are_warned_once_of_four_artifacts :
    "Windows".toList <:+: sampleHost.osName.toList ∧
    (((bootstrapOf "/a%zz").resolve bareWorld).value = .error (.unresolved .unknownArtifact) ∧
      ∃ debug warning what,
        ((bootstrapOf "/a%zz").resolve bareWorld).events.map Event.record = [debug, warning] ∧
        warning.text = what ++ ": " ++ "malformed percent escape at byte 2") ∧
    (((bootstrapOf "/shim.jar").resolve bareWorld).value =
        .error (.unresolved (.noInstallRoot (.ofString "/"))) ∧
      ∃ debug warning what,
        ((bootstrapOf "/shim.jar").resolve bareWorld).events.map Event.record = [debug, warning] ∧
        warning.text = what ++ ": " ++ "path has no parent: /") ∧
    ((∃ directory, ((bootstrapOf "a").resolve byteWorld).value =
        .error (.unresolved (.nonUnicode directory))) ∧
      ∃ debug, ((bootstrapOf "a").resolve byteWorld).events.map Event.record = [debug]) ∧
    (programBootstrap.resolve unlocatedWorld).value = .error (.unresolved .unknownArtifact) ∧
      ∃ debug warning what,
        (programBootstrap.resolve unlocatedWorld).events.map Event.record = [debug, warning] ∧
        warning.text = what ++ ": " ++ "cannot locate artifact" := by
  have hwindows : "Windows".toList <:+: sampleHost.osName.toList := ⟨[], " 10".toList, by decide⟩
  have hundecoded : (bootstrapOf "/a%zz").PathFailure bareWorld
      (.undecodable (.malformedEscape 2)) .unknownArtifact := .artifact (by decide +kernel)
  have hinRoot : (bootstrapOf "/shim.jar").PathFailure bareWorld (.noParent "/")
      (.noInstallRoot (.ofString "/")) := .installRoot (by decide +kernel) (by decide +kernel)
  have hmessage : (PathError.undecodable (.malformedEscape 2)).message =
      "malformed percent escape at byte 2" := by decide
  have hmessage' : (PathError.noParent "/").message = "path has no parent: /" := by decide
  have hnonText : byteWorld.LiesInNonText (.ofString "a") :=
    ⟨"a", "a", ⟨[0x2F, 0xFF]⟩, rfl, by decide +kernel, by decide, by decide +kernel,
      by decide +kernel, by decide +kernel⟩
  obtain ⟨⟨debug, warnings, hevents, -, -, -, -, htold, -⟩, -⟩ :=
    path_failures_are_warned_once (bootstrapOf "/a%zz") hwindows bareWorld
  obtain ⟨⟨debug', warnings', hevents', -, -, -, -, htold', -⟩, -⟩ :=
    path_failures_are_warned_once (bootstrapOf "/shim.jar") hwindows bareWorld
  obtain ⟨⟨debug'', warnings'', hevents'', -, -, -, -, -, hsilent⟩, -, -, hlies, -⟩ :=
    path_failures_are_warned_once (bootstrapOf "a") hwindows byteWorld
  obtain ⟨⟨debug₄, warnings₄, hevents₄, -, -, -, -, htold₄, -⟩, -, -, -, -, hlocated⟩ :=
    path_failures_are_warned_once programBootstrap hwindows unlocatedWorld
  obtain ⟨hvalue, warning, what, rfl, htext⟩ := htold _ _ hundecoded
  obtain ⟨hvalue', warning', what', rfl, htext'⟩ := htold' _ _ hinRoot
  obtain ⟨hvalue₄, warning₄, what₄, rfl, htext₄⟩ :=
    htold₄ _ _ ((hlocated .unknownArtifact).2 ⟨⟨rfl, by decide +kernel⟩, rfl⟩)
  rw [hmessage] at htext
  rw [hmessage'] at htext'
  obtain ⟨directory, hvalue''⟩ := hlies.2 ⟨.ofString "a", rfl, hnonText⟩
  have hnone : warnings'' = [] := (hsilent _ hvalue'').2 ⟨directory, rfl⟩
  subst hnone
  exact ⟨hwindows, ⟨hvalue, debug, warning, what, hevents, htext⟩,
    ⟨hvalue', debug', warning', what', hevents', htext'⟩,
    ⟨⟨directory, hvalue''⟩, debug'', hevents''⟩,
    hvalue₄, debug₄, warning₄, what₄, hevents₄, htext₄⟩

end NativeBootstrap
