import NativeBootstrap.Bootstrap

/-!
# The steps on the way to a directory and to a plan

Each of the functions that find a directory is a chain of steps of which any may fail. For each of
them one lemma says through which values a success has passed: `containingDirectory_eq_ok_iff`,
`artifactDirectory_eq_ok_iff`, `parentDirectory_eq_some_iff` and, for the load plan,
`resolve_eq_ok_iff`. Later proofs read these and unfold no function of the chain. Which of the errors
is that of a program without a location says `Bootstrap.pathFailure_notLocated_iff`.

Of resolving the failures matter as well. `Bootstrap.Resolves` lists the ways it can go with libraries
for the host, each with what it comes to and what it logs behind the selected variant; there are no
others (`Bootstrap.exists_resolves`).
-/

set_option autoImplicit false

namespace NativeBootstrap

/-! ## Single steps -/

theorem decodePath_eq_ok_iff {encoded text : String} :
    decodePath encoded = .ok text ↔ Percent.decode encoded = .ok text := by
  unfold decodePath
  cases Percent.decode encoded with
  | ok value =>
      show (Except.ok value : Except PathError String) = .ok text ↔ _
      rw [Except.ok.injEq, Except.ok.injEq]
  | error fault =>
      constructor
      · intro h
        cases h
      · intro h
        cases h

theorem decodePath_of_error {encoded : String} {fault : Percent.Fault}
    (h : Percent.decode encoded = .error fault) : decodePath encoded = .error (.undecodable fault) := by
  unfold decodePath
  rw [h]
  rfl

theorem absolutePath_eq_ok_iff {workingDirectory : Option Path} {path absolute : Path} :
    absolutePath workingDirectory path = .ok absolute ↔
      path.absolute? workingDirectory = some absolute := by
  unfold absolutePath
  cases path.absolute? workingDirectory <;> simp

theorem pathText_eq_ok_iff {path : Path} {text : String} :
    pathText path = .ok text ↔ path = .ofString text := by
  unfold pathText
  rw [← Path.toString?_eq_some_iff]
  cases path.toString? <;> simp

theorem decodedParent_eq_ok_iff {decoded : String} {parent : Path} :
    decodedParent decoded = .ok parent ↔
      (Path.ofString decoded).parent? = some parent ∧ parent.bytes ≠ [] := by
  unfold decodedParent
  cases (Path.ofString decoded).parent? with
  | none => simp
  | some found =>
      by_cases hempty : found.bytes = []
      · simp only [hempty, ↓reduceIte, reduceCtorEq, Option.some.injEq, false_iff, not_and,
          Decidable.not_not]
        rintro rfl
        exact hempty
      · simp only [hempty, ↓reduceIte, Except.ok.injEq, Option.some.injEq]
        constructor
        · rintro rfl
          exact ⟨rfl, hempty⟩
        · exact And.left

theorem orWarn_value_eq_some_iff {ε α : Type} {what : String} {message : ε → String}
    {result : Except ε α} {value : α} :
    (orWarn what message result).value = some value ↔ result = .ok value := by
  cases result <;> simp [orWarn]

/-- A chain of two steps succeeds exactly if the first does and the second does with its value. -/
theorem bind_eq_ok_iff {ε α β : Type} {first : Except ε α} {second : α → Except ε β} {value : β} :
    (first >>= second) = .ok value ↔ ∃ a, first = .ok a ∧ second a = .ok value := by
  cases first with
  | ok a => simp [bind, Except.bind]
  | error error => simp [bind, Except.bind]

/-- A chain of two steps does not fail with an error that is none of either. -/
theorem bind_ne_error {ε α β : Type} {first : Except ε α} {second : α → Except ε β} {error : ε}
    (hfirst : first ≠ .error error) (hsecond : ∀ a, second a ≠ .error error) :
    (first >>= second) ≠ .error error := by
  cases first with
  | ok a => exact hsecond a
  | error other =>
      rintro h
      cases h
      exact hfirst rfl

/-! ## Directories -/

/-- A containing directory is found by decoding, taking the parent, making that absolute, and
decoding once more. -/
theorem containingDirectory_eq_ok_iff {workingDirectory : Option Path} {encoded : String}
    {path : Path} :
    containingDirectory workingDirectory encoded = .ok path ↔
      ∃ decoded parent text plain, Percent.decode encoded = .ok decoded ∧
        decodedParent decoded = .ok parent ∧
        parent.absolute? workingDirectory = some (.ofString text) ∧
        Percent.decode text = .ok plain ∧ path = .ofString plain := by
  unfold containingDirectory
  simp only [bind_eq_ok_iff, decodePath_eq_ok_iff, absolutePath_eq_ok_iff, pathText_eq_ok_iff]
  constructor
  · rintro ⟨decoded, hdecoded, parent, hparent, absolute, habsolute, text, rfl, plain, hplain, h⟩
    cases h
    exact ⟨decoded, parent, text, plain, hdecoded, hparent, habsolute, hplain, rfl⟩
  · rintro ⟨decoded, parent, text, plain, hdecoded, hparent, habsolute, hplain, rfl⟩
    exact ⟨decoded, hdecoded, parent, hparent, _, habsolute, text, rfl, plain, hplain, rfl⟩

/-- A search that fails at the first decoding does not reach the working directory. -/
theorem containingDirectory_of_fault {encoded : String} {fault : Percent.Fault}
    (h : Percent.decode encoded = .error fault) (workingDirectory : Option Path) :
    containingDirectory workingDirectory encoded = .error (.undecodable fault) := by
  unfold containingDirectory
  rw [decodePath_of_error h]
  rfl

theorem parentDirectory_eq_some_iff {workingDirectory : Option Path} {encoded : String}
    {path : Path} :
    (parentDirectory workingDirectory encoded).value = some path ↔
      containingDirectory workingDirectory encoded = .ok path :=
  orWarn_value_eq_some_iff

/-- An artifact's directory is the decoded location if that is a directory, and its containing
directory if not. -/
theorem artifactDirectory_eq_ok_iff {w : World} {location path : Path} :
    artifactDirectory w location = .ok path ↔
      ∃ encoded decoded, location = .ofString encoded ∧ Percent.decode encoded = .ok decoded ∧
        (w.isDirectory (.ofString decoded) = true ∧
            (Path.ofString decoded).absolute? w.directoryPath? = some path ∨
          w.isDirectory (.ofString decoded) = false ∧
            containingDirectory w.directoryPath? encoded = .ok path) := by
  unfold artifactDirectory
  simp only [bind_eq_ok_iff, decodePath_eq_ok_iff, pathText_eq_ok_iff]
  constructor
  · rintro ⟨encoded, rfl, decoded, hdecoded, h⟩
    refine ⟨encoded, decoded, rfl, hdecoded, ?_⟩
    split at h
    · rename_i hdir
      exact Or.inl ⟨hdir, absolutePath_eq_ok_iff.1 h⟩
    · rename_i hdir
      exact Or.inr ⟨by simpa using hdir, h⟩
  · rintro ⟨encoded, decoded, rfl, hdecoded, h⟩
    refine ⟨encoded, rfl, decoded, hdecoded, ?_⟩
    rcases h with ⟨hdir, h⟩ | ⟨hdir, h⟩
    · rw [if_pos hdir]
      exact absolutePath_eq_ok_iff.2 h
    · rw [if_neg (by simp [hdir])]
      exact h

/-! ## Locations -/

section Located

variable (workingDirectory : Option Path)

theorem decodePath_ne_notLocated (encoded : String) : decodePath encoded ≠ .error .notLocated := by
  unfold decodePath
  cases Percent.decode encoded <;> nofun

theorem absolutePath_ne_notLocated (path : Path) :
    absolutePath workingDirectory path ≠ .error .notLocated := by
  unfold absolutePath
  split <;> nofun

theorem pathText_ne_notLocated (path : Path) : pathText path ≠ .error .notLocated := by
  unfold pathText
  split <;> nofun

theorem decodedParent_ne_notLocated (decoded : String) :
    decodedParent decoded ≠ .error .notLocated := by
  unfold decodedParent
  split
  · split <;> nofun
  · nofun

/-- A search that is given a path does not fail for want of one. -/
theorem containingDirectory_ne_notLocated (encoded : String) :
    containingDirectory workingDirectory encoded ≠ .error .notLocated := by
  refine bind_ne_error (decodePath_ne_notLocated encoded) fun decoded => ?_
  refine bind_ne_error (decodedParent_ne_notLocated decoded) fun parent => ?_
  refine bind_ne_error (absolutePath_ne_notLocated workingDirectory parent) fun absolute => ?_
  refine bind_ne_error (pathText_ne_notLocated absolute) fun text => ?_
  exact bind_ne_error (decodePath_ne_notLocated text) nofun

theorem artifactDirectory_ne_notLocated (w : World) (location : Path) :
    artifactDirectory w location ≠ .error .notLocated := by
  refine bind_ne_error (pathText_ne_notLocated location) fun encoded => ?_
  refine bind_ne_error (decodePath_ne_notLocated encoded) fun decoded => ?_
  split
  · exact absolutePath_ne_notLocated _ _
  · exact containingDirectory_ne_notLocated _ encoded

end Located

theorem programDirectory_of_location {w : World} {location : Path}
    (h : w.programLocation? = some location) :
    programDirectory w = artifactDirectory w location := by
  unfold programDirectory programLocation
  rw [h]
  rfl

theorem programDirectory_of_no_location {w : World} (h : w.programLocation? = none) :
    programDirectory w = .error .notLocated := by
  unfold programDirectory programLocation
  rw [h]
  rfl

/-! ## Plans -/

namespace Bootstrap

/-- The location whose directory is looked for: that of the given artifact, or of the running program,
if the system tells it. -/
def location? (b : Bootstrap) (w : World) : Option Path := b.artifact.or w.programLocation?

variable {b : Bootstrap} {w : World} {variant : Variant} {value : Except BootstrapError LoadPlan}
  {warnings : List Event}

theorem location?_eq_none_iff :
    b.location? w = none ↔ b.artifact = none ∧ w.programLocation? = none :=
  Option.or_eq_none_iff

/-- The directory looked for is that of the artifact at the location. -/
theorem findDirectory_of_location {location : Path} (h : b.location? w = some location) :
    b.findDirectory w = NativeBootstrap.artifactDirectory w location := by
  unfold location? at h
  unfold findDirectory
  cases hartifact : b.artifact with
  | some given =>
      rw [hartifact] at h
      cases h
      rfl
  | none =>
      rw [hartifact] at h
      exact programDirectory_of_location h

theorem findDirectory_of_no_location (h : b.location? w = none) :
    b.findDirectory w = .error .notLocated := by
  unfold location? at h
  unfold findDirectory
  cases hartifact : b.artifact with
  | some given =>
      rw [hartifact] at h
      cases h
  | none =>
      rw [hartifact] at h
      exact programDirectory_of_no_location h

/-- Nothing but the want of a location is told as such. -/
theorem findDirectory_eq_notLocated_iff :
    b.findDirectory w = .error .notLocated ↔ b.location? w = none := by
  refine ⟨?_, findDirectory_of_no_location⟩
  intro h
  cases hlocation : b.location? w with
  | none => rfl
  | some location =>
      rw [findDirectory_of_location hlocation] at h
      exact absurd h (artifactDirectory_ne_notLocated w location)

/-- The errors of paths that end resolving, each with the failure that is told for it. -/
inductive PathFailure (b : Bootstrap) (w : World) : PathError → ResolutionFailure → Prop where
  /-- The directory of the artifact is not found. -/
  | artifact {error : PathError}
      (hdirectory : b.findDirectory w = .error error) :
      PathFailure b w error .unknownArtifact
  /-- Nothing is found above the directory of the artifact. -/
  | installRoot {text : String} {error : PathError}
      (hdirectory : b.findDirectory w = .ok (.ofString text))
      (hroot : containingDirectory w.directoryPath? text = .error error) :
      PathFailure b w error (.noInstallRoot (.ofString text))

/-- The error of a missing location is met by the search for the artifact's directory alone. -/
theorem pathFailure_notLocated_iff {failure : ResolutionFailure} :
    PathFailure b w .notLocated failure ↔ b.location? w = none ∧ failure = .unknownArtifact := by
  constructor
  · intro h
    cases h with
    | artifact hdirectory => exact ⟨findDirectory_eq_notLocated_iff.1 hdirectory, rfl⟩
    | installRoot hdirectory hroot => exact absurd hroot (containingDirectory_ne_notLocated _ _)
  · rintro ⟨hnone, rfl⟩
    exact .artifact (findDirectory_of_no_location hnone)

/-- A path error is told by a warning, and by the failure that goes with it. -/
theorem resolve_of_pathFailure (hvariant : Variant.select? b.host.descriptor = some variant)
    {error : PathError} {failure : ResolutionFailure} (h : PathFailure b w error failure) :
    ∃ what, b.resolve w = ⟨.error (.unresolved failure),
      [.selected b.host.descriptor variant, .dropped what error.message]⟩ := by
  cases h with
  | artifact hdirectory =>
      refine ⟨"cannot resolve artifact directory", ?_⟩
      simp only [resolve, hvariant, artifactDirectory, orWarn, hdirectory]
  | @installRoot text error hdirectory hroot =>
      refine ⟨"cannot resolve parent of " ++ Quoted.quote text, ?_⟩
      simp only [resolve, hvariant, artifactDirectory, orWarn, hdirectory, planBeside,
        Path.toString?_ofString, parentDirectory, hroot, List.cons_append, List.nil_append]

/-- A directory that is no text is told as such, and without a warning. -/
theorem resolve_of_nonUnicode (hvariant : Variant.select? b.host.descriptor = some variant)
    {directory : Path}
    (hdirectory : b.findDirectory w = .ok directory)
    (hnone : directory.toString? = none) :
    b.resolve w = ⟨.error (.unresolved (.nonUnicode directory)),
      [.selected b.host.descriptor variant]⟩ := by
  simp only [resolve, hvariant, artifactDirectory, orWarn, hdirectory, planBeside, hnone,
    List.append_nil]

/-- Where a directory is found above the artifact's, there is a plan. -/
theorem resolve_of_root (hvariant : Variant.select? b.host.descriptor = some variant)
    {text root : String}
    (hdirectory : b.findDirectory w = .ok (.ofString text))
    (hroot : containingDirectory w.directoryPath? text = .ok (.ofString root)) :
    b.resolve w = ⟨.ok (.underRoot root variant b.host.fileSeparator),
      [.selected b.host.descriptor variant]⟩ := by
  simp only [resolve, hvariant, artifactDirectory, orWarn, hdirectory, planBeside,
    Path.toString?_ofString, parentDirectory, hroot, List.append_nil]

/-- The ways that resolving can go for a variant: what it comes to, and what it logs behind the
selected variant. -/
inductive Resolves (b : Bootstrap) (w : World) (variant : Variant) :
    Except BootstrapError LoadPlan → List Event → Prop where
  | failed {error : PathError} {failure : ResolutionFailure} (h : PathFailure b w error failure)
      (what : String) :
      Resolves b w variant (.error (.unresolved failure)) [.dropped what error.message]
  | nonUnicode {directory : Path}
      (hdirectory : b.findDirectory w = .ok directory)
      (hnone : directory.toString? = none) :
      Resolves b w variant (.error (.unresolved (.nonUnicode directory))) []
  | planned {text root : String}
      (hdirectory : b.findDirectory w = .ok (.ofString text))
      (hroot : containingDirectory w.directoryPath? text = .ok (.ofString root)) :
      Resolves b w variant (.ok (.underRoot root variant b.host.fileSeparator)) []

/-- With libraries for the host, resolving goes in one of these ways. -/
theorem exists_resolves (h : Variant.select? b.host.descriptor = some variant) (w : World) :
    ∃ value warnings, b.resolve w = ⟨value, .selected b.host.descriptor variant :: warnings⟩ ∧
      Resolves b w variant value warnings := by
  cases hdirectory : b.findDirectory w with
  | error error =>
      obtain ⟨what, hresolve⟩ := resolve_of_pathFailure h (.artifact hdirectory)
      exact ⟨_, _, hresolve, .failed (.artifact hdirectory) what⟩
  | ok directory =>
      cases htext : directory.toString? with
      | none =>
          exact ⟨_, _, resolve_of_nonUnicode h hdirectory htext, .nonUnicode hdirectory htext⟩
      | some text =>
          obtain rfl := Path.toString?_eq_some_iff.1 htext
          cases hroot : containingDirectory w.directoryPath? text with
          | error error =>
              obtain ⟨what, hresolve⟩ := resolve_of_pathFailure h (.installRoot hdirectory hroot)
              exact ⟨_, _, hresolve, .failed (.installRoot hdirectory hroot) what⟩
          | ok root =>
              obtain ⟨-, -, -, plain, -, -, -, -, rfl⟩ := containingDirectory_eq_ok_iff.1 hroot
              exact ⟨_, _, resolve_of_root h hdirectory hroot, .planned hdirectory hroot⟩

/-- A plan is found by selecting a variant, finding the artifact's directory, reading that as an
encoded path again, and taking the directory that contains it as the install root. -/
theorem resolve_eq_ok_iff {plan : LoadPlan} :
    (b.resolve w).value = .ok plan ↔
      ∃ variant text root, Variant.select? b.host.descriptor = some variant ∧
        b.findDirectory w = .ok (.ofString text) ∧
        containingDirectory w.directoryPath? text = .ok (.ofString root) ∧
        plan = .underRoot root variant b.host.fileSeparator := by
  cases hvariant : Variant.select? b.host.descriptor with
  | none => simp [resolve, hvariant]
  | some variant =>
      constructor
      · obtain ⟨value, warnings, hresolve, hway⟩ := exists_resolves hvariant w
        rw [hresolve]
        rintro rfl
        cases hway with
        | planned hdirectory hroot => exact ⟨variant, _, _, rfl, hdirectory, hroot, rfl⟩
      · rintro ⟨variant', text, root, hsame, hdirectory, hroot, rfl⟩
        obtain rfl := Option.some.inj hsame
        rw [resolve_of_root hvariant hdirectory hroot]

end Bootstrap

end NativeBootstrap
