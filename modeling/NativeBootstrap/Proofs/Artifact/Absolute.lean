import NativeBootstrap.Proofs.Artifact.Directories
import NativeBootstrap.Proofs.Path.Segments
import NativeBootstrap.Proofs.Percent.Unescape
import NativeBootstrap.Proofs.Session.Runs

/-!
# Every path handed to a loader is absolute

A path is absolute if its first byte is a separator. Each step on the way from an encoded path to a
loader keeps that byte: the absolute form begins at the root or at the working directory
(`isAbsolute_of_absolute?`), decoding passes over a first byte that is not `%`
(`isAbsolute_of_decode`), and joining only appends (`joinWith_eq_append`). So the directories that
are found are absolute, the paths of a plan are, and by `mem_handed_run` so is every path that a run
of a session hands over.

The main statement is `paths_are_absolute`. Nothing is assumed of the host: its separator may be any
text. A working directory, where there is one, has to be absolute; that of a world always is.
-/

set_option autoImplicit false

namespace NativeBootstrap

namespace Path

theorem isAbsolute_iff {p : Path} :
    p.isAbsolute = true ↔ ∃ rest, p.bytes = separator :: rest := by
  obtain ⟨bytes⟩ := p
  cases bytes with
  | nil => simp [isAbsolute]
  | cons b rest => simp [isAbsolute]

/-! ## The absolute form -/

/-- Pushing a name changes nothing at the front. -/
theorem push_cons (b : UInt8) (bytes : Bytes) (name : Name) :
    ∃ rest, push (b :: bytes) name = b :: rest := by
  unfold push
  split
  · exact ⟨bytes ++ name, rfl⟩
  · exact ⟨bytes ++ separator :: name, rfl⟩

theorem foldl_push_cons (b : UInt8) (bytes : Bytes) (names : List Name) :
    ∃ rest, names.foldl push (b :: bytes) = b :: rest := by
  induction names generalizing bytes with
  | nil => exact ⟨bytes, rfl⟩
  | cons name names ih =>
      obtain ⟨rest, hrest⟩ := push_cons b bytes name
      rw [List.foldl_cons, hrest]
      exact ih rest

/-- The absolute form begins at the root, or where the working directory begins. -/
theorem base?_eq_cons {workingDirectory : Option Path} {p : Path} {base : Bytes}
    (hwd : ∀ directory, workingDirectory = some directory → directory.isAbsolute = true)
    (h : p.base? workingDirectory = some base) : ∃ rest, base = separator :: rest := by
  unfold base? at h
  split at h
  · split at h
    · cases h
      exact ⟨[separator], rfl⟩
    · cases h
      exact ⟨[], rfl⟩
  · obtain ⟨directory, hdirectory, rfl⟩ := Option.map_eq_some_iff.1 h
    exact isAbsolute_iff.1 (hwd directory hdirectory)

/-- An absolute form is absolute, if the working directory is. -/
theorem isAbsolute_of_absolute? {workingDirectory : Option Path} {p absolute : Path}
    (hwd : ∀ directory, workingDirectory = some directory → directory.isAbsolute = true)
    (h : p.absolute? workingDirectory = some absolute) : absolute.isAbsolute = true := by
  obtain ⟨base, hbase, rfl⟩ := Option.map_eq_some_iff.1 h
  obtain ⟨rest, rfl⟩ := base?_eq_cons hwd hbase
  obtain ⟨names, hnames⟩ := foldl_push_cons separator rest p.names
  rw [isAbsolute_iff]
  split
  · rw [hnames]
    exact push_cons separator names []
  · exact ⟨names, hnames⟩

/-! ## Decoding and joining -/

/-- A text that begins with a separator is decoded to one that does. -/
theorem isAbsolute_of_decode {text plain : String}
    (habs : (ofString text).isAbsolute = true) (h : Percent.decode text = .ok plain) :
    (ofString plain).isAbsolute = true := by
  rw [isAbsolute_iff] at habs ⊢
  obtain ⟨rest, hrest⟩ := habs
  refine ⟨Percent.unescape rest, ?_⟩
  show Utf8.encode plain = _
  rw [Percent.encode_of_decode_eq_ok h]
  change Utf8.encode text = _ at hrest
  rw [hrest]
  exact Percent.unescape_cons_of_ne (by decide) rest

theorem isAbsolute_append {base : String} (h : (ofString base).isAbsolute = true) (more : String) :
    (ofString (base ++ more)).isAbsolute = true := by
  rw [isAbsolute_iff] at h ⊢
  obtain ⟨rest, hrest⟩ := h
  change Utf8.encode base = _ at hrest
  refine ⟨rest ++ Utf8.encode more, ?_⟩
  show Utf8.encode (base ++ more) = _
  rw [Utf8.encode_append, hrest, List.cons_append]

theorem isAbsolute_joinWith {base : String} (h : (ofString base).isAbsolute = true)
    (separator : String) (segments : List String) :
    (ofString (joinWith separator base segments)).isAbsolute = true := by
  obtain ⟨tail, htail⟩ := joinWith_eq_append separator base segments
  rw [htail]
  exact isAbsolute_append h tail

end Path

/-! ## Directories -/

/-- The path of a place begins at the root. -/
theorem World.isAbsolute_of_directoryPath? (w : World) {directory : Path}
    (h : w.directoryPath? = some directory) : directory.isAbsolute = true := by
  unfold World.directoryPath? Place.path? at h
  split at h
  · cases h
    rfl
  · cases h

theorem isAbsolute_of_containingDirectory {workingDirectory : Option Path} {encoded : String}
    {path : Path}
    (hwd : ∀ directory, workingDirectory = some directory → directory.isAbsolute = true)
    (h : containingDirectory workingDirectory encoded = .ok path) : path.isAbsolute = true := by
  obtain ⟨decoded, parent, text, plain, -, -, habsolute, hplain, rfl⟩ :=
    containingDirectory_eq_ok_iff.1 h
  exact Path.isAbsolute_of_decode (Path.isAbsolute_of_absolute? hwd habsolute) hplain

theorem isAbsolute_of_artifactDirectory {w : World} {location path : Path}
    (h : artifactDirectory w location = .ok path) : path.isAbsolute = true := by
  have hwd : ∀ directory, w.directoryPath? = some directory → directory.isAbsolute = true := by
    intro directory hdirectory
    exact w.isAbsolute_of_directoryPath? hdirectory
  obtain ⟨encoded, decoded, -, -, ⟨-, h⟩ | ⟨-, h⟩⟩ := artifactDirectory_eq_ok_iff.1 h
  · exact Path.isAbsolute_of_absolute? hwd h
  · exact isAbsolute_of_containingDirectory hwd h

/-! ## Plans and runs -/

/-- Under an absolute install root all paths of a plan are absolute. -/
theorem LoadPlan.isAbsolute_underRoot {root : String} (h : (Path.ofString root).isAbsolute = true)
    (variant : Variant) (separator : String) :
    (underRoot root variant separator).libsDir.isAbsolute = true ∧
      ∀ entry ∈ (underRoot root variant separator).entries, entry.path.isAbsolute = true := by
  have hlibs : (Path.ofString (libsDirectory root variant separator)).isAbsolute = true :=
    Path.isAbsolute_joinWith (Path.isAbsolute_joinWith h separator [libsName]) separator _
  refine ⟨hlibs, fun entry hentry => ?_⟩
  obtain ⟨name, -, rfl⟩ := List.mem_map.1 hentry
  exact Path.isAbsolute_joinWith hlibs separator [name]

theorem Bootstrap.isAbsolute_of_resolve {b : Bootstrap} {w : World} {plan : LoadPlan}
    (h : (b.resolve w).value = .ok plan) :
    plan.libsDir.isAbsolute = true ∧ ∀ entry ∈ plan.entries, entry.path.isAbsolute = true := by
  obtain ⟨variant, text, root, -, -, hroot, rfl⟩ := Bootstrap.resolve_eq_ok_iff.1 h
  exact LoadPlan.isAbsolute_underRoot
    (isAbsolute_of_containingDirectory (fun _ => w.isAbsolute_of_directoryPath?) hroot) variant _

theorem Session.isAbsolute_of_mem_handed {b : Bootstrap} {steps : List (World × Request)}
    {path : Path} (h : path ∈ (run b fresh steps).2.handed) : path.isAbsolute = true := by
  rcases mem_handed_run b h with h | ⟨entry, -, plan, hplan, hpath⟩
  · cases h
  · obtain ⟨planned, hplanned, rfl⟩ := List.mem_map.1 hpath
    exact (Bootstrap.isAbsolute_of_resolve hplan).2 planned hplanned

/-- **Every path that is found or handed over is absolute.** This holds of the directory that
contains what an encoded path names and of an artifact's directory, for a working directory that is
absolute or missing; of the directory and the entries of every plan, for every host; and of every
path that a run of a session hands to the loader, whatever happens between its requests. -/
theorem paths_are_absolute :
    (∀ (workingDirectory : Option Path) (encoded : String) (path : Path),
      (∀ directory, workingDirectory = some directory → directory.isAbsolute = true) →
      (containingDirectory workingDirectory encoded = .ok path ∨
        (parentDirectory workingDirectory encoded).value = some path) →
      path.isAbsolute = true) ∧
    (∀ (w : World) (location path : Path),
      artifactDirectory w location = .ok path → path.isAbsolute = true) ∧
    ∀ b : Bootstrap,
      (∀ (w : World) (plan : LoadPlan), (b.resolve w).value = .ok plan →
        plan.libsDir.isAbsolute = true ∧ ∀ entry ∈ plan.entries, entry.path.isAbsolute = true) ∧
      ∀ (steps : List (World × Session.Request)) (path : Path),
        path ∈ (Session.run b .fresh steps).2.handed → path.isAbsolute = true := by
  refine ⟨?_, ?_, ?_⟩
  · intro workingDirectory encoded path hwd h
    rw [parentDirectory_eq_some_iff, or_self] at h
    exact isAbsolute_of_containingDirectory hwd h
  · intro w location path h
    exact isAbsolute_of_artifactDirectory h
  · intro b
    refine ⟨?_, ?_⟩
    · intro w plan h
      exact Bootstrap.isAbsolute_of_resolve h
    · intro steps path h
      exact Session.isAbsolute_of_mem_handed h

/-- A relative encoded path, read in the working directory `/srv`, and a start of the small
installation. -/
theorem paths_are_absolute_of_installation :
    (∃ path, containingDirectory (some (.ofString "/srv")) "my%20app/shim.jar" = .ok path ∧
      path.isAbsolute = true) ∧
    (∃ path, artifactDirectory installedWorld (.ofString "/my%20app/bin/shim.jar") = .ok path ∧
      path.isAbsolute = true) ∧
    (Session.run sampleBootstrap .fresh [(installedWorld, .start)]).2.handed.length = 2 ∧
    ∀ path ∈ (Session.run sampleBootstrap .fresh [(installedWorld, .start)]).2.handed,
      path.isAbsolute = true := by
  obtain ⟨hdirectory, hartifact, hplan⟩ := paths_are_absolute
  refine ⟨?_, ?_, by decide +kernel, (hplan sampleBootstrap).2 [(installedWorld, .start)]⟩
  · obtain ⟨path, hpath⟩ : ∃ path,
        containingDirectory (some (.ofString "/srv")) "my%20app/shim.jar" = .ok path :=
      exists_of_isOk (by decide +kernel)
    refine ⟨path, hpath, hdirectory (some (.ofString "/srv")) "my%20app/shim.jar" path ?_
      (Or.inl hpath)⟩
    intro directory hsome
    rw [← Option.some.inj hsome]
    decide +kernel
  · obtain ⟨path, hpath⟩ : ∃ path,
        artifactDirectory installedWorld (.ofString "/my%20app/bin/shim.jar") = .ok path :=
      exists_of_isOk (by decide +kernel)
    exact ⟨path, hpath, hartifact installedWorld _ path hpath⟩

end NativeBootstrap
