import NativeBootstrap.Proofs.Artifact.DoubleEncoding
import NativeBootstrap.Proofs.Path.Names
import NativeBootstrap.Proofs.Resolution.PlanShape
import NativeBootstrap.Proofs.Session.Runs

/-!
# The layout of an installation

An installation has an artifact in a directory of its own, and beside that directory one for the
libraries. The plan for an artifact that is a file in `bin`, and the plan for one that is `bin`
itself, is the same (`resolve_finds_installed_layout`): the libraries lie in
`libs/<architecture>/Release` of the directory that holds `bin`. The artifact may be named with any
escapes, but no directory above it holds a `%`, which the later decodings would read.

`Path.below` names a place below a directory, and `LoadPlan.installed` is the plan written with it.
On a directory in normal form that is the written plan, since `/` is no character of its names
(`LoadPlan.underRoot_slash`).
-/

set_option autoImplicit false

namespace NativeBootstrap

namespace Path

/-- The text of the path that leads from a directory down these names. -/
def below (directory : String) (names : List String) : String := names.foldl inside directory

theorem percent_not_mem_inside {directory name : String} (h : '%' ∉ directory.toList)
    (hname : '%' ∉ name.toList) : '%' ∉ (inside directory name).toList := by
  unfold inside
  split
  · simpa using hname
  · simpa using ⟨h, hname⟩

/-! ## Joining with a separator -/

/-- Of the texts of directories in normal form, only that of the root ends in a separator. -/
theorem endsWith_slash_iff {directory : String} (h : (ofString directory).IsNormal) :
    endsWith directory "/" = true ↔ directory = "/" := by
  obtain ⟨names, hnames, hdirectory⟩ := h
  have hbytes : Utf8.encode directory = (rooted names).bytes := congrArg bytes hdirectory
  rw [endsWith_slash_iff_getLast?, hbytes, getLast?_rooted_eq_iff hnames,
    eq_root_iff hnames hdirectory]

/-- A name in a directory is written behind its text with a separator at the end. -/
theorem inside_eq_closed_append {directory : String}
    (h : endsWith directory "/" = true → directory = "/") (name : String) :
    inside directory name = closed "/" directory ++ name := by
  unfold inside
  by_cases hroot : directory = "/"
  · subst hroot
    rfl
  · have hends : endsWith directory "/" = false := Bool.eq_false_iff.2 (mt h hroot)
    rw [if_neg hroot, closed_of_not_endsWith hends]

/-- Below a name stands one separator. -/
theorem inside_append_name {last : String} (hlast : last ≠ "")
    (hfree : ∀ c ∈ "/".toList, c ∉ last.toList) (front name : String) :
    inside (front ++ last) name = front ++ last ++ "/" ++ name := by
  have hends := endsWith_append_name (by decide) hlast hfree front
  rw [inside_eq_closed_append (fun h => absurd h (Bool.eq_false_iff.1 hends)),
    closed_of_not_endsWith hends]

end Path

/-! ## The plan -/

/-- The plan of an installation at a root, for the architecture of this name. -/
def LoadPlan.installed (root arch : String) : LoadPlan :=
  let directory := Path.below root ["libs", arch, "Release"]
  { libsDir := .ofString directory
    entries :=
      [⟨"libclogger_dll.dll", .ofString (Path.inside directory "libclogger_dll.dll")⟩,
        ⟨"clogger_jniwrapper.dll", .ofString (Path.inside directory "clogger_jniwrapper.dll")⟩] }

theorem LoadPlan.underRoot_slash {root : String} (h : (Path.ofString root).IsNormal) (arch : Arch) :
    underRoot root ⟨arch, .release⟩ "/" = installed root arch.name := by
  have hforeign : IsForeign "/" ⟨arch, .release⟩ := by cases arch <;> decide
  have hdirectory : Path.below root ["libs", arch.name, "Release"] =
      writtenDirectory root ⟨arch, .release⟩ "/" := by
    have hlibs : Path.inside root "libs" = Path.closed "/" root ++ "libs" :=
      Path.inside_eq_closed_append (Path.endsWith_slash_iff h).1 "libs"
    show Path.inside (Path.inside (Path.inside root "libs") arch.name) "Release" = _
    rw [hlibs, Path.inside_append_name (by decide) (fun c hc => (hforeign c hc).1),
      Path.inside_append_name (arch_name_ne_empty arch) (fun c hc => (hforeign c hc).2.1)]
    rfl
  have hinside : ∀ name, Path.inside (writtenDirectory root ⟨arch, .release⟩ "/") name =
      writtenDirectory root ⟨arch, .release⟩ "/" ++ "/" ++ name := by
    intro name
    exact Path.inside_append_name (by decide) (fun c hc => (hforeign c hc).2.2.1) _ name
  rw [underRoot_eq_written (by decide) hforeign, installed, hdirectory]
  simp only [hinside]
  rfl

/-- A host whose system's name tells Windows has libraries, for its word size. -/
theorem Variant.select?_of_windows {host : Host} (h : "Windows".toList <:+: host.osName.toList) :
    select? host.descriptor =
      some ⟨if host.dataModel = "64" then .win64 else .win86, .release⟩ := by
  have hfamily : Host.Family.ofSystemName host.osName = .windows := by
    rw [Host.Family.ofSystemName, if_pos (Text.occursIn_iff.2 h)]
  unfold select? Host.descriptor Host.WordSize.ofDataModel
  rw [hfamily]
  by_cases hmodel : host.dataModel = "64"
  · simp [hmodel]
  · simp [hmodel]

/-! ## Main statement -/

section Layout

variable {root bin : String}

/-- The directory that holds a directory of an installation is its root. -/
theorem containingDirectory_of_bin (hroot : (Path.ofString root).IsNormal)
    (hbin : Path.IsEntryName (Utf8.encode bin)) (hplain : '%' ∉ root.toList)
    (hplain' : '%' ∉ bin.toList) (workingDirectory : Option Path) :
    containingDirectory workingDirectory (Path.inside root bin) = .ok (.ofString root) :=
  containingDirectory_inside hroot hbin.isBlank_eq hbin.separator_not_mem
    (Percent.decode_self (Path.percent_not_mem_inside hplain hplain'))
    (Percent.decode_self hplain) workingDirectory

/-- An artifact whose directory is one in the root of an installation has the plan of that. -/
theorem Bootstrap.resolve_of_bin {b : Bootstrap} {w : World}
    (hhost : "Windows".toList <:+: b.host.osName.toList) (hseparator : b.host.fileSeparator = "/")
    (hroot : (Path.ofString root).IsNormal) (hbin : Path.IsEntryName (Utf8.encode bin))
    (hplain : '%' ∉ root.toList) (hplain' : '%' ∉ bin.toList)
    (hdirectory : b.findDirectory w = .ok (.ofString (Path.inside root bin))) :
    (b.resolve w).value =
      .ok (.installed root (if b.host.dataModel = "64" then "win64" else "win86")) := by
  refine resolve_eq_ok_iff.2 ⟨_, Path.inside root bin, root, Variant.select?_of_windows hhost,
    hdirectory, containingDirectory_of_bin hroot hbin hplain hplain' _, ?_⟩
  rw [hseparator, LoadPlan.underRoot_slash hroot]
  split <;> rfl

/-- **Both kinds of artifact lead to the layout of their installation.** Let a root in normal form, a
name in it and a name of a file in that be given, the first two free of `%`. On any host whose
system's name tells Windows and whose separator is `/`, resolving succeeds for every percent-encoding
of the file's path, unless a directory stands there, and gives the plan of the installation at that
root, for the word size of the host. It gives the same plan for every percent-encoding of the path
above it, if a directory stands there. Nothing else about the world counts. -/
theorem resolve_finds_installed_layout {file : String} (loader : Loader) (host : Host) (w : World)
    (hhost : "Windows".toList <:+: host.osName.toList) (hseparator : host.fileSeparator = "/")
    (hroot : (Path.ofString root).IsNormal) (hbin : Path.IsEntryName (Utf8.encode bin))
    (hfile : Path.IsEntryName (Utf8.encode file)) (hplainRoot : '%' ∉ root.toList)
    (hplainBin : '%' ∉ bin.toList) :
    (w.isDirectory (.ofString (Path.below root [bin, file])) = false →
      ∀ encoded, Percent.IsEncoding encoded (Path.below root [bin, file]) →
        ((Bootstrap.mk loader host (some (.ofString encoded))).resolve w).value =
          .ok (.installed root (if host.dataModel = "64" then "win64" else "win86"))) ∧
    (w.isDirectory (.ofString (Path.below root [bin])) = true →
      ∀ encoded, Percent.IsEncoding encoded (Path.below root [bin]) →
        ((Bootstrap.mk loader host (some (.ofString encoded))).resolve w).value =
          .ok (.installed root (if host.dataModel = "64" then "win64" else "win86"))) := by
  have hnormal : (Path.ofString (Path.inside root bin)).IsNormal := Path.isNormal_inside hroot hbin
  have hplain : '%' ∉ (Path.inside root bin).toList :=
    Path.percent_not_mem_inside hplainRoot hplainBin
  refine ⟨?_, ?_⟩
  · intro hnone encoded hencoded
    have hdecode := Percent.decode_eq_ok_iff.2 hencoded
    have hcontaining : containingDirectory w.directoryPath? encoded =
        .ok (.ofString (Path.inside root bin)) :=
      containingDirectory_inside hnormal hfile.isBlank_eq hfile.separator_not_mem hdecode
        (Percent.decode_self hplain) _
    exact Bootstrap.resolve_of_bin hhost hseparator hroot hbin hplainRoot hplainBin
      (artifactDirectory_eq_ok_iff.2 ⟨encoded, _, rfl, hdecode, Or.inr ⟨hnone, hcontaining⟩⟩)
  · intro hsome encoded hencoded
    have hdecode := Percent.decode_eq_ok_iff.2 hencoded
    exact Bootstrap.resolve_of_bin hhost hseparator hroot hbin hplainRoot hplainBin
      (artifactDirectory_eq_ok_iff.2
        ⟨encoded, _, rfl, hdecode, Or.inl ⟨hsome, hnormal.absolute?_eq _⟩⟩)

/-- A file and a directory in the root of all paths, which is the root of the installation too. -/
theorem resolve_finds_installed_layout_below_root :
    installedWorld.isDirectory (.ofString (Path.below "/" ["my app", "shim.jar"])) = false ∧
      installedWorld.isDirectory (.ofString (Path.below "/" ["my app"])) = true ∧
      ((Bootstrap.mk (.scripted []) sampleHost (some (.ofString "/my%20app%2fshim.%6Aar"))).resolve
        installedWorld).value = .ok (.installed "/" "win64") ∧
      ((Bootstrap.mk (.scripted []) sampleHost (some (.ofString "%2Fmy app"))).resolve
        installedWorld).value = .ok (.installed "/" "win64") ∧
      (LoadPlan.installed "/" "win64").libsDir = .ofString "/libs/win64/Release" := by
  have hroot : (Path.ofString "/").IsNormal := ⟨[], by decide, rfl⟩
  have hwindows : "Windows".toList <:+: sampleHost.osName.toList := ⟨[], " 10".toList, by decide⟩
  have hnone : installedWorld.isDirectory (.ofString (Path.below "/" ["my app", "shim.jar"])) = false :=
    by decide +kernel
  have hsome : installedWorld.isDirectory (.ofString (Path.below "/" ["my app"])) = true := by
    decide +kernel
  obtain ⟨hpackaged, hexploded⟩ := resolve_finds_installed_layout (.scripted []) sampleHost
    installedWorld hwindows rfl hroot (by decide : Path.IsEntryName (Utf8.encode "my app"))
    (by decide : Path.IsEntryName (Utf8.encode "shim.jar")) (by decide) (by decide)
  exact ⟨hnone, hsome, hpackaged hnone _ (Percent.decode_eq_ok_iff.1 (by decide +kernel)),
    hexploded hsome _ (Percent.decode_eq_ok_iff.1 (by decide +kernel)), by decide +kernel⟩

end Layout

end NativeBootstrap
