import Mathlib.Data.List.Basic
import NativeBootstrap.Proofs.Artifact.DoubleEncoding
import NativeBootstrap.Proofs.Path.Parents

/-!
# The part of the working directory

The directory that contains what an encoded path names is found under a working directory. Of all
steps on the way to it only one looks at that: making the parent absolute. So two searches with the
same absolute parent end alike, be it in a directory or in an error (`containingDirectory_congr`).

For a path from the root no working directory has a part in the absolute parent. A relative path may
be written from the root too, behind the path of the working directory: its names then stand behind
those of that directory, and the absolute form of its parent is the same
(`Path.exists_parent?_below`). The main statement is `working_directory_completes_relative_paths`.
-/

set_option autoImplicit false

namespace NativeBootstrap

/-! ## A relative path behind a directory -/

namespace Path

variable {p directory relative parent : Path} {names : List Name}

theorem intercalate_ne_nil (h : ∀ name ∈ names, IsEntryName name) (hne : names ≠ []) :
    [separator].intercalate names ≠ [] := by
  intro hnil
  have hpieces := List.splitOn_intercalate separator
    (fun name hname => (h name hname).separator_not_mem) hne
  rw [hnil] at hpieces
  exact (h [] (hpieces ▸ List.mem_singleton.2 rfl)).ne_nil rfl

/-- Written behind a directory in normal form, a relative path has a parent, whose absolute form under
any working directory is that of its own parent under that directory. -/
theorem exists_parent?_below (hdirectory : directory.IsNormal) (hne : directory.bytes ≠ [separator])
    (hrelative : relative.isAbsolute = false) (hparent : relative.parent? = some parent)
    (hparentNe : parent.bytes ≠ [])
    (hp : p.bytes = directory.bytes ++ separator :: relative.bytes) :
    ∃ below, p.parent? = some below ∧ below.bytes ≠ [] ∧
      ∀ workingDirectory, below.absolute? workingDirectory = parent.absolute? (some directory) := by
  obtain ⟨names, hnames, rfl⟩ := hdirectory
  have hnamesNe : names ≠ [] := by
    rintro rfl
    exact hne rfl
  have hroot : p.isAbsolute = true := by
    rw [isAbsolute, hp]
    rfl
  obtain ⟨last, hlast⟩ := exists_names_eq_concat_of_parent? hparent hparentNe
  have hpNames : p.names = (names ++ parent.names) ++ [last] := by
    rw [names_of_bytes_eq hp, names_rooted hnames, hlast, List.append_assoc]
  obtain ⟨below, hbelow, hbelowRoot, hbelowNames⟩ :=
    exists_parent?_of_names (start_eq_root_iff.2 hroot) hpNames
  have hbelowBytes : below.bytes = separator :: below.body := bytes_of_start_root hbelowRoot
  have hbelowNe : below.bytes ≠ [] := by
    rw [hbelowBytes]
    exact List.cons_ne_nil _ _
  refine ⟨below, hbelow, hbelowNe, fun workingDirectory => ?_⟩
  have hbelowEnds : below.endsInSeparator = false := by
    apply endsInSeparator_parent?_of_names_ne_nil hbelow
    simp [hbelowNames, hnamesNe]
  have hbelowFront : below.body.head? ≠ some separator := by
    -- What stands behind the first separator begins as the first name of the directory does.
    have hwhole := isPrefix_parent? hbelow hbelowNe
    rw [hbelowBytes, hp] at hwhole
    have hbody : below.body <+: [separator].intercalate names ++ separator :: relative.bytes :=
      (List.cons_prefix_cons.1 hwhole).2
    intro hhead
    obtain ⟨rest, hrest⟩ := hbody
    have hfront := congrArg List.head? hrest
    rw [List.head?_append, hhead, Option.some_or,
      List.head?_append_of_ne_nil _ (intercalate_ne_nil hnames hnamesNe)] at hfront
    exact head?_intercalate_ne hnames hfront.symm
  have hparentRelative : parent.isAbsolute = false := by
    rw [isAbsolute_parent? hparent hparentNe, hrelative]
  have hparentEnds : parent.endsInSeparator = false :=
    endsInSeparator_parent?_of_relative hparent hparentNe hrelative
  have hnone : ∀ name ∈ ([] : List Name), IsEntryName name := by simp
  have hbase : names.foldl push [separator] = (rooted names).bytes :=
    foldl_push_rooted hnone hnames
  have hbelowAbsolute : below.isAbsolute = true := start_eq_root_iff.1 hbelowRoot
  rw [absolute?_of_isAbsolute hbelowAbsolute hbelowEnds hbelowFront,
    absolute?_of_relative hparentRelative hparentEnds, hbelowNames, List.foldl_append, hbase]

end Path

/-! ## Two searches that end alike -/

/-- Two searches whose paths have parents with the same absolute form end in the same directory or in
the same error. -/
theorem containingDirectory_congr {workingDirectory other : Option Path}
    {encoded encoded' decoded decoded' : String} {parent parent' : Path}
    (hdecoded : Percent.decode encoded = .ok decoded)
    (hdecoded' : Percent.decode encoded' = .ok decoded')
    (hparent : decodedParent decoded = .ok parent)
    (hparent' : decodedParent decoded' = .ok parent')
    (habsolute : parent.absolute? workingDirectory = parent'.absolute? other) :
    containingDirectory workingDirectory encoded = containingDirectory other encoded' := by
  unfold containingDirectory absolutePath
  rw [decodePath_eq_ok_iff.2 hdecoded, decodePath_eq_ok_iff.2 hdecoded']
  simp only [bind, Except.bind, hparent, hparent', habsolute]

/-- The search for a path from the root does not depend on the working directory. -/
theorem containingDirectory_of_isAbsolute {encoded decoded : String}
    (hdecoded : Percent.decode encoded = .ok decoded)
    (habsolute : (Path.ofString decoded).isAbsolute = true) (workingDirectory other : Option Path) :
    containingDirectory workingDirectory encoded = containingDirectory other encoded := by
  cases hparent : decodedParent decoded with
  | ok parent =>
      apply containingDirectory_congr hdecoded hdecoded hparent hparent
      obtain ⟨hfound, hne⟩ := decodedParent_eq_ok_iff.1 hparent
      apply Path.absolute?_congr
      rw [Path.isAbsolute_parent? hfound hne, habsolute]
  | error error =>
      unfold containingDirectory
      rw [decodePath_eq_ok_iff.2 hdecoded]
      simp only [bind, Except.bind, hparent]

/-! ## Main statement -/

/-- **A working directory does nothing but complete relative paths.** Take an encoded path that is
decoded to a relative one with a parent that is not empty. To look for its directory in a working
directory in normal form, other than the root and without `%`, or to write that directory and a
separator in front of it and look from anywhere, comes to the same: the same directory or the same
error. For an encoded path that is not decoded, or decoded to one from the root, the working
directory does not matter at all, even if there is none. -/
theorem working_directory_completes_relative_paths :
    (∀ (working encoded decoded : String) (parent : Path),
      (Path.ofString working).IsNormal → working ≠ "/" → '%' ∉ working.toList →
      Percent.decode encoded = .ok decoded → (Path.ofString decoded).isAbsolute = false →
      (Path.ofString decoded).parent? = some parent → parent.bytes ≠ [] →
      ∀ elsewhere : Option Path,
        containingDirectory (some (.ofString working)) encoded =
          containingDirectory elsewhere (working ++ "/" ++ encoded)) ∧
    ∀ encoded : String,
      (∀ decoded, Percent.decode encoded = .ok decoded →
        (Path.ofString decoded).isAbsolute = true) →
      ∀ workingDirectory elsewhere : Option Path,
        containingDirectory workingDirectory encoded = containingDirectory elsewhere encoded := by
  refine ⟨?_, ?_⟩
  · intro working encoded decoded parent hnormal hroot hsign hdecoded hrelative hparent hne elsewhere
    have hbytes : (Path.ofString (working ++ "/" ++ decoded)).bytes =
        (Path.ofString working).bytes ++ Path.separator :: (Path.ofString decoded).bytes := by
      simp [Path.ofString, Path.encode_slash]
    have hworkingNe : (Path.ofString working).bytes ≠ [Path.separator] := by
      intro hone
      exact hroot (Utf8.encode_injective hone)
    obtain ⟨below, hbelow, hbelowNe, habsolute⟩ :=
      Path.exists_parent?_below hnormal hworkingNe hrelative hparent hne hbytes
    have hwhole : Percent.decode (working ++ "/" ++ encoded) = .ok (working ++ "/" ++ decoded) :=
      Percent.decode_append_of_not_mem (by simpa using hsign) hdecoded
    exact containingDirectory_congr hdecoded hwhole (decodedParent_eq_ok_iff.2 ⟨hparent, hne⟩)
      (decodedParent_eq_ok_iff.2 ⟨hbelow, hbelowNe⟩) (habsolute elsewhere).symm
  · intro encoded habsolute workingDirectory elsewhere
    cases hdecoded : Percent.decode encoded with
    | ok decoded =>
        exact containingDirectory_of_isAbsolute hdecoded (habsolute decoded hdecoded) _ _
    | error fault =>
        rw [containingDirectory_of_fault hdecoded, containingDirectory_of_fault hdecoded]

/-- A relative path with dots, a parent's name, two separators and escapes for the second decoding;
one whose second decoding fails; one from the root; and one that is not decoded at all. -/
theorem working_directory_completes_relative_paths_of_dots_and_escapes :
    (containingDirectory (some (.ofString "/srv")) "./lib//%2e%2e/a%2541/shim.jar" =
        .ok (.ofString "/srv/lib/../aA") ∧
      containingDirectory none "/srv/./lib//%2e%2e/a%2541/shim.jar" =
        .ok (.ofString "/srv/lib/../aA")) ∧
    (containingDirectory (some (.ofString "/srv")) "a%25/b" =
        .error (.undecodable (.malformedEscape 6)) ∧
      containingDirectory none "/srv/a%25/b" = .error (.undecodable (.malformedEscape 6))) ∧
    (containingDirectory none "//a%2541//b" = .ok (.ofString "//aA") ∧
      containingDirectory (some ⟨[0xFF]⟩) "//a%2541//b" = .ok (.ofString "//aA")) ∧
    containingDirectory none "a/%" = .error (.undecodable (.malformedEscape 2)) ∧
    containingDirectory (some ⟨[0xFF]⟩) "a/%" = .error (.undecodable (.malformedEscape 2)) := by
  obtain ⟨hrelative, hother⟩ := working_directory_completes_relative_paths
  have hnormal : (Path.ofString "/srv").IsNormal := ⟨[[0x73, 0x72, 0x76]], by decide, rfl⟩
  have hdots := hrelative "/srv" "./lib//%2e%2e/a%2541/shim.jar" "./lib//../a%41/shim.jar"
    (.ofString "./lib//../a%41") hnormal (by decide) (by decide) (by decide +kernel)
    (by decide +kernel) (by decide +kernel) (by decide +kernel) none
  have hescape := hrelative "/srv" "a%25/b" "a%/b" (.ofString "a%") hnormal (by decide) (by decide)
    (by decide +kernel) (by decide +kernel) (by decide +kernel) (by decide +kernel) none
  have hroot := hother "//a%2541//b" (by
    intro decoded hdecoded
    have hplain : Percent.decode "//a%2541//b" = .ok "//a%41//b" := by decide +kernel
    rw [hplain, Except.ok.injEq] at hdecoded
    subst hdecoded
    decide +kernel) (some ⟨[0xFF]⟩) none
  have hfault := hother "a/%" (by
    intro decoded hdecoded
    have hbroken : Percent.decode "a/%" = .error (.malformedEscape 2) := by decide +kernel
    rw [hbroken] at hdecoded
    cases hdecoded) (some ⟨[0xFF]⟩) none
  have hdotsFound : containingDirectory none "/srv/./lib//%2e%2e/a%2541/shim.jar" =
      .ok (.ofString "/srv/lib/../aA") := by decide +kernel
  have hescapeFound : containingDirectory none "/srv/a%25/b" =
      .error (.undecodable (.malformedEscape 6)) := by decide +kernel
  have hrootFound : containingDirectory none "//a%2541//b" = .ok (.ofString "//aA") := by
    decide +kernel
  have hfaultFound : containingDirectory none "a/%" =
      .error (.undecodable (.malformedEscape 2)) := by decide +kernel
  exact ⟨⟨hdots.trans hdotsFound, hdotsFound⟩, ⟨hescape.trans hescapeFound, hescapeFound⟩,
    ⟨hrootFound, hroot.trans hrootFound⟩, hfaultFound, hfault.trans hfaultFound⟩

end NativeBootstrap
