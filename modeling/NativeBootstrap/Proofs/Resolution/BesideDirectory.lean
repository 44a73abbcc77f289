import NativeBootstrap.Proofs.Artifact.Absolute
import NativeBootstrap.Proofs.FileSystem.Descent
import NativeBootstrap.Proofs.Path.Names
import NativeBootstrap.Proofs.Resolution.InstallRoot

/-!
# The place of the libraries

The parent of an artifact's directory is taken from its text, while the directory that contains it is
a place in the file system. Where no link stands these are the same, unless the text ends in `..`: the
steps of the parent are those of the directory but the last, dots apart, and the last one leads down.
So the directory of a plan leads to where `libs` beside the artifact's directory does, whatever dots,
steps up and separators the text holds before its end (`resolve_points_beside_directory`).

The main statement asks for no `%` in what is read, as that is decoded on the way, and for an
artifact's directory that is text, as a plan's paths are joined as texts.
`resolve_misses_place_beside` shows a directory whose text ends in `..`, and one that is no text.
-/

set_option autoImplicit false

namespace NativeBootstrap

/-! ## Directories without `%` -/

section Plain

variable {workingDirectory : Option Path}

/-- What is read without a `%` has an absolute form without one. -/
theorem sign_not_mem_absolute? {path absolute : Path}
    (hworking : ∀ directory, workingDirectory = some directory → Percent.sign ∉ directory.bytes)
    (hpath : Percent.sign ∉ path.bytes) (h : path.absolute? workingDirectory = some absolute) :
    Percent.sign ∉ absolute.bytes := by
  intro hmem
  rcases Path.mem_of_mem_absolute? h hmem with hbyte | hbyte | ⟨directory, hdirectory, hbyte⟩
  · exact absurd hbyte (by decide)
  · exact hpath hbyte
  · exact hworking directory hdirectory hbyte

theorem sign_not_mem_of_containingDirectory {encoded : String} {path : Path}
    (hworking : ∀ directory, workingDirectory = some directory → Percent.sign ∉ directory.bytes)
    (hencoded : '%' ∉ encoded.toList)
    (h : containingDirectory workingDirectory encoded = .ok path) :
    Percent.sign ∉ path.bytes := by
  obtain ⟨decoded, parent, text, plain, hdecoded, hparent, habsolute, hplain, rfl⟩ :=
    containingDirectory_eq_ok_iff.1 h
  rw [Percent.decode_self hencoded] at hdecoded
  obtain rfl := Except.ok.inj hdecoded
  have hsign : Percent.sign ∉ parent.bytes := by
    intro hmem
    rcases Path.mem_of_mem_parent? (decodedParent_eq_ok_iff.1 hparent).1 hmem with hbyte | hbyte
    · exact absurd hbyte (by decide)
    · exact hencoded (Percent.sign_mem_encode_iff.1 hbyte)
  have htext : Percent.sign ∉ Utf8.encode text := sign_not_mem_absolute? hworking hsign habsolute
  rw [Percent.decode_self (mt Percent.sign_mem_encode_iff.2 htext)] at hplain
  obtain rfl := Except.ok.inj hplain
  exact htext

theorem sign_not_mem_of_artifactDirectory {w : World} {location path : Path}
    (hworking : ∀ directory, w.directoryPath? = some directory → Percent.sign ∉ directory.bytes)
    (hlocation : Percent.sign ∉ location.bytes) (h : artifactDirectory w location = .ok path) :
    Percent.sign ∉ path.bytes := by
  obtain ⟨encoded, decoded, rfl, hdecoded, hfound⟩ := artifactDirectory_eq_ok_iff.1 h
  have hencoded : '%' ∉ encoded.toList := mt Percent.sign_mem_encode_iff.2 hlocation
  rw [Percent.decode_self hencoded] at hdecoded
  obtain rfl := Except.ok.inj hdecoded
  rcases hfound with ⟨-, hfound⟩ | ⟨-, hfound⟩
  · exact sign_not_mem_absolute? hworking hlocation hfound
  · exact sign_not_mem_of_containingDirectory hworking hencoded hfound

/-- What contains a path from the root without `%` is found, and is written from all of its names but
the last. -/
theorem containingDirectory_of_names {text : String} {front : List Name} {last : Name}
    (habsolute : (Path.ofString text).isAbsolute = true) (hplain : '%' ∉ text.toList)
    (hnames : (Path.ofString text).names = front ++ [last]) :
    ∃ root, containingDirectory workingDirectory text = .ok (.ofString root) ∧
      Path.FromRoot front (Utf8.encode root) := by
  have hstart := Path.start_eq_root_iff.2 habsolute
  obtain ⟨parent, hparent, hroot, hfront⟩ := Path.exists_parent?_of_names hstart hnames
  obtain ⟨absolute, hfound, hwritten⟩ :=
    Path.exists_absolute?_of_start_root hroot workingDirectory
  rw [hfront] at hwritten
  have hdecodedParent : decodedParent text = .ok parent := by
    refine decodedParent_eq_ok_iff.2 ⟨hparent, ?_⟩
    rw [Path.bytes_of_start_root hroot]
    exact List.cons_ne_nil _ _
  have hmem : ∀ name ∈ front, name ∈ (Path.ofString text).names := by
    intro name hname
    rw [hnames]
    exact List.mem_append_left _ hname
  obtain ⟨root, htext⟩ : Utf8.IsText absolute.bytes := by
    refine hwritten.isText fun name hname => ?_
    exact Path.isText_of_mem_splitOn ⟨text, rfl⟩
      (Path.mem_splitOn_of_mem_names hstart (hmem name hname))
  obtain rfl : absolute = .ofString root := congrArg Path.mk htext
  have hplainRoot : '%' ∉ root.toList := by
    intro hsign
    rcases hwritten.mem (Percent.sign_mem_encode_iff.2 hsign) with hbyte | ⟨name, hname, hbyte⟩
    · exact absurd hbyte (by decide)
    · exact hplain (Percent.sign_mem_encode_iff.1 (Path.mem_bytes_of_mem_names (hmem name hname) hbyte))
  exact ⟨root, containingDirectory_eq_ok_iff.2 ⟨text, parent, root, root,
    Percent.decode_self hplain, hdecodedParent, hfound, Percent.decode_self hplainRoot, rfl⟩,
    hwritten⟩

end Plain

/-! ## The directory of a plan -/

/-- The names of the directory of a variant's libraries, below an install root. -/
def LoadPlan.libsNames (arch : Arch) : List Name := ["libs", arch.name, "Release"].map Utf8.encode

/-- The path of the libraries of an architecture, by the way up from a directory. -/
def LoadPlan.libsBeside (directory arch : String) : Path :=
  .ofString (directory ++ "/../libs/" ++ arch ++ "/Release")

namespace LoadPlan

theorem libsDir_eq_foldl_push (root : String) (arch : Arch) :
    (underRoot root ⟨arch, .release⟩ "/").libsDir =
      ⟨(libsNames arch).foldl Path.push (Utf8.encode root)⟩ := by
  have hkept : ∀ segment ∈ ["libs", arch.name, "Release"], Path.isSkipped "/" segment = false := by
    cases arch <;> decide
  rw [libsDir_underRoot, Path.ofString, Path.encode_joinWith_slash hkept]
  rfl

theorem libsBeside_eq_append (directory : String) (arch : Arch) :
    libsBeside directory arch.name =
      ⟨Utf8.encode directory ++
        Path.separator :: [Path.separator].intercalate (Path.dotdot :: libsNames arch)⟩ := by
  have htail : Utf8.encode ("/../libs/" ++ arch.name ++ "/Release") =
      Path.separator :: [Path.separator].intercalate (Path.dotdot :: libsNames arch) := by
    cases arch <;> decide
  rw [← htail, ← Utf8.encode_append, libsBeside, Path.ofString]
  simp only [String.append_assoc]

theorem libsNames_valid (arch : Arch) :
    ∀ name ∈ libsNames arch, name ≠ [] ∧ Path.separator ∉ name := by
  cases arch <;> decide

/-- The directory of a plan is looked up by the names of its root and those of the libraries. -/
theorem steps_libsDir {root : String} {front : List Name}
    (hroot : Path.FromRoot front (Utf8.encode root))
    (hfront : ∀ name ∈ front, name ≠ [] ∧ Path.separator ∉ name) (arch : Arch) :
    FileSystem.steps (underRoot root ⟨arch, .release⟩ "/").libsDir = front ++ libsNames arch := by
  have hends : (underRoot root ⟨arch, .release⟩ "/").libsDir.endsInSeparator = false := by
    rw [libsDir_eq_foldl_push]
    exact Path.endsInSeparator_push (by decide) (by decide) _
  unfold FileSystem.steps
  rw [hends, if_neg Bool.false_ne_true, libsDir_eq_foldl_push]
  exact hroot.names_foldl_push (List.forall_mem_append.2 ⟨hfront, libsNames_valid arch⟩)

/-- The way up from a directory is looked up by the names of that, a step up, and the same names. -/
theorem steps_libsBeside (directory : String) (arch : Arch) :
    FileSystem.steps (libsBeside directory arch.name) =
      FileSystem.names (.ofString directory) ++ Path.dotdot :: libsNames arch := by
  have hlast : (Path.separator ::
      [Path.separator].intercalate (Path.dotdot :: libsNames arch)).getLast? = some 0x65 := by
    cases arch <;> decide
  have hends : (libsBeside directory arch.name).endsInSeparator = false := by
    rw [libsBeside_eq_append, Path.endsInSeparator, List.getLast?_append, hlast]
    rfl
  have hnames : (([Path.separator].intercalate (Path.dotdot :: libsNames arch)).splitOn
      Path.separator).filter (· != []) = Path.dotdot :: libsNames arch := by
    cases arch <;> decide
  unfold FileSystem.steps
  rw [hends, if_neg Bool.false_ne_true, libsBeside_eq_append, FileSystem.names,
    List.splitOn_append_cons_self, List.filter_append, hnames]
  rfl

/-- The way up takes as many bytes more than the directory as its names do, with a separator each. -/
theorem length_libsBeside (directory : String) (arch : Arch) :
    (libsBeside directory arch.name).bytes.length =
      (Utf8.encode directory).length + 3 +
        ((libsNames arch).map fun name => name.length + 1).sum := by
  have htail : (Path.separator ::
      [Path.separator].intercalate (Path.dotdot :: libsNames arch)).length =
      3 + ((libsNames arch).map fun name => name.length + 1).sum := by
    cases arch <;> decide
  rw [libsBeside_eq_append, List.length_append, htail]
  omega

/-- Where the way up from a directory can be looked up, so can the directory of a plan, which is no
longer and holds no other bytes. -/
theorem canLookUp_libsDir {directory root : String} {front : List Name} {last : Name}
    (habsolute : (Path.ofString directory).isAbsolute = true)
    (hnames : (Path.ofString directory).names = front ++ [last])
    (habsoluteRoot : (Path.ofString root).isAbsolute = true)
    (hroot : Path.FromRoot front (Utf8.encode root)) (arch : Arch)
    (h : FileSystem.canLookUp (libsBeside directory arch.name) = true) :
    FileSystem.canLookUp (underRoot root ⟨arch, .release⟩ "/").libsDir = true := by
  simp only [FileSystem.canLookUp, Bool.and_eq_true, bne_iff_ne, Bool.not_eq_true',
    List.contains_eq_mem, decide_eq_false_iff_not, decide_eq_true_eq] at h ⊢
  obtain ⟨⟨-, hzero⟩, hlength⟩ := h
  rw [length_libsBeside] at hlength
  have hbytes : (underRoot root ⟨arch, .release⟩ "/").libsDir.bytes =
      (libsNames arch).foldl Path.push (Utf8.encode root) := by
    rw [libsDir_eq_foldl_push]
  refine ⟨⟨?_, ?_⟩, ?_⟩
  · obtain ⟨rest, hrest⟩ := Path.isAbsolute_iff.1 (isAbsolute_underRoot habsoluteRoot _ _).1
    rw [hrest]
    exact List.cons_ne_nil _ _
  · intro hmem
    rw [hbytes] at hmem
    rcases Path.mem_of_mem_foldl_push hmem with hbyte | hbyte | ⟨name, hname, hbyte⟩
    · exact absurd hbyte (by decide)
    · rcases hroot.mem hbyte with hbyte | ⟨name, hname, hbyte⟩
      · exact absurd hbyte (by decide)
      · have hdirectory : 0 ∈ Utf8.encode directory :=
          Path.mem_bytes_of_mem_names (hnames ▸ List.mem_append_left _ hname) hbyte
        refine hzero ?_
        rw [libsBeside_eq_append]
        exact List.mem_append_left _ hdirectory
    · revert name
      cases arch <;> decide
  -- The root may have three separators that the names of the directory do not account for. The way
  -- up has the three bytes of `/..` instead.
  · have hfront : (front.map fun name => name.length + 1).sum ≤ (Utf8.encode directory).length := by
      have hsum := Path.sum_length_names_le (Path.start_eq_root_iff.2 habsolute)
      rw [hnames, List.map_append, List.sum_append] at hsum
      exact Nat.le_trans (Nat.le_add_right _ _) hsum
    have hrootLength := hroot.length_le
    have hpushed := Path.length_foldl_push_le (Utf8.encode root) (libsNames arch)
    rw [hbytes]
    omega

end LoadPlan

/-! ## Main statement -/

section Beside

variable {b : Bootstrap} {w : World}

/-- The directory of a plan leads to where the way up from the artifact's directory does. -/
theorem LoadPlan.leadsTo?_libsDir {directory root : String} {front : List Name} {last : Name}
    {p : Place} (hlinks : w.files.HasNoLinks)
    (habsolute : (Path.ofString directory).isAbsolute = true)
    (hnames : (Path.ofString directory).names = front ++ [last]) (hlast : last ≠ Path.dotdot)
    (habsoluteRoot : (Path.ofString root).isAbsolute = true)
    (hroot : Path.FromRoot front (Utf8.encode root))
    (hplace : w.files.lookup? w.directory (.ofString directory) = some p)
    (hexists : w.files.isDirectoryAt p = true) (arch : Arch) :
    w.files.leadsTo? w.directory (underRoot root ⟨arch, .release⟩ "/").libsDir =
        FileSystem.walk w.files FileSystem.maxLinks p.up (libsNames arch) ∧
      w.files.leadsTo? w.directory (libsBeside directory arch.name) =
        FileSystem.walk w.files FileSystem.maxLinks p.up (libsNames arch) := by
  have hstart := Path.start_eq_root_iff.2 habsolute
  have hsteps := FileSystem.foldlM_names_of_lookup? hlinks habsolute hplace
  have hfront : ∀ name ∈ front, name ≠ [] ∧ Path.separator ∉ name := by
    intro name hname
    exact Path.valid_of_mem_names hstart (hnames ▸ List.mem_append_left _ hname)
  rw [FileSystem.walk_eq_foldlM hlinks]
  refine ⟨?_, ?_⟩
  -- The parent has the steps before the last one, and these lead to the place above.
  · have habove : front.foldlM w.files.enter? .root = some p.up := by
      refine FileSystem.foldlM_eq_up hsteps ?_ hlast
      rw [← Path.names_eq_filter hstart, hnames]
    rw [FileSystem.leadsTo?_of_isAbsolute hlinks (isAbsolute_underRoot habsoluteRoot _ _).1,
      steps_libsDir hroot hfront, List.foldlM_append, habove]
    rfl
  -- The way up goes through the directory itself, which has to be one.
  · have habsoluteBeside : (libsBeside directory arch.name).isAbsolute = true := by
      rw [libsBeside, String.append_assoc, String.append_assoc]
      exact Path.isAbsolute_append habsolute _
    rw [FileSystem.leadsTo?_of_isAbsolute hlinks habsoluteBeside, steps_libsBeside]
    exact FileSystem.foldlM_dotdot hsteps hexists _

/-- A directory that is not the root has a last name. -/
theorem exists_names_eq_append {directory : String} {p : Place} (hlinks : w.files.HasNoLinks)
    (habsolute : (Path.ofString directory).isAbsolute = true)
    (hplace : w.files.lookup? w.directory (.ofString directory) = some p) (hroot : p ≠ .root) :
    ∃ front last, (Path.ofString directory).names = front ++ [last] := by
  rcases List.eq_nil_or_concat (Path.ofString directory).names with hnil | ⟨front, last, hconcat⟩
  · have hsteps := FileSystem.foldlM_filter_dot
      (FileSystem.foldlM_names_of_lookup? hlinks habsolute hplace)
    rw [← Path.names_eq_filter (Path.start_eq_root_iff.2 habsolute), hnil] at hsteps
    exact absurd (Option.some.inj hsteps).symm hroot
  · exact ⟨front, last, by rw [hconcat, List.concat_eq_append]⟩

/-- The architecture of the libraries for a host. -/
def Variant.archFor (host : Host) : Arch := if host.dataModel = "64" then .win64 else .win86

/-- **The libraries are looked for beside the artifact's directory.** Let no link stand in the file
system, and no `%` in the artifact's path and that of the working directory. Let the artifact's
directory be found, exist, and not be the root. On any host whose system's name tells Windows and
whose separator is `/`, resolving succeeds if that directory is text whose last name is not `..`. The
directory of the plan then leads to where the way up from the artifact's directory and down to the
libraries leads, and that is where their names lead from the directory that holds it. A directory
that is no text is told as such. -/
theorem resolve_points_beside_directory {location directory : Path} {p : Place}
    (hlinks : w.files.HasNoLinks) (hhost : "Windows".toList <:+: b.host.osName.toList)
    (hseparator : b.host.fileSeparator = "/")
    (hworking : ∀ working, w.directoryPath? = some working → Percent.sign ∉ working.bytes)
    (hlocation : b.location? w = some location) (hartifact : Percent.sign ∉ location.bytes)
    (hdirectory : artifactDirectory w location = .ok directory)
    (hplace : w.files.lookup? w.directory directory = some p)
    (hexists : w.files.isDirectoryAt p = true) (hroot : p ≠ .root) :
    (∀ text, directory = .ofString text → directory.names.getLast? ≠ some Path.dotdot →
      ∃ plan, (b.resolve w).value = .ok plan ∧
        w.files.leadsTo? w.directory plan.libsDir =
          w.files.leadsTo? w.directory (LoadPlan.libsBeside text (Variant.archFor b.host).name) ∧
        w.files.leadsTo? w.directory plan.libsDir =
          FileSystem.walk w.files FileSystem.maxLinks p.up
            (LoadPlan.libsNames (Variant.archFor b.host)) ∧
        (FileSystem.canLookUp (LoadPlan.libsBeside text (Variant.archFor b.host).name) = true →
          w.files.lookup? w.directory plan.libsDir =
            w.files.lookup? w.directory (LoadPlan.libsBeside text (Variant.archFor b.host).name))) ∧
    (directory.toString? = none →
      (b.resolve w).value = .error (.unresolved (.nonUnicode directory))) := by
  have hsign := sign_not_mem_of_artifactDirectory hworking hartifact hdirectory
  have habsolute := isAbsolute_of_artifactDirectory hdirectory
  have hvariant := Variant.select?_of_windows hhost
  have hfind : b.findDirectory w = .ok directory :=
    (Bootstrap.findDirectory_of_location hlocation).trans hdirectory
  refine ⟨?_, ?_⟩
  · rintro text rfl hlastName
    obtain ⟨front, last, hnames⟩ := exists_names_eq_append hlinks habsolute hplace hroot
    have hlast : last ≠ Path.dotdot := by
      rintro rfl
      exact hlastName (by rw [hnames]; simp)
    obtain ⟨root, hfound, hwritten⟩ := containingDirectory_of_names habsolute
      (mt Percent.sign_mem_encode_iff.2 hsign) hnames
    have habsoluteRoot := isAbsolute_of_containingDirectory
      (fun _ => w.isAbsolute_of_directoryPath?) hfound
    obtain ⟨hlibs, hbeside⟩ := LoadPlan.leadsTo?_libsDir hlinks habsolute hnames hlast habsoluteRoot
      hwritten hplace hexists (Variant.archFor b.host)
    have hplan : (b.resolve w).value =
        .ok (.underRoot root ⟨Variant.archFor b.host, .release⟩ "/") :=
      Bootstrap.resolve_eq_ok_iff.2 ⟨_, text, root, hvariant, hfind, hfound, by
        rw [hseparator]; rfl⟩
    refine ⟨_, hplan, hlibs.trans hbeside.symm, hlibs, ?_⟩
    intro hlength
    have hlength' := LoadPlan.canLookUp_libsDir habsolute hnames habsoluteRoot hwritten _ hlength
    rw [FileSystem.lookup?_of_canLookUp hlength', FileSystem.lookup?_of_canLookUp hlength, hlibs,
      hbeside]
  · intro hnone
    rw [Bootstrap.resolve_of_nonUnicode hvariant hfind hnone]

end Beside

/-- A bare world entered in a directory, with more directories. -/
def worldOfDirectories (working : Path) (directories : List Path) : World :=
  directories.foldl (fun w directory => w.change (.directory directory)) (bareWorld.enter working)

/-- A world entered in `/srv`, with an application there. -/
def servedWorld : World :=
  worldOfDirectories (.ofString "/srv")
    (["/srv/app/lib", "/srv/app/bin", "/srv/app/libs/win64/Release"].map Path.ofString)

/-- A world entered in a directory whose name is no text, with a directory there. -/
def byteWorld : World := worldOfDirectories ⟨[0x2F, 0xFF]⟩ [⟨[0x2F, 0xFF, 0x2F, 0x61]⟩]

theorem byteWorld_hasNoLinks : byteWorld.files.HasNoLinks :=
  FileSystem.hasNoLinks_of_nodes (by decide +kernel)

theorem sign_not_mem_of_directoryPath? {w : World}
    (h : w.directoryPath?.all fun directory => !directory.bytes.contains Percent.sign) :
    ∀ working, w.directoryPath? = some working → Percent.sign ∉ working.bytes := by
  intro working hworking
  simpa [hworking] using h

/-- An artifact that is named by a way down, up and down again from the working directory, and one in
a working directory that is no text. -/
theorem resolve_points_beside_directory_of_relative_artifact :
    (artifactDirectory servedWorld (.ofString "app/./lib/..//bin/") =
        .ok (.ofString "/srv/app/lib/../bin/") ∧
      ∃ plan, ((bootstrapOf "app/./lib/..//bin/").resolve servedWorld).value = .ok plan ∧
        servedWorld.files.lookup? servedWorld.directory plan.libsDir =
          some ⟨["srv", "app", "libs", "win64", "Release"].map Utf8.encode, 0⟩) ∧
    artifactDirectory byteWorld (.ofString "a") = .ok ⟨[0x2F, 0xFF, 0x2F, 0x61]⟩ ∧
      ((bootstrapOf "a").resolve byteWorld).value =
        .error (.unresolved (.nonUnicode ⟨[0x2F, 0xFF, 0x2F, 0x61]⟩)) := by
  have hwindows : "Windows".toList <:+: sampleHost.osName.toList := ⟨[], " 10".toList, by decide⟩
  have hserved : servedWorld.files.HasNoLinks :=
    FileSystem.hasNoLinks_of_nodes (by decide +kernel)
  have hdirectory : artifactDirectory servedWorld (.ofString "app/./lib/..//bin/") =
      .ok (.ofString "/srv/app/lib/../bin/") := by decide +kernel
  have hdirectory' : artifactDirectory byteWorld (.ofString "a") =
      .ok ⟨[0x2F, 0xFF, 0x2F, 0x61]⟩ := by decide +kernel
  obtain ⟨hpoints, -⟩ := resolve_points_beside_directory
    (b := bootstrapOf "app/./lib/..//bin/") (p := ⟨["srv", "app", "bin"].map Utf8.encode, 0⟩)
    hserved hwindows rfl (sign_not_mem_of_directoryPath? (by decide +kernel)) rfl (by decide)
    hdirectory (by decide +kernel) (by decide +kernel) (by decide)
  obtain ⟨-, htold⟩ := resolve_points_beside_directory
    (b := bootstrapOf "a") (p := ⟨[[0xFF], [0x61]], 0⟩)
    byteWorld_hasNoLinks hwindows rfl (sign_not_mem_of_directoryPath? (by decide +kernel)) rfl
    (by decide) hdirectory' (by decide +kernel) (by decide +kernel) (by decide)
  obtain ⟨plan, hplan, -, -, hlookup⟩ := hpoints _ rfl (by decide +kernel)
  refine ⟨⟨hdirectory, plan, hplan, ?_⟩, hdirectory', htold (by decide +kernel)⟩
  rw [hlookup (by decide +kernel)]
  decide +kernel

/-- A world with an application in the root, and the libraries beside it. -/
def rootedWorld : World :=
  worldOfDirectories (.ofString "/") (["/app/bin", "/libs/win64/Release"].map Path.ofString)

/-- **Beside a directory named by a step up, the libraries are missed.** The artifact's directory
`/app/bin/..` lies in the root, and the libraries beside it do so too; the plan looks for them in
`/app/bin`. And a working directory that is no text leads to no plan. -/
theorem resolve_misses_place_beside :
    (rootedWorld.files.HasNoLinks ∧ rootedWorld.directoryPath? = some (.ofString "/") ∧
      artifactDirectory rootedWorld (.ofString "/app/bin/..") = .ok (.ofString "/app/bin/..") ∧
      rootedWorld.files.lookup? rootedWorld.directory (.ofString "/app/bin/..") =
        some ⟨[Utf8.encode "app"], 0⟩ ∧
      rootedWorld.files.isDirectoryAt ⟨[Utf8.encode "app"], 0⟩ = true ∧
      ((bootstrapOf "/app/bin/..").resolve rootedWorld).value.map LoadPlan.libsDir =
        .ok (.ofString "/app/bin/libs/win64/Release") ∧
      rootedWorld.files.lookup? rootedWorld.directory (.ofString "/app/bin/libs/win64/Release") =
        none ∧
      rootedWorld.files.lookup? rootedWorld.directory (LoadPlan.libsBeside "/app/bin/.." "win64") =
        some ⟨["libs", "win64", "Release"].map Utf8.encode, 0⟩) ∧
    byteWorld.files.HasNoLinks ∧ byteWorld.directoryPath? = some ⟨[0x2F, 0xFF]⟩ ∧
      artifactDirectory byteWorld (.ofString "a") = .ok ⟨[0x2F, 0xFF, 0x2F, 0x61]⟩ ∧
      byteWorld.files.lookup? byteWorld.directory ⟨[0x2F, 0xFF, 0x2F, 0x61]⟩ =
        some ⟨[[0xFF], [0x61]], 0⟩ ∧
      byteWorld.files.isDirectoryAt ⟨[[0xFF], [0x61]], 0⟩ = true ∧
      ((bootstrapOf "a").resolve byteWorld).value =
        .error (.unresolved (.nonUnicode ⟨[0x2F, 0xFF, 0x2F, 0x61]⟩)) := by
  have hrooted : rootedWorld.files.HasNoLinks :=
    FileSystem.hasNoLinks_of_nodes (by decide +kernel)
  refine ⟨⟨hrooted, ?_, ?_, ?_, ?_, ?_, ?_, ?_⟩, byteWorld_hasNoLinks, ?_, ?_, ?_, ?_, ?_⟩ <;>
    decide +kernel

end NativeBootstrap
