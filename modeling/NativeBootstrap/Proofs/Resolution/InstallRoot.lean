import NativeBootstrap.Proofs.Percent.Rejection
import NativeBootstrap.Proofs.Resolution.InstalledLayout

/-!
# The install root above an artifact's directory

The directory of an artifact is plain text, but the search for the install root above it reads that
text as an encoded path once more. Where no `%` stands in the text above the last name, and the last
name is still one name when it is decoded, this changes nothing: the root is the directory above,
whatever the separator of the host (`Bootstrap.resolve_of_plain_parent`). Where a `%` stands that
introduces no escape, there is no root (`Bootstrap.resolve_of_undecodable`).

The main statement is `resolve_takes_root_above_directory`; `resolve_decodes_directory_again` shows
both ways in which a directory with a `%` in it goes astray.
-/

set_option autoImplicit false

namespace NativeBootstrap

/-- Only the empty text is decoded to the empty text. -/
theorem Percent.ne_empty_of_decode {encoded plain : String} (h : decode encoded = .ok plain)
    (hne : Utf8.encode encoded ≠ []) : plain ≠ "" := by
  rintro rfl
  rw [decode_eq_ok_iff] at h
  have hwrites : Writes (fun _ => False) (Utf8.encode encoded) [] := h
  generalize Utf8.encode encoded = bytes at hwrites hne
  cases hwrites
  exact hne rfl

/-! ## Success and failure -/

namespace Bootstrap

variable {b : Bootstrap} {w : World} {parent name : String}

theorem resolve_of_undecodable (hhost : "Windows".toList <:+: b.host.osName.toList) {text : String}
    {fault : Percent.Fault}
    (hdirectory : b.findDirectory w = .ok (.ofString text))
    (hfault : Percent.decode text = .error fault) :
    (b.resolve w).value = .error (.unresolved (.noInstallRoot (.ofString text))) := by
  obtain ⟨what, hresolve⟩ := resolve_of_pathFailure (Variant.select?_of_windows hhost)
    (.installRoot hdirectory (containingDirectory_of_fault hfault _))
  rw [hresolve]

/-- The root is the directory above, if that holds no `%` and the last name is decoded to a name. -/
theorem resolve_of_plain_parent (hhost : "Windows".toList <:+: b.host.osName.toList)
    (hparent : (Path.ofString parent).IsNormal) (hplain : '%' ∉ parent.toList) {plain : String}
    (hname : Percent.decode name = .ok plain) (hne : plain ≠ "") (hdot : plain ≠ ".")
    (hseparator : '/' ∉ plain.toList)
    (hdirectory : b.findDirectory w =
      .ok (.ofString (Path.inside parent name))) :
    (b.resolve w).value =
      .ok (.underRoot parent ⟨if b.host.dataModel = "64" then .win64 else .win86, .release⟩
        b.host.fileSeparator) :=
  resolve_eq_ok_iff.2 ⟨_, Path.inside parent name, parent, Variant.select?_of_windows hhost,
    hdirectory,
    containingDirectory_inside hparent (Path.isBlank_encode hne hdot)
      (Path.separator_not_mem_encode hseparator) (Path.decode_inside hplain hname)
      (Percent.decode_self hplain) _,
    rfl⟩

end Bootstrap

/-! ## Main statement -/

/-- The directory of a plan is its root joined with three names. -/
theorem LoadPlan.libsDir_underRoot (root separator : String) (arch : Arch) :
    (underRoot root ⟨arch, .release⟩ separator).libsDir =
      .ofString (Path.joinWith separator root ["libs", arch.name, "Release"]) :=
  rfl

/-- **The install root is the directory above the artifact's.** Let the artifact's directory be found
as a name in another directory, in normal form. On any host whose system's name tells Windows, and for
any separator, resolving succeeds and takes the directory above as the root, if no `%` stands in that
and the name is decoded to a name. A name without `%` is. If there is a `%` anywhere in the artifact's
directory that two hexadecimal digits do not follow, resolving finds no root. -/
theorem resolve_takes_root_above_directory {b : Bootstrap} {w : World} {parent name : String}
    (hhost : "Windows".toList <:+: b.host.osName.toList)
    (hparent : (Path.ofString parent).IsNormal) (hname : Path.IsEntryName (Utf8.encode name))
    (hdirectory : b.findDirectory w =
      .ok (.ofString (Path.inside parent name))) :
    ('%' ∉ parent.toList →
      ('%' ∉ name.toList ∨
        ∃ plain, Percent.decode name = .ok plain ∧ plain ≠ "." ∧ '/' ∉ plain.toList) →
      ∃ plan, (b.resolve w).value = .ok plan ∧
        plan.libsDir = .ofString (Path.joinWith b.host.fileSeparator parent
          ["libs", if b.host.dataModel = "64" then "win64" else "win86", "Release"])) ∧
    ((∃ offset, Percent.FaultAt (Path.inside parent name) offset) →
      (b.resolve w).value =
        .error (.unresolved (.noInstallRoot (.ofString (Path.inside parent name))))) := by
  refine ⟨?_, ?_⟩
  · intro hplain hplainName
    obtain ⟨plain, hdecode, hdot, hseparator⟩ :
        ∃ plain, Percent.decode name = .ok plain ∧ plain ≠ "." ∧ '/' ∉ plain.toList := by
      rcases hplainName with hplainName | hplainName
      · refine ⟨name, Percent.decode_self hplainName, ?_, ?_⟩
        · rintro rfl
          exact hname.ne_dot rfl
        · intro hmem
          exact hname.separator_not_mem
            ((Utf8.code_mem_encode_iff (c := '/') (by decide)).2 hmem)
      · exact hplainName
    have hne : plain ≠ "" := Percent.ne_empty_of_decode hdecode hname.ne_nil
    refine ⟨_, Bootstrap.resolve_of_plain_parent hhost hparent hplain hdecode hne hdot hseparator
      hdirectory, ?_⟩
    rw [LoadPlan.libsDir_underRoot]
    split <;> rfl
  · intro hfault
    obtain ⟨offset, hdecode⟩ := Percent.exists_decode_eq_malformedEscape_iff.2 hfault
    exact Bootstrap.resolve_of_undecodable hhost hdirectory hdecode

/-- A bare world with directories that have a `%` in their names. -/
def percentWorld : World :=
  ((bareWorld.change (.directory (.ofString "/my app/100%25"))).change
    (.directory (.ofString "/100%/bin"))).change (.directory (.ofString "/a%41/bin"))

/-- The bootstrap of an artifact for the sample host. -/
def bootstrapOf (artifact : String) : Bootstrap := ⟨.scripted [], sampleHost, some (.ofString artifact)⟩

/-- A directory whose own name is an escape, and one below a name that is none. -/
theorem resolve_takes_root_above_directory_of_escaped_name :
    artifactDirectory percentWorld (.ofString "/my%20app/100%2525") =
        .ok (.ofString (Path.inside "/my app" "100%25")) ∧
      (∃ plan, ((bootstrapOf "/my%20app/100%2525").resolve percentWorld).value = .ok plan ∧
        plan.libsDir = .ofString "/my app/libs/win64/Release") ∧
      artifactDirectory percentWorld (.ofString "/100%25/bin") =
        .ok (.ofString (Path.inside "/100%" "bin")) ∧
      ((bootstrapOf "/100%25/bin").resolve percentWorld).value =
        .error (.unresolved (.noInstallRoot (.ofString "/100%/bin"))) := by
  have hwindows : "Windows".toList <:+: sampleHost.osName.toList := ⟨[], " 10".toList, by decide⟩
  have hfound : artifactDirectory percentWorld (.ofString "/my%20app/100%2525") =
      .ok (.ofString (Path.inside "/my app" "100%25")) := by decide +kernel
  have hfound' : artifactDirectory percentWorld (.ofString "/100%25/bin") =
      .ok (.ofString (Path.inside "/100%" "bin")) := by decide +kernel
  obtain ⟨hroot, -⟩ := resolve_takes_root_above_directory (b := bootstrapOf "/my%20app/100%2525")
    hwindows ⟨["my app"].map Utf8.encode, by decide, rfl⟩ (by decide) hfound
  obtain ⟨-, hnone⟩ := resolve_takes_root_above_directory (b := bootstrapOf "/100%25/bin")
    hwindows ⟨["100%"].map Utf8.encode, by decide, rfl⟩ (by decide) hfound'
  obtain ⟨plan, hplan, hlibs⟩ :=
    hroot (by decide) (Or.inr ⟨"100%", by decide +kernel, by decide, by decide⟩)
  have hfault : ∃ offset, Percent.FaultAt (Path.inside "/100%" "bin") offset :=
    Percent.exists_decode_eq_malformedEscape_iff.1 ⟨4, by decide +kernel⟩
  exact ⟨hfound, ⟨plan, hplan, hlibs.trans (by decide +kernel)⟩, hfound', hnone hfault⟩

/-- **A directory with a `%` in it is decoded again.** The directory `/100%/bin` is found for an
artifact, but no root above it; and the root above `/a%41/bin` is looked for in `/aA`. -/
theorem resolve_decodes_directory_again :
    (artifactDirectory percentWorld (.ofString "/100%25/bin") = .ok (.ofString "/100%/bin") ∧
      ((bootstrapOf "/100%25/bin").resolve percentWorld).value =
        .error (.unresolved (.noInstallRoot (.ofString "/100%/bin")))) ∧
    artifactDirectory percentWorld (.ofString "/a%2541/bin") = .ok (.ofString "/a%41/bin") ∧
      ((bootstrapOf "/a%2541/bin").resolve percentWorld).value.map LoadPlan.libsDir =
        .ok (.ofString "/aA/libs/win64/Release") ∧
      Path.joinWith "/" "/a%41" ["libs", "win64", "Release"] ≠ "/aA/libs/win64/Release" := by
  refine ⟨⟨?_, ?_⟩, ?_, ?_, ?_⟩ <;> decide +kernel

end NativeBootstrap
