import NativeBootstrap.Proofs.Artifact.DoubleEncoding
import NativeBootstrap.Proofs.Percent.Rejection
import NativeBootstrap.Proofs.Session.Runs

/-!
# The directory of the running program

The program's own location is a path as the system has it, but the search for its directory reads it
as an encoded one. For a location without `%` there is no difference: what is found is the directory
that holds the program, because a regular file is no directory. Where a `%` stands in the location
that introduces no escape, nothing is found.

The main statement is `programDirectory_holds_program`; `programDirectory_decodes_location` shows
both ways in which a location with a `%` in it goes astray.
-/

set_option autoImplicit false

namespace NativeBootstrap

/-- Where a regular file lies, there is no directory. -/
theorem FileSystem.not_isDirectory_of_isFile {fs : FileSystem} {directory : Place} {path : Path}
    (h : fs.isFile directory path = true) : fs.isDirectory directory path = false := by
  unfold isFile at h
  unfold isDirectory
  cases hplace : fs.lookup? directory path with
  | none => rfl
  | some place =>
      rw [hplace, Option.bind_some, nodeAt?] at h
      show fs.isDirectoryAt place = false
      unfold isDirectoryAt
      by_cases hremoved : place.removed = 0
      · rw [if_pos hremoved] at h
        cases hnode : fs.node? place.location with
        | none => simp [hremoved]
        | some node =>
            rw [hnode] at h
            cases node <;> simp_all
      · rw [if_neg hremoved] at h
        cases h

section Program

variable {w : World} {directory name : String}

theorem programDirectory_of_plain (hdirectory : (Path.ofString directory).IsNormal)
    (hname : Path.IsEntryName (Utf8.encode name))
    (hlocation : w.programLocation? = some (.ofString (Path.inside directory name)))
    (hfile : w.isFile (.ofString (Path.inside directory name)) = true)
    (hplain : '%' ∉ directory.toList) (hplainName : '%' ∉ name.toList) :
    programDirectory w = .ok (.ofString directory) := by
  have hdecode : Percent.decode (Path.inside directory name) = .ok (Path.inside directory name) :=
    Path.decode_inside hplain (Percent.decode_self hplainName)
  have hnone : w.isDirectory (.ofString (Path.inside directory name)) = false :=
    FileSystem.not_isDirectory_of_isFile hfile
  have hcontaining : containingDirectory w.directoryPath? (Path.inside directory name) =
      .ok (.ofString directory) :=
    containingDirectory_inside hdirectory hname.isBlank_eq hname.separator_not_mem hdecode
      (Percent.decode_self hplain) _
  rw [programDirectory_of_location hlocation]
  exact artifactDirectory_eq_ok_iff.2 ⟨_, _, rfl, hdecode, Or.inr ⟨hnone, hcontaining⟩⟩

theorem programDirectory_of_undecodable {text : String} {fault : Percent.Fault}
    (hlocation : w.programLocation? = some (.ofString text))
    (hfault : Percent.decode text = .error fault) :
    programDirectory w = .error (.undecodable fault) := by
  rw [programDirectory_of_location hlocation]
  unfold artifactDirectory
  rw [pathText_eq_ok_iff.2 rfl]
  show (decodePath text >>= _) = _
  rw [decodePath_of_error hfault]
  rfl

/-! ## Main statement -/

/-- **The program's directory is the one that holds it.** Let the program lie at a path in normal form
where there is a regular file. Its directory is found if no `%` stands in that path. If there is a `%`
that two hexadecimal digits do not follow, its directory is not found, and the place of the first such
`%` is told. -/
theorem programDirectory_holds_program (hdirectory : (Path.ofString directory).IsNormal)
    (hname : Path.IsEntryName (Utf8.encode name))
    (hlocation : w.programLocation? = some (.ofString (Path.inside directory name)))
    (hfile : w.isFile (.ofString (Path.inside directory name)) = true) :
    ('%' ∉ directory.toList → '%' ∉ name.toList → programDirectory w = .ok (.ofString directory)) ∧
    ∀ offset, Percent.FaultAt (Path.inside directory name) offset →
      (∀ other, Percent.FaultAt (Path.inside directory name) other → offset ≤ other) →
      programDirectory w = .error (.undecodable (.malformedEscape offset)) := by
  refine ⟨programDirectory_of_plain hdirectory hname hlocation hfile, ?_⟩
  intro offset hfault hfirst
  exact programDirectory_of_undecodable hlocation
    (Percent.decode_eq_malformedEscape_iff.2 ⟨hfault, hfirst⟩)

end Program

/-- The bare world with a file, and a program that was started by the path of it. -/
def worldOfProgram (path : String) : World :=
  { bareWorld.change (.file (.ofString path)) with
    invocation := ⟨.ofString path, some (.ofString "/opt/shim")⟩ }

/-- A program in a directory with a blank in its name, and one in a directory with a `%`. -/
theorem programDirectory_holds_program_of_sample :
    (worldOfProgram "/my app/bin/shim").isFile (.ofString "/my app/bin/shim") = true ∧
      programDirectory (worldOfProgram "/my app/bin/shim") = .ok (.ofString "/my app/bin") ∧
      (worldOfProgram "/100%/shim").isFile (.ofString "/100%/shim") = true ∧
      programDirectory (worldOfProgram "/100%/shim") =
        .error (.undecodable (.malformedEscape 4)) := by
  have hlocation : (worldOfProgram "/my app/bin/shim").programLocation? =
      some (.ofString (Path.inside "/my app/bin" "shim")) := by decide +kernel
  have hlocation' : (worldOfProgram "/100%/shim").programLocation? =
      some (.ofString (Path.inside "/100%" "shim")) := by decide +kernel
  have hfile : (worldOfProgram "/my app/bin/shim").isFile (.ofString "/my app/bin/shim") = true := by
    decide +kernel
  have hfile' : (worldOfProgram "/100%/shim").isFile (.ofString "/100%/shim") = true := by
    decide +kernel
  obtain ⟨hfound, -⟩ := programDirectory_holds_program
    ⟨["my app", "bin"].map Utf8.encode, by decide, rfl⟩ (by decide) hlocation
    hfile
  obtain ⟨-, hrefused⟩ := programDirectory_holds_program
    ⟨["100%"].map Utf8.encode, by decide, rfl⟩ (by decide) hlocation' hfile'
  obtain ⟨hfault, hfirst⟩ := Percent.decode_eq_malformedEscape_iff.1
    (by decide +kernel : Percent.decode (Path.inside "/100%" "shim") = .error (.malformedEscape 4))
  exact ⟨hfile, hfound (by decide) (by decide), hfile', hrefused 4 hfault hfirst⟩

/-- **A location with a `%` in it is decoded.** A program in `/100%` has no directory, and one in
`/a%41` is looked for in `/aA`. -/
theorem programDirectory_decodes_location :
    ((worldOfProgram "/100%/shim").programLocation? = some (.ofString "/100%/shim") ∧
      (worldOfProgram "/100%/shim").isFile (.ofString "/100%/shim") = true ∧
      programDirectory (worldOfProgram "/100%/shim") =
        .error (.undecodable (.malformedEscape 4))) ∧
    (worldOfProgram "/a%41/shim").programLocation? = some (.ofString "/a%41/shim") ∧
      (worldOfProgram "/a%41/shim").isFile (.ofString "/a%41/shim") = true ∧
      programDirectory (worldOfProgram "/a%41/shim") = .ok (.ofString "/aA") := by
  refine ⟨⟨?_, ?_, ?_⟩, ?_, ?_, ?_⟩ <;> decide +kernel

end NativeBootstrap
