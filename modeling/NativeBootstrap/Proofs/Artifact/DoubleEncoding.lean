import NativeBootstrap.Proofs.Artifact.Directories
import NativeBootstrap.Proofs.Path.Normal
import NativeBootstrap.Proofs.Percent.Pieces

/-!
# A directory that is encoded twice

The directory that contains what an encoded path names is decoded twice: once as a part of the path,
and once more by itself, after its absolute form was taken. So it may be encoded twice, and comes out
as it was if the first encoding keeps its separators.

Such an encoding of a path in normal form is in normal form too, with one name for each
(`Path.exists_names_of_writes`), so that neither the parent nor the absolute form changes it
(`containingDirectory_inside`). The main statement is `containingDirectory_undoes_double_encoding`.
-/

set_option autoImplicit false

namespace NativeBootstrap

/-! ## Encodings that keep separators -/

namespace Path

/-- Whether a byte is a separator. -/
def IsSeparator (byte : UInt8) : Prop := byte = separator

instance : DecidablePred IsSeparator := fun byte => inferInstanceAs (Decidable (byte = separator))

/-- What writes a name that an entry can have is such a name itself. -/
theorem isEntryName_of_writes {encoded name : Name} (h : Percent.Writes IsSeparator encoded name)
    (hname : IsEntryName name) : IsEntryName encoded := by
  have hsame : Percent.sign ∉ encoded → encoded = name := fun hsign => (h.eq_of_not_mem hsign).symm
  refine ⟨?_, ?_, ?_, ?_⟩
  · rintro rfl
    exact hname.ne_nil (hsame (by decide)).symm
  · rintro rfl
    exact hname.ne_dot (hsame (by decide)).symm
  · rintro rfl
    exact hname.ne_dotdot (hsame (by decide)).symm
  · intro hmem
    obtain ⟨front, back, rfl⟩ := List.append_of_mem hmem
    rw [Percent.writes_append_cons_iff (by decide) (Percent.not_isDigitOf rfl)] at h
    obtain ⟨front', back', rfl, -, -⟩ := h
    exact hname.separator_not_mem (by simp)

/-- What writes names with separators between them consists of as many names. -/
theorem exists_names_of_writes_intercalate {encoded : Bytes} {names : List Name}
    (h : Percent.Writes IsSeparator encoded ([separator].intercalate names))
    (hnames : ∀ name ∈ names, IsEntryName name) :
    ∃ names' : List Name, names'.length = names.length ∧
      encoded = [separator].intercalate names' ∧ ∀ name ∈ names', IsEntryName name := by
  induction names generalizing encoded with
  | nil =>
      cases h
      exact ⟨[], rfl, rfl, by simp⟩
  | cons name names ih =>
      obtain ⟨hname, hnames⟩ := List.forall_mem_cons.1 hnames
      cases names with
      | nil =>
          rw [List.intercalate_singleton] at h
          exact ⟨[encoded], rfl, List.intercalate_singleton.symm,
            List.forall_mem_singleton.2 (isEntryName_of_writes h hname)⟩
      | cons next names =>
          have hkept : IsSeparator separator := rfl
          rw [List.intercalate_cons_cons, List.append_assoc, List.singleton_append] at h
          obtain ⟨front, back, rfl, hfront, hback⟩ := Percent.Writes.exists_of_kept hkept h
          obtain ⟨names', hlength, rfl, hnames'⟩ := ih hback hnames
          obtain ⟨next', names', rfl⟩ : ∃ next' more, names' = next' :: more :=
            List.exists_cons_of_length_eq_add_one hlength
          refine ⟨front :: next' :: names', by simp [hlength], ?_,
            List.forall_mem_cons.2 ⟨isEntryName_of_writes hfront hname, hnames'⟩⟩
          rw [List.intercalate_cons_cons, List.append_assoc, List.singleton_append]

/-- What writes a path in normal form, and keeps its separators, is a path in normal form. -/
theorem isNormal_of_writes {encoded plain : Bytes} (h : Percent.Writes IsSeparator encoded plain)
    (hplain : IsNormal ⟨plain⟩) : IsNormal ⟨encoded⟩ := by
  obtain ⟨names, hnames, hrooted⟩ := hplain
  obtain rfl : plain = separator :: [separator].intercalate names := Path.mk.inj hrooted
  have hkept : IsSeparator separator := rfl
  have hcut : Percent.Writes IsSeparator encoded
      ([] ++ separator :: [separator].intercalate names) := h
  obtain ⟨front, back, rfl, hfront, hback⟩ := Percent.Writes.exists_of_kept hkept hcut
  cases hfront
  obtain ⟨names', -, rfl, hnames'⟩ := exists_names_of_writes_intercalate hback hnames
  exact ⟨names', hnames', rfl⟩

end Path

/-! ## A name in a directory in normal form -/

/-- A name put into a directory without `%` is decoded by itself. -/
theorem Path.decode_inside {directory name plain : String} (hdirectory : '%' ∉ directory.toList)
    (hname : Percent.decode name = .ok plain) :
    Percent.decode (inside directory name) = .ok (inside directory plain) := by
  unfold inside
  split
  · exact Percent.decode_append_of_not_mem (by decide) hname
  · exact Percent.decode_append_of_not_mem (by simpa using hdirectory) hname

/-- The parent of a name in a directory in normal form is that directory. -/
theorem decodedParent_inside {directory name : String} (h : (Path.ofString directory).IsNormal)
    (hblank : Path.isBlank (Utf8.encode name) = false)
    (hname : Path.separator ∉ Utf8.encode name) :
    decodedParent (Path.inside directory name) = .ok (.ofString directory) := by
  obtain ⟨names, hnames, hdirectory⟩ := h
  refine decodedParent_eq_ok_iff.2 ⟨?_, ?_⟩
  · rw [Path.ofString_inside hnames hdirectory, Path.parent?_rooted_concat hnames hblank hname,
      hdirectory]
  · rw [hdirectory]
    exact List.cons_ne_nil _ _

/-- What contains a name in a directory in normal form is that directory, decoded. -/
theorem containingDirectory_inside {encoded directory name plain : String}
    (h : (Path.ofString directory).IsNormal)
    (hblank : Path.isBlank (Utf8.encode name) = false)
    (hname : Path.separator ∉ Utf8.encode name)
    (hencoded : Percent.decode encoded = .ok (Path.inside directory name))
    (hplain : Percent.decode directory = .ok plain) (workingDirectory : Option Path) :
    containingDirectory workingDirectory encoded = .ok (.ofString plain) :=
  containingDirectory_eq_ok_iff.2 ⟨Path.inside directory name, .ofString directory, directory, plain,
    hencoded, decodedParent_inside h hblank hname, h.absolute?_eq workingDirectory, hplain, rfl⟩

/-! ## Main statement -/

/-- **The double encoding of a directory is undone.** Let a directory in normal form be encoded with
its separators kept, a name be put into what that gives, and the whole be encoded in any way. Then
the directory that contains what is named so is the one at the start, whatever the working directory
and also without one. The name may be anything but empty and a single dot. -/
theorem containingDirectory_undoes_double_encoding {directory once name encoded : String}
    (hdirectory : (Path.ofString directory).IsNormal)
    (honce : Percent.IsEncodingKeeping Path.IsSeparator once directory)
    (hne : name ≠ "") (hdot : name ≠ ".") (hname : '/' ∉ name.toList)
    (hencoded : Percent.IsEncoding encoded (Path.inside once name))
    (workingDirectory : Option Path) :
    containingDirectory workingDirectory encoded = .ok (.ofString directory) := by
  have hnormal : (Path.ofString once).IsNormal := Path.isNormal_of_writes honce hdirectory
  have hplain : Percent.IsEncoding once directory := honce.weaken fun _ => False.elim
  exact containingDirectory_inside hnormal (Path.isBlank_encode hne hdot)
    (Path.separator_not_mem_encode hname) (Percent.decode_eq_ok_iff.2 hencoded)
    (Percent.decode_eq_ok_iff.2 hplain) workingDirectory

/-- The directory `/a%`, with both of its characters escaped; of the path in it the separators are
escaped too, and the name at its end is that of a parent. -/
theorem containingDirectory_undoes_double_encoding_of_escaped_separators :
    (Path.ofString "/a%").IsNormal ∧
      Percent.IsEncodingKeeping Path.IsSeparator "/%61%25" "/a%" ∧
      Percent.IsEncoding "%2f%2561%2525%2F.." (Path.inside "/%61%25" "..") ∧
      containingDirectory none "%2f%2561%2525%2F.." = .ok (.ofString "/a%") := by
  have hdirectory : (Path.ofString "/a%").IsNormal :=
    ⟨[[0x61, 0x25]], by decide, rfl⟩
  have honce : Percent.IsEncodingKeeping Path.IsSeparator "/%61%25" "/a%" := by
    have hbytes : Utf8.encode "/%61%25" = [0x2F, 0x25, 0x36, 0x31, 0x25, 0x32, 0x35] := rfl
    have hbytes' : Utf8.encode "/a%" = [0x2F, 0x61, 0x25] := rfl
    rw [Percent.IsEncodingKeeping, hbytes, hbytes']
    exact .literal (by decide) (.escape (by decide) (by decide) (.escape (by decide) (by decide) .nil))
  have hencoded : Percent.IsEncoding "%2f%2561%2525%2F.." (Path.inside "/%61%25" "..") :=
    Percent.decode_eq_ok_iff.1 (by decide +kernel)
  exact ⟨hdirectory, honce, hencoded, containingDirectory_undoes_double_encoding hdirectory honce
    (by decide) (by decide) (by decide) hencoded none⟩

end NativeBootstrap
