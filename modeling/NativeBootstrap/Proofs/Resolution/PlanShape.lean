import Mathlib.Data.List.Nodup
import NativeBootstrap.LoadPlan
import NativeBootstrap.Proofs.Path.Segments

/-!
# The shape of a load plan

A plan is made by three joins, one behind the other, with a separator that the host chooses. If that
separator shares no character with the names it stands between, none of them is taken for a
separator or completes one, so every joint holds exactly one: `plan_has_shape` writes the whole plan
out. The root may be any text. It counts only with a separator at its end, which is written if it
is missing (`writtenDirectory_append_separator`).

No two libraries of a plan have the same name, so the position of a name is the one entry that has
it (`position?_eq_some_iff`).
-/

set_option autoImplicit false

namespace NativeBootstrap.LoadPlan

/-- The directory of a variant's libraries under a root, written out: the root with a separator at
its end, and three names with a separator between each two. -/
def writtenDirectory (root : String) (variant : Variant) (separator : String) : String :=
  (if Path.endsWith root separator then root else root ++ separator) ++
    "libs" ++ separator ++ variant.arch.name ++ separator ++ "Release"

/-- A separator shares no character with the names of a plan. -/
def IsForeign (separator : String) (variant : Variant) : Prop :=
  ∀ c ∈ separator.toList, c ∉ "libs".toList ∧ c ∉ variant.arch.name.toList ∧
    c ∉ "Release".toList ∧ ∀ library ∈ variant.libraries, c ∉ library.toList

instance (separator : String) (variant : Variant) : Decidable (IsForeign separator variant) :=
  List.decidableBAll _ separator.toList

variable {separator : String} {variant : Variant}

/-! ## Directory and paths -/

theorem arch_name_ne_empty (arch : Arch) : arch.name ≠ "" := by
  cases arch <;> decide

/-- Two joins make the directory; they are one join of three names. -/
theorem libsDirectory_eq_writtenDirectory (hseparator : separator ≠ "")
    (h : IsForeign separator variant) (root : String) :
    libsDirectory root variant separator = writtenDirectory root variant separator := by
  have hconfig : variant.config.name = "Release" := by
    cases variant.config
    rfl
  have hnames : ∀ name ∈ [libsName, variant.arch.name, variant.config.name],
      name ≠ "" ∧ ∀ c ∈ separator.toList, c ∉ name.toList := by
    intro name hmem
    simp only [List.mem_cons, List.not_mem_nil, or_false] at hmem
    rcases hmem with rfl | rfl | rfl
    · exact ⟨by decide, fun c hc => (h c hc).1⟩
    · exact ⟨arch_name_ne_empty _, fun c hc => (h c hc).2.1⟩
    · rw [hconfig]
      exact ⟨by decide, fun c hc => (h c hc).2.2.1⟩
  unfold libsDirectory
  rw [← Path.joinWith_append, List.singleton_append,
    Path.joinWith_names hseparator (List.cons_ne_nil _ _) hnames, hconfig]
  simp only [String.intercalate_cons_cons, String.intercalate_singleton, writtenDirectory,
    Path.closed, libsName, String.append_assoc]

/-- The path of a library: its name in the directory. -/
theorem joinWith_library (hseparator : separator ≠ "") (h : IsForeign separator variant)
    {library : String} (hmem : library ∈ variant.libraries) (root : String) :
    Path.joinWith separator (writtenDirectory root variant separator) [library] =
      writtenDirectory root variant separator ++ separator ++ library := by
  have hlibrary : library ≠ "" ∧ ∀ c ∈ separator.toList, c ∉ library.toList := by
    refine ⟨?_, fun c hc => (h c hc).2.2.2 library hmem⟩
    rintro rfl
    have hnone : "" ∉ [coreLibrary, wrapperLibrary] := by decide
    exact hnone hmem
  have hnames : ∀ name ∈ [library], name ≠ "" ∧ ∀ c ∈ separator.toList, c ∉ name.toList :=
    List.forall_mem_singleton.2 hlibrary
  -- The directory ends with a name, and so in no separator.
  have hends : Path.endsWith (writtenDirectory root variant separator) separator = false :=
    Path.endsWith_append_name hseparator (by decide) (fun c hc => (h c hc).2.2.1) _
  rw [Path.joinWith_names hseparator (List.cons_ne_nil _ _) hnames, String.intercalate_singleton,
    Path.closed_of_not_endsWith hends]

theorem underRoot_eq_written (hseparator : separator ≠ "") (h : IsForeign separator variant)
    (root : String) :
    underRoot root variant separator =
      { libsDir := .ofString (writtenDirectory root variant separator)
        entries := variant.libraries.map fun library =>
          ⟨library, .ofString (writtenDirectory root variant separator ++ separator ++ library)⟩ } := by
  have hentries : ∀ library ∈ variant.libraries,
      PlanEntry.mk library (.ofString (Path.joinWith separator
          (writtenDirectory root variant separator) [library])) =
        ⟨library, .ofString (writtenDirectory root variant separator ++ separator ++ library)⟩ := by
    intro library hmem
    rw [joinWith_library hseparator h hmem]
  simp only [underRoot, libsDirectory_eq_writtenDirectory hseparator h]
  rw [List.map_congr_left hentries]

/-- A separator at the end of a root is the one that would be written. -/
theorem writtenDirectory_append_separator {root : String}
    (hroot : Path.endsWith root separator = false) (variant : Variant) :
    writtenDirectory (root ++ separator) variant separator =
      writtenDirectory root variant separator := by
  simp [writtenDirectory, hroot]

/-! ## Positions -/

/-- In a plan without two libraries of one name, the position of a name is that of the entry with
this name. -/
theorem position?_eq_some_iff {plan : LoadPlan} (h : (plan.entries.map PlanEntry.name).Nodup)
    {name : String} {i : Nat} :
    plan.position? name = some i ↔ ∃ entry, plan.entries[i]? = some entry ∧ entry.name = name := by
  unfold position?
  rw [List.findIdx?_eq_some_iff_getElem]
  constructor
  · rintro ⟨hi, hname, -⟩
    exact ⟨plan.entries[i], List.getElem?_eq_getElem hi, by simpa using hname⟩
  · rintro ⟨entry, hentry, rfl⟩
    obtain ⟨hi, rfl⟩ := List.getElem?_eq_some_iff.1 hentry
    refine ⟨hi, by simp, ?_⟩
    intro j hj hname
    have hbound : j < plan.entries.length := Nat.lt_trans hj hi
    -- Two entries of one name are one entry.
    have hnames : (plan.entries.map PlanEntry.name)[j]? = (plan.entries.map PlanEntry.name)[i]? := by
      rw [List.getElem?_map, List.getElem?_map, hentry, List.getElem?_eq_getElem hbound]
      simpa using hname
    have hsame : j = i := (List.getElem?_inj (by simpa using hbound) h).1 hnames
    omega

theorem map_name_underRoot (root : String) (variant : Variant) (separator : String) :
    (underRoot root variant separator).entries.map PlanEntry.name = variant.libraries := by
  simp [underRoot, Function.comp_def]

/-! ## Main statement -/

/-- **The shape of every load plan.** With a separator that is not empty and shares no character with
the names, the libraries lie in the written directory, one after the other in load order, each with
its name behind one more separator. A root with a separator at its end and the one without it have
the same plan. The position of a name is the place of the entry that carries it. -/
theorem plan_has_shape (hseparator : separator ≠ "") (h : IsForeign separator variant)
    (root : String) :
    underRoot root variant separator =
      { libsDir := .ofString (writtenDirectory root variant separator)
        entries := variant.libraries.map fun library =>
          ⟨library, .ofString (writtenDirectory root variant separator ++ separator ++ library)⟩ } ∧
    (Path.endsWith root separator = false →
      underRoot (root ++ separator) variant separator = underRoot root variant separator) ∧
    (∀ (name : String) (i : Nat),
      (underRoot root variant separator).position? name = some i ↔
        ∃ entry, (underRoot root variant separator).entries[i]? = some entry ∧
          entry.name = name) := by
  refine ⟨underRoot_eq_written hseparator h root, ?_, ?_⟩
  · intro hroot
    rw [underRoot_eq_written hseparator h, underRoot_eq_written hseparator h,
      writtenDirectory_append_separator hroot]
  · intro name i
    apply position?_eq_some_iff
    rw [map_name_underRoot]
    have hdistinct : [coreLibrary, wrapperLibrary].Nodup := by decide
    exact hdistinct

/-- A separator of two characters, half of which the root ends in: that half does not count. -/
theorem plan_has_shape_of_two_colons :
    "::" ≠ "" ∧ IsForeign "::" ⟨.win64, .release⟩ ∧
      underRoot "a:" ⟨.win64, .release⟩ "::" =
        { libsDir := .ofString "a:::libs::win64::Release"
          entries :=
            [⟨"libclogger_dll.dll", .ofString "a:::libs::win64::Release::libclogger_dll.dll"⟩,
              ⟨"clogger_jniwrapper.dll",
                .ofString "a:::libs::win64::Release::clogger_jniwrapper.dll"⟩] } ∧
      underRoot "a:::" ⟨.win64, .release⟩ "::" = underRoot "a:" ⟨.win64, .release⟩ "::" := by
  have hseparator : "::" ≠ "" := by decide
  have hforeign : IsForeign "::" ⟨.win64, .release⟩ := by decide
  obtain ⟨hplan, happend, -⟩ := plan_has_shape hseparator hforeign "a:"
  refine ⟨hseparator, hforeign, hplan.trans (by decide), ?_⟩
  exact happend (by decide)

end NativeBootstrap.LoadPlan
