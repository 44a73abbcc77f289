import NativeBootstrap.Path.Lexical
import NativeBootstrap.Proofs.Text.Ascii

/-!
# Paths in normal form

An absolute path is in normal form if it is the root, or names each behind one separator, none of
them empty or a dot or two (`Path.IsNormal`). `Path.rooted` writes names so; a name put into a
directory in normal form is one more name at the end (`Path.ofString_inside`).

On such paths the two lexical operations do what their names say: the parent of a name in a directory
is that directory (`Path.parent?_rooted_concat`), and the absolute form of a path is the path itself,
whatever the working directory (`Path.absolute?_rooted`).
-/

set_option autoImplicit false

namespace NativeBootstrap.Path

/-- Whether a name is one that an entry of a directory can have. -/
structure IsEntryName (name : Name) : Prop where
  ne_nil : name ≠ []
  ne_dot : name ≠ dot
  ne_dotdot : name ≠ dotdot
  separator_not_mem : separator ∉ name

instance (name : Name) : Decidable (IsEntryName name) :=
  decidable_of_iff (name ≠ [] ∧ name ≠ dot ∧ name ≠ dotdot ∧ separator ∉ name)
    ⟨fun ⟨hne, hdot, hdotdot, hseparator⟩ => ⟨hne, hdot, hdotdot, hseparator⟩,
      fun h => ⟨h.ne_nil, h.ne_dot, h.ne_dotdot, h.separator_not_mem⟩⟩

/-- The absolute path of names, each below the one before; it is the root if there is none. -/
def rooted (names : List Name) : Path := ⟨separator :: [separator].intercalate names⟩

/-- Whether a path is absolute and in normal form. -/
def IsNormal (p : Path) : Prop := ∃ names, (∀ name ∈ names, IsEntryName name) ∧ p = rooted names

/-- The text of the path of a name in a directory, with one separator between them. -/
def inside (directory name : String) : String :=
  if directory = "/" then "/" ++ name else directory ++ "/" ++ name

theorem IsEntryName.isBlank_eq {name : Name} (h : IsEntryName name) : isBlank name = false := by
  simp [isBlank, h.ne_nil, h.ne_dot]

/-! ## Names with separators between them -/

theorem intercalate_append {front back : List Name} (hfront : front ≠ []) (hback : back ≠ []) :
    [separator].intercalate (front ++ back) =
      [separator].intercalate front ++ separator :: [separator].intercalate back := by
  induction front with
  | nil => exact absurd rfl hfront
  | cons name front ih =>
      by_cases hnil : front = []
      · subst hnil
        rw [List.singleton_append, List.intercalate_cons_of_ne_nil hback,
          List.intercalate_singleton, List.append_assoc, List.singleton_append]
      · have hne : front ++ back ≠ [] := List.append_ne_nil_of_left_ne_nil hnil back
        rw [List.cons_append, List.intercalate_cons_of_ne_nil hne, ih hnil,
          List.intercalate_cons_of_ne_nil hnil, List.append_assoc, List.append_assoc,
          List.append_assoc]

theorem intercalate_concat {names : List Name} (hne : names ≠ []) (name : Name) :
    [separator].intercalate (names ++ [name]) =
      [separator].intercalate names ++ separator :: name := by
  rw [intercalate_append hne (List.cons_ne_nil name []), List.intercalate_singleton]

theorem rooted_singleton (name : Name) : rooted [name] = ⟨separator :: name⟩ := by
  rw [rooted, List.intercalate_singleton]

/-! ## The ends of a path in normal form -/

variable {names : List Name}

/-- No separator stands behind the one at the front. -/
theorem head?_intercalate_ne (h : ∀ name ∈ names, IsEntryName name) :
    ([separator].intercalate names).head? ≠ some separator := by
  cases names with
  | nil => simp [List.intercalate]
  | cons name names =>
      have hname := h name List.mem_cons_self
      obtain ⟨byte, rest, rfl⟩ := List.exists_cons_of_ne_nil hname.ne_nil
      have hbyte : byte ≠ separator := fun heq => hname.separator_not_mem (by simp [heq])
      cases names with
      | nil => simpa [List.intercalate] using hbyte
      | cons next names => simpa [List.intercalate] using hbyte

/-- Only the root ends in a separator. -/
theorem getLast?_rooted_eq_iff (h : ∀ name ∈ names, IsEntryName name) :
    (rooted names).bytes.getLast? = some separator ↔ names = [] := by
  constructor
  · intro hlast
    rcases List.eq_nil_or_concat names with hnil | ⟨front, name, hconcat⟩
    · exact hnil
    · exfalso
      rw [List.concat_eq_append] at hconcat
      subst hconcat
      have hname := h name (by simp)
      have hbytes : ∃ before, (rooted (front ++ [name])).bytes = before ++ name := by
        by_cases hfront : front = []
        · subst hfront
          exact ⟨[separator], by rw [List.nil_append, rooted_singleton]; rfl⟩
        · refine ⟨separator :: [separator].intercalate front ++ [separator], ?_⟩
          simp [rooted, intercalate_concat hfront]
      obtain ⟨before, hbytes⟩ := hbytes
      rw [hbytes, List.getLast?_append, List.getLast?_eq_some_getLast hname.ne_nil,
        Option.some_or, Option.some.injEq] at hlast
      exact hname.separator_not_mem (hlast ▸ List.getLast_mem hname.ne_nil)
  · rintro rfl
    rfl

theorem push_rooted (h : ∀ name ∈ names, IsEntryName name) (name : Name) :
    push (rooted names).bytes name = (rooted (names ++ [name])).bytes := by
  unfold push
  by_cases hnames : names = []
  · subst hnames
    rw [List.nil_append, rooted_singleton]
    rfl
  · rw [if_neg (fun hlast => hnames ((getLast?_rooted_eq_iff h).1 hlast))]
    simp [rooted, intercalate_concat hnames]

theorem foldl_push_rooted {more : List Name} (h : ∀ name ∈ names, IsEntryName name)
    (hmore : ∀ name ∈ more, IsEntryName name) :
    more.foldl push (rooted names).bytes = (rooted (names ++ more)).bytes := by
  induction more generalizing names with
  | nil => rw [List.foldl_nil, List.append_nil]
  | cons name more ih =>
      obtain ⟨hname, hmore⟩ := List.forall_mem_cons.1 hmore
      have hnames : ∀ other ∈ names ++ [name], IsEntryName other :=
        List.forall_mem_append.2 ⟨h, List.forall_mem_singleton.2 hname⟩
      rw [List.foldl_cons, push_rooted h, ih hnames hmore, List.append_assoc,
        List.singleton_append]

/-! ## Parent and absolute form -/

theorem start_rooted (names : List Name) : (rooted names).start = .root := rfl

theorem body_rooted (names : List Name) : (rooted names).body = [separator].intercalate names := rfl

/-- The parent of a name in a directory is the directory. The name may be that of a parent. -/
theorem parent?_rooted_concat (h : ∀ name ∈ names, IsEntryName name) {name : Name}
    (hblank : isBlank name = false) (hname : separator ∉ name) :
    (rooted (names ++ [name])).parent? = some (rooted names) := by
  have hpieces : ([separator].intercalate (names ++ [name])).splitOn separator = names ++ [name] := by
    have hnames : ∀ other ∈ names, separator ∉ other := fun other hother =>
      (h other hother).separator_not_mem
    exact List.splitOn_intercalate separator
      (List.forall_mem_append.2 ⟨hnames, List.forall_mem_singleton.2 hname⟩) (by simp)
  have hbefore : names.reverse.dropWhile isBlank = names.reverse := by
    cases hreverse : names.reverse with
    | nil => rfl
    | cons last front =>
        have hlast : last ∈ names := List.mem_reverse.1 (by simp [hreverse])
        rw [List.dropWhile_cons, (h last hlast).isBlank_eq]
        rfl
  simp only [parent?, start_rooted, body_rooted, hpieces, List.reverse_append,
    List.reverse_singleton, List.singleton_append, List.dropWhile_cons, hblank,
    Bool.false_eq_true, ↓reduceIte, hbefore, List.reverse_reverse]
  rfl

/-- The names of joined pieces are those that are not blank. -/
theorem names_rooted_eq_filter (h : ∀ name ∈ names, separator ∉ name) :
    (rooted names).names = names.filter fun name => !isBlank name := by
  unfold Path.names
  rw [body_rooted]
  by_cases hnames : names = []
  · subst hnames
    rfl
  · rw [List.splitOn_intercalate separator h hnames]

theorem names_rooted (h : ∀ name ∈ names, IsEntryName name) : (rooted names).names = names := by
  rw [names_rooted_eq_filter fun name hname => (h name hname).separator_not_mem, List.filter_eq_self]
  intro name hname
  simp [(h name hname).isBlank_eq]

/-- A path in normal form is its own absolute form. -/
theorem absolute?_rooted (h : ∀ name ∈ names, IsEntryName name) (workingDirectory : Option Path) :
    (rooted names).absolute? workingDirectory = some (rooted names) := by
  have hbase : (rooted names).base? workingDirectory = some (rooted []).bytes := by
    simp only [base?, start_rooted, body_rooted, head?_intercalate_ne h, ↓reduceIte, decide_false,
      Bool.false_and, Bool.false_eq_true]
    rfl
  have hfold : names.foldl push (rooted []).bytes = (rooted names).bytes :=
    foldl_push_rooted (by simp) h
  unfold absolute?
  rw [hbase, Option.map_some, names_rooted h, hfold]
  by_cases hnames : names = []
  · subst hnames
    rfl
  · have hlast : (rooted names).endsInSeparator = false := by
      simpa [endsInSeparator] using fun hlast => hnames ((getLast?_rooted_eq_iff h).1 hlast)
    simp [hlast]

theorem IsNormal.absolute?_eq {p : Path} (h : p.IsNormal) (workingDirectory : Option Path) :
    p.absolute? workingDirectory = some p := by
  obtain ⟨names, hnames, rfl⟩ := h
  exact absolute?_rooted hnames workingDirectory

/-! ## Texts of paths -/

/-- A text that is neither empty nor a dot names something. -/
theorem isBlank_encode {name : String} (hne : name ≠ "") (hdot : name ≠ ".") :
    isBlank (Utf8.encode name) = false := by
  have hempty : Utf8.encode name ≠ [] := by
    intro h
    exact hne (Utf8.encode_injective (t := "") h)
  have honedot : Utf8.encode name ≠ dot := by
    intro h
    exact hdot (Utf8.encode_injective (t := ".") h)
  simp [isBlank, hempty, honedot]

theorem separator_not_mem_encode {name : String} (h : '/' ∉ name.toList) :
    separator ∉ Utf8.encode name := by
  intro hmem
  have hcode : separator = Utf8.code '/' := by decide
  rw [hcode, Utf8.code_mem_encode_iff (by decide)] at hmem
  exact h hmem

theorem encode_slash : Utf8.encode "/" = [separator] := rfl

theorem eq_root_iff (h : ∀ name ∈ names, IsEntryName name) {directory : String}
    (hdirectory : ofString directory = rooted names) : directory = "/" ↔ names = [] := by
  constructor
  · rintro rfl
    rw [← getLast?_rooted_eq_iff h, ← hdirectory, ofString, encode_slash]
    rfl
  · rintro rfl
    apply Utf8.encode_injective
    rw [encode_slash]
    exact congrArg bytes hdirectory

/-- A name put into a directory in normal form is one more name at the end. -/
theorem ofString_inside (h : ∀ name ∈ names, IsEntryName name) {directory : String}
    (hdirectory : ofString directory = rooted names) (name : String) :
    ofString (inside directory name) = rooted (names ++ [Utf8.encode name]) := by
  have hbytes : Utf8.encode directory = separator :: [separator].intercalate names :=
    congrArg bytes hdirectory
  unfold inside
  by_cases hnames : names = []
  · rw [if_pos ((eq_root_iff h hdirectory).2 hnames), hnames, ofString, Utf8.encode_append,
      encode_slash, List.nil_append, rooted_singleton]
    rfl
  · rw [if_neg (fun heq => hnames ((eq_root_iff h hdirectory).1 heq)), ofString,
      Utf8.encode_append, Utf8.encode_append, hbytes, encode_slash]
    simp [rooted, intercalate_concat hnames]

theorem isNormal_inside {directory name : String} (h : (ofString directory).IsNormal)
    (hname : IsEntryName (Utf8.encode name)) : (ofString (inside directory name)).IsNormal := by
  obtain ⟨names, hnames, hdirectory⟩ := h
  exact ⟨names ++ [Utf8.encode name],
    List.forall_mem_append.2 ⟨hnames, List.forall_mem_singleton.2 hname⟩,
    ofString_inside hnames hdirectory name⟩

end NativeBootstrap.Path
