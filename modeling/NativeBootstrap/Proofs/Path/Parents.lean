import NativeBootstrap.Proofs.Path.Names

/-!
# Parents and absolute forms of any path

`Proofs/Path/Names` follows the names of a path from the root. Here the path may also be relative, and
begin with a dot or not. What it has in common with a path from the root is that its names are the
pieces of its bytes that are not blank, wherever it starts (`names_eq_filter_splitOn`).

A parent that is not empty is the path up to a separator behind which only the last name is left, or
the start of the path alone (`exists_cut_of_parent?`). Hence it has all names but the last
(`exists_names_eq_concat_of_parent?`), it is absolute if the path is (`isAbsolute_parent?`), and it
ends in no separator unless it is the root (`eq_root_of_endsInSeparator_parent?`). The absolute form
of a path without a separator at its end is its names pushed on where it starts
(`absolute?_of_relative`, `absolute?_of_isAbsolute`).
-/

set_option autoImplicit false

namespace NativeBootstrap.Path

/-! ## Names -/

variable {p parent : Path}

/-- Behind a dot that a path starts with there is a separator, or nothing. -/
theorem body_of_start_here (h : p.start = .here) :
    p.body = [] ∨ ∃ rest, p.body = separator :: rest := by
  obtain ⟨bytes⟩ := p
  cases bytes with
  | nil => cases h
  | cons byte rest =>
      have hbody : Path.body ⟨byte :: rest⟩ = rest := by
        unfold body
        rw [h]
        rfl
      rw [hbody]
      unfold start at h
      split at h
      · cases h
      · rename_i first more hbytes
        obtain ⟨rfl, rfl⟩ := List.cons.inj hbytes
        split at h
        · cases h
        · split at h
          · rename_i hdot
            simp only [Bool.and_eq_true, Bool.or_eq_true, beq_iff_eq] at hdot
            rcases hdot.2 with hnil | hhead
            · exact Or.inl hnil
            · obtain ⟨more, rfl⟩ := List.head?_eq_some_iff.1 hhead
              exact Or.inr ⟨more, rfl⟩
          · cases h

/-- The names of a path are the pieces of its bytes that are not blank. The start adds only a blank
piece to those of the body, or takes the place of one. -/
theorem names_eq_filter_splitOn (p : Path) :
    p.names = (p.bytes.splitOn separator).filter fun piece => !isBlank piece := by
  unfold names
  rw [← start_bytes_append_body p]
  cases hstart : p.start with
  | root => simp [Start.bytes, splitOn_separator_cons, isBlank]
  | name => rfl
  | here =>
      rcases body_of_start_here hstart with hbody | ⟨rest, hbody⟩
      · rw [hbody]
        rfl
      · have hdot : separator ∉ dot := by decide
        rw [hbody, Start.bytes, List.splitOn_append_cons_self_of_not_mem hdot]
        simp [splitOn_separator_cons, isBlank]

/-- What a separator stands between has the names of both sides. -/
theorem names_of_bytes_eq {front back : Path}
    (h : p.bytes = front.bytes ++ separator :: back.bytes) : p.names = front.names ++ back.names := by
  rw [names_eq_filter_splitOn p, names_eq_filter_splitOn front, names_eq_filter_splitOn back, h,
    List.splitOn_append_cons_self, List.filter_append]

/-! ## Parents -/

/-- A parent that is not empty is the start of the path with the pieces of its body up to the name
before the last one. Behind them there are only blank pieces and the last name. -/
theorem exists_cut_of_parent? (h : p.parent? = some parent) (hne : parent.bytes ≠ []) :
    ∃ (kept behind : List Name) (last : Name), p.body.splitOn separator = kept ++ behind ∧
      (behind.filter fun piece => !isBlank piece) = [last] ∧
      (∀ name, kept.getLast? = some name → isBlank name = false) ∧
      parent.bytes = p.start.bytes ++ [separator].intercalate kept := by
  unfold parent? at h
  split at h
  · split at h
    · cases h
      exact absurd rfl hne
    · cases h
  · rename_i last before hdrop
    cases h
    have hlast := not_isBlank_of_dropWhile_eq_cons hdrop
    -- The pieces read backwards are blank ones, the last name, blank ones again, and the rest.
    have hcut : (p.body.splitOn separator).reverse =
        (p.body.splitOn separator).reverse.takeWhile isBlank ++
          last :: (before.takeWhile isBlank ++ before.dropWhile isBlank) := by
      rw [List.takeWhile_append_dropWhile, ← hdrop, List.takeWhile_append_dropWhile]
    have hblank : ∀ pieces : List Name,
        (pieces.takeWhile isBlank).reverse.filter (fun piece => !isBlank piece) = [] := by
      intro pieces
      apply List.filter_eq_nil_iff.2
      intro piece hpiece
      have htrue := List.all_eq_true.1 List.all_takeWhile piece (List.mem_reverse.1 hpiece)
      simp [htrue]
    refine ⟨(before.dropWhile isBlank).reverse,
      (before.takeWhile isBlank).reverse ++ last ::
        ((p.body.splitOn separator).reverse.takeWhile isBlank).reverse, last, ?_, ?_, ?_, rfl⟩
    · have hpieces := congrArg List.reverse hcut
      rw [List.reverse_reverse] at hpieces
      refine hpieces.trans ?_
      simp only [List.reverse_append, List.reverse_cons, List.append_assoc, List.cons_append,
        List.nil_append]
    · rw [List.filter_append, hblank, List.filter_cons, hlast, hblank]
      rfl
    · intro name hname
      rw [List.getLast?_reverse] at hname
      obtain ⟨rest, hrest⟩ := List.head?_eq_some_iff.1 hname
      exact not_isBlank_of_dropWhile_eq_cons hrest

/-- A parent that is not empty has all names of the path but the last. -/
theorem exists_names_eq_concat_of_parent? (h : p.parent? = some parent) (hne : parent.bytes ≠ []) :
    ∃ last, p.names = parent.names ++ [last] := by
  obtain ⟨kept, behind, last, hpieces, hbehind, -, hbytes⟩ := exists_cut_of_parent? h hne
  refine ⟨last, ?_⟩
  by_cases hkept : kept = []
  · -- Only the start is left, which has no names.
    subst hkept
    have hparent : parent.names = [] := by
      rw [names_eq_filter_splitOn, hbytes]
      cases p.start <;> decide
    rw [hparent, List.nil_append, ← hbehind]
    unfold names
    rw [hpieces, List.nil_append]
  · have hne' : behind ≠ [] := by
      rintro rfl
      cases hbehind
    have hbody : p.body = [separator].intercalate (kept ++ behind) := by
      rw [← hpieces, List.intercalate_splitOn]
    have hcut : p.bytes =
        parent.bytes ++ separator :: (Path.mk ([separator].intercalate behind)).bytes := by
      rw [← start_bytes_append_body p, hbody, intercalate_append hkept hne', hbytes,
        List.append_assoc]
    have hclean : ∀ piece ∈ behind, separator ∉ piece := by
      intro piece hpiece
      apply separator_not_mem_of_mem_splitOn
      rw [hpieces]
      exact List.mem_append_right _ hpiece
    rw [names_of_bytes_eq hcut, names_eq_filter_splitOn ⟨[separator].intercalate behind⟩,
      List.splitOn_intercalate separator hclean hne', hbehind]

/-- A parent is what a path begins with. -/
theorem isPrefix_parent? (h : p.parent? = some parent) (hne : parent.bytes ≠ []) :
    parent.bytes <+: p.bytes := by
  obtain ⟨kept, behind, last, hpieces, hbehind, -, hbytes⟩ := exists_cut_of_parent? h hne
  have hwhole : p.body = [separator].intercalate (kept ++ behind) := by
    rw [← hpieces, List.intercalate_splitOn]
  have hbody : [separator].intercalate kept <+: p.body := by
    rw [hwhole]
    by_cases hkept : kept = []
    · subst hkept
      exact List.nil_prefix
    · have hne' : behind ≠ [] := by
        rintro rfl
        cases hbehind
      rw [intercalate_append hkept hne']
      exact List.prefix_append _ _
  rw [hbytes, ← start_bytes_append_body p]
  exact (List.prefix_append_right_inj _).2 hbody

theorem isAbsolute_parent? (h : p.parent? = some parent) (hne : parent.bytes ≠ []) :
    parent.isAbsolute = p.isAbsolute := by
  obtain ⟨rest, hrest⟩ := isPrefix_parent? h hne
  obtain ⟨byte, more, hmore⟩ := List.exists_cons_of_ne_nil hne
  unfold isAbsolute
  rw [← hrest, hmore]
  rfl

/-- Of all parents only the root ends in a separator. -/
theorem eq_root_of_endsInSeparator_parent? (h : p.parent? = some parent) (hne : parent.bytes ≠ [])
    (hends : parent.endsInSeparator = true) : parent.bytes = [separator] := by
  obtain ⟨kept, behind, last, hpieces, -, hlast, hbytes⟩ := exists_cut_of_parent? h hne
  rcases List.eq_nil_or_concat kept with hkept | ⟨front, name, hconcat⟩
  · rw [hkept] at hbytes
    have hstart : parent.bytes = p.start.bytes := hbytes.trans (List.append_nil _)
    unfold endsInSeparator at hends
    rw [hstart] at hends hne ⊢
    cases hcase : p.start with
    | root => rfl
    | here =>
        rw [hcase] at hends
        exact absurd hends (by decide)
    | name =>
        rw [hcase] at hne
        exact absurd rfl hne
  · exfalso
    rw [List.concat_eq_append] at hconcat
    -- The last byte is that of a name, which is not empty and holds no separator.
    have hname : isBlank name = false := hlast name (by simp [hconcat])
    have hnonempty : name ≠ [] := by
      rintro rfl
      cases hname
    have hclean : separator ∉ name := by
      apply separator_not_mem_of_mem_splitOn
      rw [hpieces, hconcat]
      simp
    obtain ⟨before, hbefore⟩ : ∃ before, parent.bytes = before ++ name := by
      rw [hbytes, hconcat]
      by_cases hfront : front = []
      · subst hfront
        exact ⟨p.start.bytes, by rw [List.nil_append, List.intercalate_singleton]⟩
      · refine ⟨p.start.bytes ++ ([separator].intercalate front ++ [separator]), ?_⟩
        rw [intercalate_concat hfront]
        simp
    have hbyte : parent.bytes.getLast? = some separator := by
      simpa [endsInSeparator] using hends
    rw [hbefore, List.getLast?_append, List.getLast?_eq_some_getLast hnonempty, Option.some_or,
      Option.some.injEq] at hbyte
    exact hclean (hbyte ▸ List.getLast_mem hnonempty)

theorem endsInSeparator_parent?_of_relative (h : p.parent? = some parent) (hne : parent.bytes ≠ [])
    (hrelative : p.isAbsolute = false) : parent.endsInSeparator = false := by
  apply Bool.eq_false_iff.2
  intro hends
  rw [← isAbsolute_parent? h hne, isAbsolute, eq_root_of_endsInSeparator_parent? h hne hends]
    at hrelative
  cases hrelative

theorem endsInSeparator_parent?_of_names_ne_nil (h : p.parent? = some parent)
    (hnames : parent.names ≠ []) : parent.endsInSeparator = false := by
  have hne : parent.bytes ≠ [] := by
    intro hnil
    apply hnames
    rw [names_eq_filter_splitOn, hnil]
    rfl
  apply Bool.eq_false_iff.2
  intro hends
  apply hnames
  rw [names_eq_filter_splitOn, eq_root_of_endsInSeparator_parent? h hne hends]
  rfl

/-! ## Absolute forms -/

/-- The absolute form of a relative path is written behind the working directory. -/
theorem absolute?_of_relative (hrelative : p.isAbsolute = false) (hends : p.endsInSeparator = false)
    (directory : Path) :
    p.absolute? (some directory) = some ⟨p.names.foldl push directory.bytes⟩ := by
  have hstart : p.start ≠ .root := by
    intro hroot
    rw [start_eq_root_iff, hrelative] at hroot
    cases hroot
  unfold absolute? base?
  rw [if_neg hstart, hends]
  rfl

/-- The absolute form of a path from the root is written behind one separator, if there is no second
one at its front. The working directory plays no part. -/
theorem absolute?_of_isAbsolute (habsolute : p.isAbsolute = true)
    (hends : p.endsInSeparator = false) (hfront : p.body.head? ≠ some separator)
    (workingDirectory : Option Path) :
    p.absolute? workingDirectory = some ⟨p.names.foldl push [separator]⟩ := by
  unfold absolute? base?
  rw [if_pos (start_eq_root_iff.2 habsolute), hends]
  simp [hfront]

/-- No absolute form of a path from the root depends on the working directory. -/
theorem absolute?_congr (habsolute : p.isAbsolute = true) (workingDirectory other : Option Path) :
    p.absolute? workingDirectory = p.absolute? other := by
  unfold absolute? base?
  rw [if_pos (start_eq_root_iff.2 habsolute), if_pos (start_eq_root_iff.2 habsolute)]

end NativeBootstrap.Path
