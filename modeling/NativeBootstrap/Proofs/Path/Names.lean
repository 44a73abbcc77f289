import Mathlib.Algebra.GroupWithZero.Nat
import NativeBootstrap.FileSystem.Basic
import NativeBootstrap.Path.Join
import NativeBootstrap.Proofs.Path.Normal

/-!
# The names of a path in any form

A path may hold empty names, dots and separators at its end. What its lookup goes through are its
names; this module says what the lexical operations do to them.

* Bytes are cut into pieces at each separator (`List.splitOn`), so pushing names on a path adds these
  names at the end (`FileSystem.names_foldl_push`).
* The parent of a path from the root has all names but the last (`exists_parent?_of_names`).
* The absolute form of a path is its names pushed on its base, and maybe a separator
  (`exists_of_absolute?`).
* Joining with a single `/` is pushing (`encode_joinWith_slash`).

Each operation makes no bytes of its own but separators, and keeps text text.
-/

set_option autoImplicit false

namespace NativeBootstrap

/-- Whether bytes are those of a text. -/
def Utf8.IsText (bytes : Bytes) : Prop := ∃ text, bytes = Utf8.encode text

namespace Path

/-! ## Pieces -/

/-- Bytes hold no separator, or a name before their first one. -/
theorem bytes_induction {motive : Bytes → Prop} (last : ∀ name, separator ∉ name → motive name)
    (name : ∀ name rest, separator ∉ name → motive rest → motive (name ++ separator :: rest))
    (bytes : Bytes) : motive bytes := by
  by_cases hmem : separator ∈ bytes
  -- The cut is at the first separator, so that none stands in the name before it.
  · obtain ⟨front, rest, hcut, hfront⟩ := List.eq_append_cons_of_mem hmem
    subst hcut
    exact name front rest hfront (bytes_induction last name rest)
  · exact last bytes hmem
termination_by bytes.length
decreasing_by
  subst hcut
  simp only [List.length_append, List.length_cons]
  omega

theorem splitOn_separator_cons (rest : Bytes) :
    (separator :: rest).splitOn separator = [] :: rest.splitOn separator :=
  List.splitOn_append_cons_self_of_not_mem List.not_mem_nil rest

theorem separator_not_mem_of_mem_splitOn {bytes : Bytes} {piece : Name}
    (h : piece ∈ bytes.splitOn separator) : separator ∉ piece := by
  induction bytes using bytes_induction with
  | last name hname =>
      rw [List.splitOn_eq_singleton hname, List.mem_singleton] at h
      exact h ▸ hname
  | name name rest hname ih =>
      rw [List.splitOn_append_cons_self_of_not_mem hname, List.mem_cons] at h
      rcases h with rfl | h
      · exact hname
      · exact ih h

theorem mem_of_mem_splitOn {bytes : Bytes} {piece : Name} {byte : UInt8}
    (h : piece ∈ bytes.splitOn separator) (hbyte : byte ∈ piece) : byte ∈ bytes := by
  induction bytes using bytes_induction with
  | last name hname =>
      rw [List.splitOn_eq_singleton hname, List.mem_singleton] at h
      exact h ▸ hbyte
  | name name rest hname ih =>
      rw [List.splitOn_append_cons_self_of_not_mem hname, List.mem_cons] at h
      rcases h with rfl | h
      · exact List.mem_append_left _ hbyte
      · exact List.mem_append_right _ (List.mem_cons_of_mem _ (ih h))

/-- Each piece takes its own bytes and a separator, which the last one lacks. -/
theorem sum_length_filter_splitOn_le (keep : Name → Bool) (bytes : Bytes) :
    (((bytes.splitOn separator).filter keep).map fun piece => piece.length + 1).sum ≤
      bytes.length + 1 := by
  induction bytes using bytes_induction with
  | last name hname =>
      rw [List.splitOn_eq_singleton hname, List.filter_cons, List.filter_nil]
      split <;> simp
  | name name rest hname ih =>
      rw [List.splitOn_append_cons_self_of_not_mem hname, List.filter_cons, List.length_append,
        List.length_cons]
      split
      · rw [List.map_cons, List.sum_cons]
        omega
      · omega

theorem isText_of_mem_splitOn {bytes : Bytes} {piece : Name} (htext : Utf8.IsText bytes)
    (h : piece ∈ bytes.splitOn separator) : Utf8.IsText piece := by
  induction bytes using bytes_induction with
  | last name hname =>
      rw [List.splitOn_eq_singleton hname, List.mem_singleton] at h
      exact h ▸ htext
  | name name rest hname ih =>
      obtain ⟨text, hcut⟩ := htext
      obtain ⟨before, after, -, hbefore, hafter⟩ :=
        Utf8.exists_of_encode_eq_append_cons (c := '/') (by decide) hcut.symm
      rw [List.splitOn_append_cons_self_of_not_mem hname, List.mem_cons] at h
      rcases h with rfl | h
      · exact ⟨_, hbefore.symm⟩
      · exact ih ⟨_, hafter.symm⟩ h

theorem mem_of_mem_intercalate {pieces : List Name} {byte : UInt8}
    (h : byte ∈ [separator].intercalate pieces) :
    byte = separator ∨ ∃ piece ∈ pieces, byte ∈ piece := by
  induction pieces with
  | nil => cases h
  | cons piece more ih =>
      cases more with
      | nil =>
          rw [List.intercalate_singleton] at h
          exact Or.inr ⟨piece, List.mem_cons_self, h⟩
      | cons next more =>
          rw [List.intercalate_cons_cons, List.mem_append, List.mem_append, List.mem_singleton] at h
          rcases h with (h | h) | h
          · exact Or.inr ⟨piece, List.mem_cons_self, h⟩
          · exact Or.inl h
          · rcases ih h with rfl | ⟨other, hother, hbyte⟩
            · exact Or.inl rfl
            · exact Or.inr ⟨other, List.mem_cons_of_mem _ hother, hbyte⟩

/-! ## Pushing names -/

theorem filter_splitOn_push {name : Name} (hname : separator ∉ name) (bytes : Bytes) :
    ((push bytes name).splitOn separator).filter (· != []) =
      (bytes.splitOn separator).filter (· != []) ++ [name].filter (· != []) := by
  unfold push
  split
  -- Behind a separator at the end there is an empty piece, whose place the name takes.
  · rename_i hlast
    obtain ⟨front, rfl⟩ := List.getLast?_eq_some_iff.1 hlast
    rw [List.append_assoc, List.singleton_append, List.splitOn_append_cons_self,
      List.splitOn_append_cons_self, List.splitOn_eq_singleton hname, List.filter_append,
      List.filter_append]
    simp
  · rw [List.splitOn_append_cons_self, List.splitOn_eq_singleton hname, List.filter_append]

/-- Names that are pushed on a path are the last that its lookup goes through. -/
theorem names_foldl_push {names : List Name} (h : ∀ name ∈ names, separator ∉ name)
    (bytes : Bytes) :
    FileSystem.names ⟨names.foldl push bytes⟩ =
      FileSystem.names ⟨bytes⟩ ++ names.filter (· != []) := by
  induction names generalizing bytes with
  | nil => simp
  | cons name names ih =>
      obtain ⟨hname, hnames⟩ := List.forall_mem_cons.1 h
      have hpush : FileSystem.names ⟨push bytes name⟩ =
          FileSystem.names ⟨bytes⟩ ++ [name].filter (· != []) := filter_splitOn_push hname bytes
      rw [List.foldl_cons, ih hnames, hpush, List.append_assoc, ← List.filter_append,
        List.singleton_append]

theorem endsInSeparator_push {name : Name} (hne : name ≠ []) (hname : separator ∉ name)
    (bytes : Bytes) : (Path.mk (push bytes name)).endsInSeparator = false := by
  have hlast : (push bytes name).getLast? = some (name.getLast hne) := by
    unfold push
    split
    · rw [List.getLast?_append, List.getLast?_eq_some_getLast hne, Option.some_or]
    · rw [List.getLast?_append, List.getLast?_cons, List.getLast?_eq_some_getLast hne]
      rfl
  have hbyte : name.getLast hne ≠ separator := fun h => hname (h ▸ List.getLast_mem hne)
  simpa [endsInSeparator, hlast] using hbyte

theorem length_foldl_push_le (bytes : Bytes) (names : List Name) :
    (names.foldl push bytes).length ≤
      bytes.length + (names.map fun name => name.length + 1).sum := by
  induction names generalizing bytes with
  | nil => simp
  | cons name names ih =>
      have hpush : (push bytes name).length ≤ bytes.length + (name.length + 1) := by
        unfold push
        split <;> simp only [List.length_append, List.length_cons] <;> omega
      have hrest := ih (push bytes name)
      rw [List.foldl_cons, List.map_cons, List.sum_cons]
      omega

theorem mem_of_mem_foldl_push {bytes : Bytes} {names : List Name} {byte : UInt8}
    (h : byte ∈ names.foldl push bytes) :
    byte = separator ∨ byte ∈ bytes ∨ ∃ name ∈ names, byte ∈ name := by
  induction names generalizing bytes with
  | nil => exact Or.inr (Or.inl h)
  | cons name names ih =>
      have hpush : byte ∈ push bytes name → byte = separator ∨ byte ∈ bytes ∨ byte ∈ name := by
        unfold push
        split <;> simp only [List.mem_append, List.mem_cons]
        · exact Or.inr
        · rintro (hbytes | hseparator | hname)
          · exact Or.inr (Or.inl hbytes)
          · exact Or.inl hseparator
          · exact Or.inr (Or.inr hname)
      rcases ih h with h | h | ⟨other, hother, h⟩
      · exact Or.inl h
      · refine (hpush h).imp_right (Or.imp_right fun h => ?_)
        exact ⟨name, List.mem_cons_self, h⟩
      · exact Or.inr (Or.inr ⟨other, List.mem_cons_of_mem _ hother, h⟩)

theorem isText_foldl_push {bytes : Bytes} {names : List Name} (hbytes : Utf8.IsText bytes)
    (hnames : ∀ name ∈ names, Utf8.IsText name) : Utf8.IsText (names.foldl push bytes) := by
  induction names generalizing bytes with
  | nil => exact hbytes
  | cons name names ih =>
      obtain ⟨⟨text, rfl⟩, hrest⟩ := List.forall_mem_cons.1 hnames
      obtain ⟨front, rfl⟩ := hbytes
      refine ih ?_ hrest
      unfold push
      split
      · exact ⟨front ++ text, (Utf8.encode_append ..).symm⟩
      · exact ⟨front ++ ("/" ++ text), by simp [encode_slash]⟩

/-! ## Names written from the root -/

/-- Whether bytes are names from the root on: one or two separators, the names, and maybe a separator
at the end. -/
def FromRoot (names : List Name) (bytes : Bytes) : Prop :=
  ∃ (base : Bytes) (ending : List Name), (base = [separator] ∨ base = [separator, separator]) ∧
    (ending = [] ∨ ending = [[]]) ∧ bytes = (names ++ ending).foldl push base

theorem eq_nil_of_mem_ending {ending : List Name} (h : ending = [] ∨ ending = [[]]) {name : Name}
    (hname : name ∈ ending) : name = [] := by
  rcases h with rfl | rfl
  · cases hname
  · exact List.mem_singleton.1 hname

namespace FromRoot

variable {names : List Name} {bytes : Bytes}

theorem mem (h : FromRoot names bytes) {byte : UInt8} (hbyte : byte ∈ bytes) :
    byte = separator ∨ ∃ name ∈ names, byte ∈ name := by
  obtain ⟨base, ending, hbase, hending, rfl⟩ := h
  rcases mem_of_mem_foldl_push hbyte with hbyte | hbyte | ⟨name, hname, hbyte⟩
  · exact Or.inl hbyte
  · rcases hbase with rfl | rfl <;> exact Or.inl (by simpa using hbyte)
  · rcases List.mem_append.1 hname with hname | hname
    · exact Or.inr ⟨name, hname, hbyte⟩
    · rw [eq_nil_of_mem_ending hending hname] at hbyte
      cases hbyte

theorem isText (h : FromRoot names bytes) (hnames : ∀ name ∈ names, Utf8.IsText name) :
    Utf8.IsText bytes := by
  obtain ⟨base, ending, hbase, hending, rfl⟩ := h
  refine isText_foldl_push ?_ (List.forall_mem_append.2 ⟨hnames, ?_⟩)
  · rcases hbase with rfl | rfl
    · exact ⟨"/", rfl⟩
    · exact ⟨"//", rfl⟩
  · intro name hname
    exact ⟨"", eq_nil_of_mem_ending hending hname⟩

theorem length_le (h : FromRoot names bytes) :
    bytes.length ≤ (names.map fun name => name.length + 1).sum + 3 := by
  obtain ⟨base, ending, hbase, hending, rfl⟩ := h
  have hlength := length_foldl_push_le base (names ++ ending)
  rw [List.map_append, List.sum_append] at hlength
  have hbaseLength : base.length ≤ 2 := by
    rcases hbase with rfl | rfl <;> simp
  have hendingLength : (ending.map fun name => name.length + 1).sum ≤ 1 := by
    rcases hending with rfl | rfl <;> simp
  omega

/-- A lookup of such bytes, with more names pushed on them, goes through all of the names. -/
theorem names_foldl_push (h : FromRoot names bytes) {more : List Name}
    (hnames : ∀ name ∈ names ++ more, name ≠ [] ∧ separator ∉ name) :
    FileSystem.names ⟨more.foldl push bytes⟩ = names ++ more := by
  obtain ⟨base, ending, hbase, hending, rfl⟩ := h
  have hbaseNames : FileSystem.names ⟨base⟩ = [] := by
    rcases hbase with rfl | rfl <;> decide
  have hendingNames : ending.filter (· != []) = [] := by
    rcases hending with rfl | rfl <;> decide
  have hkept : ∀ kept : List Name, (∀ name ∈ kept, name ∈ names ++ more) →
      kept.filter (· != []) = kept := by
    intro kept hmem
    rw [List.filter_eq_self]
    intro name hname
    simpa using (hnames name (hmem name hname)).1
  rw [← List.foldl_append, Path.names_foldl_push, hbaseNames, List.nil_append, List.filter_append,
    List.filter_append, hendingNames, List.append_nil, hkept names (by simp +contextual),
    hkept more (by simp +contextual)]
  intro name hname
  rcases List.mem_append.1 hname with hname | hname
  · rcases List.mem_append.1 hname with hname | hname
    · exact (hnames name (List.mem_append_left _ hname)).2
    · rw [eq_nil_of_mem_ending hending hname]
      exact List.not_mem_nil
  · exact (hnames name (List.mem_append_right _ hname)).2

end FromRoot

/-! ## Names from the root -/

variable {p : Path}

/-- A path is its start, and what follows that. -/
theorem start_bytes_append_body (p : Path) : p.start.bytes ++ p.body = p.bytes := by
  obtain ⟨bytes⟩ := p
  unfold body start
  split
  · rfl
  · rename_i byte rest hbytes
    obtain rfl : bytes = byte :: rest := hbytes
    split
    · rename_i hbyte
      subst hbyte
      rfl
    · split
      · rename_i hdot
        have hbyte : [byte] = dot := by simpa using (Bool.and_eq_true_iff.1 hdot).1
        rw [Start.bytes, ← hbyte]
        rfl
      · rfl

theorem bytes_of_start_root (h : p.start = .root) : p.bytes = separator :: p.body := by
  rw [← start_bytes_append_body, h]
  rfl

theorem start_eq_root_iff : p.start = .root ↔ p.isAbsolute = true := by
  constructor
  · intro h
    simp [isAbsolute, bytes_of_start_root h]
  · intro h
    obtain ⟨bytes⟩ := p
    cases bytes with
    | nil => cases h
    | cons byte rest =>
        have hbyte : byte = separator := by simpa [isAbsolute] using h
        simp [start, hbyte]

/-- The names of a path from the root are those its lookup goes through, without dots. -/
theorem names_eq_filter (h : p.start = .root) :
    p.names = (FileSystem.names p).filter (· != dot) := by
  unfold names FileSystem.names
  rw [bytes_of_start_root h, splitOn_separator_cons, List.filter_cons_of_neg (by simp),
    List.filter_filter]
  congr 1
  funext piece
  have hblank : isBlank piece = (piece == [] || piece == dot) := rfl
  rw [hblank, Bool.not_or, Bool.and_comm]
  rfl

theorem mem_bytes_of_mem_names {name : Name} {byte : UInt8} (h : name ∈ p.names)
    (hbyte : byte ∈ name) : byte ∈ p.bytes :=
  List.mem_of_mem_drop (mem_of_mem_splitOn (List.mem_filter.1 h).1 hbyte)

theorem mem_splitOn_of_mem_names (hroot : p.start = .root) {name : Name} (h : name ∈ p.names) :
    name ∈ p.bytes.splitOn separator := by
  rw [names_eq_filter hroot] at h
  exact (List.mem_filter.1 (List.mem_filter.1 h).1).1

theorem valid_of_mem_names (hroot : p.start = .root) {name : Name} (h : name ∈ p.names) :
    name ≠ [] ∧ separator ∉ name := by
  rw [names_eq_filter hroot] at h
  obtain ⟨hpiece, hne⟩ := List.mem_filter.1 (List.mem_filter.1 h).1
  exact ⟨by simpa using hne, separator_not_mem_of_mem_splitOn hpiece⟩

/-- Each name of a path from the root stands behind a separator of its own. -/
theorem sum_length_names_le (hroot : p.start = .root) :
    (p.names.map fun name => name.length + 1).sum ≤ p.bytes.length := by
  rw [bytes_of_start_root hroot, List.length_cons]
  exact sum_length_filter_splitOn_le _ p.body

/-! ## Parent and absolute form -/

theorem filter_dropWhile_isBlank (pieces : List Name) :
    (pieces.dropWhile isBlank).filter (fun piece => !isBlank piece) =
      pieces.filter fun piece => !isBlank piece := by
  induction pieces with
  | nil => rfl
  | cons piece pieces ih =>
      cases hblank : isBlank piece with
      | true => rw [List.dropWhile_cons_of_pos hblank, ih, List.filter_cons_of_neg (by simp [hblank])]
      | false => rw [List.dropWhile_cons_of_neg (by simp [hblank])]

theorem not_isBlank_of_dropWhile_eq_cons {pieces rest : List Name} {name : Name}
    (h : pieces.dropWhile isBlank = name :: rest) : isBlank name = false := by
  have hhead := List.head_dropWhile_not isBlank (l := pieces) (by simp [h])
  simpa only [h, List.head_cons] using hhead

theorem mem_of_mem_dropWhile_isBlank {pieces before : List Name} {name piece : Name}
    (hdrop : pieces.reverse.dropWhile isBlank = name :: before)
    (h : piece ∈ (before.dropWhile isBlank).reverse) : piece ∈ pieces := by
  have hbefore : piece ∈ before :=
    (List.dropWhile_suffix isBlank).subset (List.mem_reverse.1 h)
  have hreverse : piece ∈ pieces.reverse :=
    (List.dropWhile_suffix isBlank).subset (hdrop ▸ List.mem_cons_of_mem _ hbefore)
  exact List.mem_reverse.1 hreverse

/-- The parent of a path from the root has all of its names but the last. -/
theorem exists_parent?_of_names {front : List Name} {last : Name} (hroot : p.start = .root)
    (h : p.names = front ++ [last]) :
    ∃ parent, p.parent? = some parent ∧ parent.start = .root ∧ parent.names = front := by
  -- Only blank pieces are dropped at the end, so that the names from the last one backwards are left.
  have hnames : ((p.body.splitOn separator).reverse.dropWhile isBlank).filter
      (fun piece => !isBlank piece) = last :: front.reverse := by
    have hfilter : (p.body.splitOn separator).filter (fun piece => !isBlank piece) =
        front ++ [last] := h
    rw [filter_dropWhile_isBlank, List.filter_reverse, hfilter, List.reverse_append]
    rfl
  unfold parent?
  cases hdrop : (p.body.splitOn separator).reverse.dropWhile isBlank with
  | nil =>
      rw [hdrop] at hnames
      cases hnames
  | cons name before =>
      have hname := not_isBlank_of_dropWhile_eq_cons hdrop
      rw [hdrop, List.filter_cons_of_pos (by simp [hname])] at hnames
      have hpieces : ∀ piece ∈ (before.dropWhile isBlank).reverse, separator ∉ piece := by
        intro piece hpiece
        exact separator_not_mem_of_mem_splitOn (mem_of_mem_dropWhile_isBlank hdrop hpiece)
      rw [hroot]
      refine ⟨rooted (before.dropWhile isBlank).reverse, rfl, rfl, ?_⟩
      rw [names_rooted_eq_filter hpieces, List.filter_reverse, filter_dropWhile_isBlank,
        (List.cons.inj hnames).2, List.reverse_reverse]

theorem mem_of_mem_parent? {parent : Path} {byte : UInt8} (h : p.parent? = some parent)
    (hbyte : byte ∈ parent.bytes) : byte = separator ∨ byte ∈ p.bytes := by
  unfold parent? at h
  split at h
  · split at h
    · cases h
      cases hbyte
    · cases h
  · rename_i before hdrop
    cases h
    rw [← start_bytes_append_body p]
    rcases List.mem_append.1 hbyte with hbyte | hbyte
    · exact Or.inr (List.mem_append_left _ hbyte)
    · refine (mem_of_mem_intercalate hbyte).imp_right fun ⟨piece, hpiece, hbyte⟩ => ?_
      have hmem : piece ∈ p.body.splitOn separator := mem_of_mem_dropWhile_isBlank hdrop hpiece
      exact List.mem_append_right _ (mem_of_mem_splitOn hmem hbyte)

/-- An absolute form is names pushed on a base, with an empty one at the end for a separator there. -/
theorem exists_of_absolute? {workingDirectory : Option Path} {absolute : Path}
    (h : p.absolute? workingDirectory = some absolute) :
    ∃ base ending, p.base? workingDirectory = some base ∧ (ending = [] ∨ ending = [[]]) ∧
      absolute.bytes = (p.names ++ ending).foldl push base := by
  obtain ⟨base, hbase, rfl⟩ := Option.map_eq_some_iff.1 h
  cases hends : p.endsInSeparator with
  | true => exact ⟨base, [[]], hbase, Or.inr rfl, by simp [List.foldl_append]⟩
  | false => exact ⟨base, [], hbase, Or.inl rfl, by simp⟩

/-- A path from the root has an absolute form, written from its names. -/
theorem exists_absolute?_of_start_root (hroot : p.start = .root) (workingDirectory : Option Path) :
    ∃ absolute, p.absolute? workingDirectory = some absolute ∧ FromRoot p.names absolute.bytes := by
  obtain ⟨base, hbase, hseparators⟩ : ∃ base, p.base? workingDirectory = some base ∧
      (base = [separator] ∨ base = [separator, separator]) := by
    unfold base?
    rw [if_pos hroot]
    split
    · exact ⟨_, rfl, Or.inr rfl⟩
    · exact ⟨_, rfl, Or.inl rfl⟩
  obtain ⟨absolute, habsolute⟩ : ∃ absolute, p.absolute? workingDirectory = some absolute := by
    unfold absolute?
    rw [hbase]
    exact ⟨_, rfl⟩
  obtain ⟨base', ending, hbase', hending, hbytes⟩ := exists_of_absolute? habsolute
  obtain rfl := Option.some.inj (hbase.symm.trans hbase')
  exact ⟨absolute, habsolute, base, ending, hseparators, hending, hbytes⟩

theorem mem_of_mem_absolute? {workingDirectory : Option Path} {absolute : Path} {byte : UInt8}
    (h : p.absolute? workingDirectory = some absolute) (hbyte : byte ∈ absolute.bytes) :
    byte = separator ∨ byte ∈ p.bytes ∨
      ∃ directory, workingDirectory = some directory ∧ byte ∈ directory.bytes := by
  obtain ⟨base, ending, hbase, hending, hbytes⟩ := exists_of_absolute? h
  rcases mem_of_mem_foldl_push (hbytes ▸ hbyte) with hbyte | hbyte | ⟨name, hname, hbyte⟩
  · exact Or.inl hbyte
  · unfold base? at hbase
    split at hbase
    · split at hbase <;> cases hbase <;> exact Or.inl (by simpa using hbyte)
    · obtain ⟨directory, rfl, rfl⟩ := Option.map_eq_some_iff.1 hbase
      exact Or.inr (Or.inr ⟨directory, rfl, hbyte⟩)
  · rcases List.mem_append.1 hname with hname | hname
    · exact Or.inr (Or.inl (mem_bytes_of_mem_names hname hbyte))
    · rw [eq_nil_of_mem_ending hending hname] at hbyte
      cases hbyte

/-! ## Joining with a separator -/

theorem endsWith_slash_iff_getLast? {text : String} :
    endsWith text "/" = true ↔ (Utf8.encode text).getLast? = some separator := by
  constructor
  · intro hends
    obtain ⟨front, hfront⟩ := List.isSuffixOf_iff_suffix.1 hends
    have htext : text = String.ofList front ++ "/" := by
      rw [← String.ofList_toList (s := text), ← hfront, String.ofList_append, String.ofList_toList]
    rw [htext, Utf8.encode_append, encode_slash]
    simp
  · intro hlast
    obtain ⟨front, hfront⟩ := List.getLast?_eq_some_iff.1 hlast
    obtain ⟨before, after, htext, -, hafter⟩ :=
      Utf8.exists_of_encode_eq_append_cons (c := '/') (by decide) hfront
    have hempty : String.ofList after = "" := Utf8.encode_injective hafter
    have hnil : after = [] := String.ofList_inj.1 hempty
    exact List.isSuffixOf_iff_suffix.2 ⟨before, by rw [htext, hnil]; rfl⟩

/-- Joining names with a single `/` pushes them. -/
theorem encode_joinWith_slash {segments : List String}
    (h : ∀ segment ∈ segments, isSkipped "/" segment = false) (base : String) :
    Utf8.encode (joinWith "/" base segments) =
      (segments.map Utf8.encode).foldl push (Utf8.encode base) := by
  unfold joinWith
  induction segments generalizing base with
  | nil => rfl
  | cons segment segments ih =>
      obtain ⟨hsegment, hsegments⟩ := List.forall_mem_cons.1 h
      have hextend : Utf8.encode (extend "/" base segment) =
          push (Utf8.encode base) (Utf8.encode segment) := by
        unfold extend push
        rw [hsegment, if_neg Bool.false_ne_true]
        by_cases hends : endsWith base "/" = true
        · rw [if_pos hends, if_pos (endsWith_slash_iff_getLast?.1 hends), Utf8.encode_append]
        · rw [if_neg hends, if_neg (mt endsWith_slash_iff_getLast?.2 hends), Utf8.encode_append,
            Utf8.encode_append, encode_slash, List.append_assoc]
          rfl
      rw [List.foldl_cons, ih hsegments, hextend, List.map_cons, List.foldl_cons]

end Path

end NativeBootstrap
