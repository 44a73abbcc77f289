import NativeBootstrap.FileSystem.Basic

/-!
# Lookup where no link stands

In a file system without links a walk is one step after the other, and each step depends only on the
place it starts at (`walk_eq_foldlM`). So a walk can be cut anywhere, and dots can be left out of a
walk that ends somewhere (`foldlM_filter_dot`). A step to a name that is not the one of a parent goes
down, and the place above is then where it came from (`up_of_enter?`).

`leadsTo?` is lookup without its bound on the length of a path.
-/

set_option autoImplicit false

namespace NativeBootstrap.FileSystem

/-- Whether a node is a link. -/
def isLink : Node → Bool
  | .link _ => true
  | _ => false

/-- Whether no link stands anywhere. -/
def HasNoLinks (fs : FileSystem) : Prop := ∀ location target, fs.node? location ≠ some (.link target)

/-- The place that a path leads to, however long the path is. -/
def leadsTo? (fs : FileSystem) (directory : Place) (path : Path) : Option Place :=
  walk fs maxLinks (if path.isAbsolute then .root else directory) (steps path)

/-- One step of a walk that meets no link. -/
def enter? (fs : FileSystem) (p : Place) (name : Name) : Option Place :=
  if !fs.isDirectoryAt p then none
  else if name = Path.dot then some p
  else if name = Path.dotdot then some p.up
  else if p.removed != 0 || maxName < name.length then none
  else if (fs.node? (p.down name).location).isSome then some (p.down name)
  else none

variable {fs : FileSystem}

theorem hasNoLinks_of_nodes (h : ∀ entry ∈ fs.nodes, isLink entry.2 = false) : fs.HasNoLinks := by
  intro location target hnode
  unfold node? at hnode
  split at hnode
  · cases hnode
  · obtain ⟨front, back, hnodes, -⟩ := List.lookup_eq_some_iff.1 hnode
    have hlink : isLink (.link target) = false := h (location, .link target) (by simp [hnodes])
    cases hlink

theorem lookup?_of_canLookUp {path : Path} (h : canLookUp path = true) (directory : Place) :
    fs.lookup? directory path = fs.leadsTo? directory path := by
  unfold lookup? leadsTo?
  rw [if_pos h]

theorem leadsTo?_of_lookup? {directory place : Place} {path : Path}
    (h : fs.lookup? directory path = some place) : fs.leadsTo? directory path = some place := by
  unfold lookup? at h
  split at h
  · exact h
  · cases h

/-! ## Walks -/

theorem walkWith_eq_foldlM (hlinks : fs.HasNoLinks) (follow : Place → List Name → Option Place)
    (p : Place) (names : List Name) : walkWith fs follow p names = names.foldlM fs.enter? p := by
  induction names generalizing p with
  | nil => rfl
  | cons name rest ih =>
      rw [List.foldlM_cons, walkWith, enter?]
      cases hdirectory : fs.isDirectoryAt p with
      | false => rfl
      | true =>
        simp only [Bool.not_true, Bool.false_eq_true, if_false]
        by_cases hdot : name = Path.dot
        · rw [if_pos hdot, if_pos hdot]
          exact ih p
        rw [if_neg hdot, if_neg hdot]
        by_cases hdotdot : name = Path.dotdot
        · rw [if_pos hdotdot, if_pos hdotdot]
          exact ih p.up
        rw [if_neg hdotdot, if_neg hdotdot]
        by_cases hbound : (p.removed != 0 || decide (maxName < name.length)) = true
        · rw [if_pos hbound, if_pos hbound]
          rfl
        rw [if_neg hbound, if_neg hbound]
        cases hnode : fs.node? (p.down name).location with
        | none => rfl
        | some node =>
            -- Only a link would make the walk go on with other names.
            cases node with
            | link target => exact absurd hnode (hlinks _ target)
            | directory => exact ih (p.down name)
            | file => exact ih (p.down name)
            | library image => exact ih (p.down name)

/-- Where no link stands, a walk is one step after the other. -/
theorem walk_eq_foldlM (hlinks : fs.HasNoLinks) (links : Nat) (p : Place) (names : List Name) :
    walk fs links p names = names.foldlM fs.enter? p := by
  cases links with
  | zero => exact walkWith_eq_foldlM hlinks _ p names
  | succ links => exact walkWith_eq_foldlM hlinks _ p names

theorem foldlM_append_eq_some_iff {p q : Place} {front back : List Name} :
    (front ++ back).foldlM fs.enter? p = some q ↔
      ∃ middle, front.foldlM fs.enter? p = some middle ∧ back.foldlM fs.enter? middle = some q := by
  rw [List.foldlM_append]
  exact Option.bind_eq_some_iff

/-! ## Steps -/

theorem isDirectoryAt_of_enter? {p q : Place} {name : Name} (h : fs.enter? p name = some q) :
    fs.isDirectoryAt p = true := by
  unfold enter? at h
  split at h
  · cases h
  · rename_i hdirectory
    simpa using hdirectory

theorem enter?_dot {p : Place} (h : fs.isDirectoryAt p = true) :
    fs.enter? p Path.dot = some p := by
  simp [enter?, h]

theorem enter?_dotdot {p : Place} (h : fs.isDirectoryAt p = true) :
    fs.enter? p Path.dotdot = some p.up := by
  have hne : Path.dotdot ≠ Path.dot := by decide
  simp [enter?, h, hne]

theorem eq_of_enter?_dot {p q : Place} (h : fs.enter? p Path.dot = some q) : q = p := by
  rw [enter?_dot (isDirectoryAt_of_enter? h)] at h
  exact (Option.some.inj h).symm

/-- A step that leads neither to the same place nor up leads down, from a place that is not removed. -/
theorem eq_down_of_enter? {p q : Place} {name : Name} (h : fs.enter? p name = some q)
    (hdot : name ≠ Path.dot) (hdotdot : name ≠ Path.dotdot) : p.removed = 0 ∧ q = p.down name := by
  unfold enter? at h
  rw [if_neg (by simp [isDirectoryAt_of_enter? h]), if_neg hdot, if_neg hdotdot] at h
  split at h
  · cases h
  · rename_i hbound
    split at h
    · refine ⟨?_, (Option.some.inj h).symm⟩
      have hremoved : p.removed = 0 ∧ name.length ≤ maxName := by simpa using hbound
      exact hremoved.1
    · cases h

/-- Above a place that a step went down to is the place the step came from. -/
theorem up_of_enter? {p q : Place} {name : Name} (h : fs.enter? p name = some q)
    (hdot : name ≠ Path.dot) (hdotdot : name ≠ Path.dotdot) : q.up = p := by
  obtain ⟨hremoved, rfl⟩ := eq_down_of_enter? h hdot hdotdot
  obtain ⟨location, removed⟩ := p
  cases hremoved
  simp [Place.down, Place.up]

/-- Dots can be left out of steps that lead somewhere. -/
theorem foldlM_filter_dot {p q : Place} {names : List Name}
    (h : names.foldlM fs.enter? p = some q) :
    (names.filter (· != Path.dot)).foldlM fs.enter? p = some q := by
  induction names generalizing p with
  | nil => exact h
  | cons name rest ih =>
      rw [List.foldlM_cons] at h
      obtain ⟨middle, hstep, hrest⟩ := Option.bind_eq_some_iff.1 h
      by_cases hdot : name = Path.dot
      · subst hdot
        obtain rfl := eq_of_enter?_dot hstep
        exact ih hrest
      · rw [List.filter_cons_of_pos (by simpa using hdot), List.foldlM_cons, hstep]
        exact ih hrest

/-! ## Paths from the root -/

theorem leadsTo?_of_isAbsolute (hlinks : fs.HasNoLinks) {path : Path} (h : path.isAbsolute = true)
    (directory : Place) : fs.leadsTo? directory path = (steps path).foldlM fs.enter? .root := by
  unfold leadsTo?
  rw [if_pos h, walk_eq_foldlM hlinks]

/-- A separator at the end asks for a directory and changes no place. -/
theorem foldlM_names_of_steps {p q : Place} {path : Path}
    (h : (steps path).foldlM fs.enter? p = some q) : (names path).foldlM fs.enter? p = some q := by
  unfold steps at h
  split at h
  · obtain ⟨middle, hnames, hdot⟩ := foldlM_append_eq_some_iff.1 h
    rw [List.foldlM_cons] at hdot
    obtain ⟨last, hstep, hnil⟩ := Option.bind_eq_some_iff.1 hdot
    obtain rfl := eq_of_enter?_dot hstep
    rw [hnames, ← Option.some.inj hnil]
  · exact h

theorem foldlM_names_of_lookup? (hlinks : fs.HasNoLinks) {path : Path}
    (habsolute : path.isAbsolute = true) {directory place : Place}
    (h : fs.lookup? directory path = some place) :
    (names path).foldlM fs.enter? .root = some place := by
  have hleads := leadsTo?_of_lookup? h
  rw [leadsTo?_of_isAbsolute hlinks habsolute] at hleads
  exact foldlM_names_of_steps hleads

/-- All steps but the last one that is no dot lead above, unless that one leads up. -/
theorem foldlM_eq_up {p q : Place} {names front : List Name} {last : Name}
    (h : names.foldlM fs.enter? p = some q)
    (hnames : names.filter (· != Path.dot) = front ++ [last]) (hdotdot : last ≠ Path.dotdot) :
    front.foldlM fs.enter? p = some q.up := by
  have hdot : last ≠ Path.dot := by
    have hlast : last ∈ names.filter (· != Path.dot) := by simp [hnames]
    simpa using (List.mem_filter.1 hlast).2
  have hwalk := foldlM_filter_dot h
  rw [hnames] at hwalk
  obtain ⟨above, hfront, hlast⟩ := foldlM_append_eq_some_iff.1 hwalk
  have hstep : fs.enter? above last = some q := by simpa using hlast
  rw [hfront, up_of_enter? hstep hdot hdotdot]

/-- Going on from a directory by the step up is going on from the place above it. -/
theorem foldlM_dotdot {p q : Place} {names : List Name} (h : names.foldlM fs.enter? p = some q)
    (hdirectory : fs.isDirectoryAt q = true) (more : List Name) :
    (names ++ Path.dotdot :: more).foldlM fs.enter? p = more.foldlM fs.enter? q.up := by
  rw [List.foldlM_append, h]
  show (Path.dotdot :: more).foldlM fs.enter? q = _
  rw [List.foldlM_cons, enter?_dotdot hdirectory]
  rfl

end NativeBootstrap.FileSystem
