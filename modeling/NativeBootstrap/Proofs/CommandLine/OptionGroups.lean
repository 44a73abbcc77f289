import Mathlib.Data.List.Nodup
import NativeBootstrap.Program

/-!
# Command lines of option groups

An option of the settings is written as a group of one or two arguments; `--artifact` has two spellings.
This module tells which lists of groups can be read, and what they say.

A reading completes `--artifact` late if its value stands apart, so that a reading between two groups
may still hold an option that waits. Settling it first hides this: each group is the completion of
one option on a settled reading, in whatever spelling (`start_bind_settle`), and the whole line is one
fold over the groups (`readAll_line`). The fold fails at an option that was complete before, and at
no other (`addGroup_having`). What it comes to can be told without regard to the order of the groups
(`read_line_eq_ok_iff`).

The main statement is `option_groups_read_as_settings`.
-/

set_option autoImplicit false

namespace NativeBootstrap.CommandLine

/-! ## Groups -/

/-- The arguments of one option. A value that stands apart does not look like an option; one that is
joined to the name may. -/
inductive Group where
  | apart (value : Bytes) (nonempty : value ≠ []) (undashed : value.head? ≠ some dash)
  | joined (value : Bytes) (nonempty : value ≠ [])
  | plan
  | versionInfo

namespace Group

/-- How a group is written. -/
def words : Group → List Bytes
  | .apart value _ _ => [Utf8.encode "--artifact", value]
  | .joined value _ => [Utf8.encode "--artifact=" ++ value]
  | .plan => [Utf8.encode "--plan"]
  | .versionInfo => [Utf8.encode "--version-info"]

/-- The option that a group stands for. -/
def option : Group → Opt
  | .apart _ _ _ => .artifact
  | .joined _ _ => .artifact
  | .plan => .plan
  | .versionInfo => .versionInfo

/-- The artifact that a group gives. -/
def value? : Group → Option Bytes
  | .apart value _ _ => some value
  | .joined value _ => some value
  | .plan => none
  | .versionInfo => none

/-- What a group says, in whatever spelling. -/
def said (g : Group) : Opt × Option Bytes := (g.option, g.value?)

/-- The groups that give an artifact are those of that option. -/
theorem isSome_value? (g : Group) : g.value?.isSome = (g.option == .artifact) := by
  cases g with
  | apart value nonempty undashed => rfl
  | joined value nonempty => rfl
  | plan => rfl
  | versionInfo => rfl

theorem option_of_value? {g : Group} {value : Bytes} (h : g.value? = some value) :
    g.option = .artifact := by
  have hsome := g.isSome_value?
  rw [h] at hsome
  exact beq_iff_eq.mp hsome.symm

theorem nonempty_of_value? {g : Group} {value : Bytes} (h : g.value? = some value) :
    value ≠ [] := by
  cases g with
  | apart given nonempty undashed =>
      cases h
      exact nonempty
  | joined given nonempty =>
      cases h
      exact nonempty
  | plan => cases h
  | versionInfo => cases h

/-- A flag has one spelling. -/
theorem eq_flag_of_option {g flag : Group} (hflag : flag.value? = none)
    (h : g.option = flag.option) : g = flag := by
  cases flag with
  | apart value nonempty undashed => cases hflag
  | joined value nonempty => cases hflag
  | plan => cases g <;> first | rfl | cases h
  | versionInfo => cases g <;> first | rfl | cases h

theorem mem_map_option (flag : Group) (hflag : flag.value? = none) {groups : List Group} :
    flag.option ∈ groups.map option ↔ flag ∈ groups := by
  constructor
  · intro hmem
    obtain ⟨g, hg, hoption⟩ := List.mem_map.mp hmem
    rwa [← eq_flag_of_option hflag hoption]
  · intro hmem
    exact List.mem_map_of_mem hmem

theorem mem_map_option_plan {groups : List Group} :
    Opt.plan ∈ groups.map option ↔ Group.plan ∈ groups :=
  mem_map_option .plan rfl

theorem mem_map_option_versionInfo {groups : List Group} :
    Opt.versionInfo ∈ groups.map option ↔ Group.versionInfo ∈ groups :=
  mem_map_option .versionInfo rfl

/-- As many artifacts are given as there are groups of that option. -/
theorem length_filterMap_value? (groups : List Group) :
    (groups.filterMap value?).length = (groups.map option).count .artifact := by
  calc (groups.filterMap value?).length
      = groups.countP (fun g => g.value?.isSome) := List.length_filterMap_eq_countP
    _ = groups.countP (fun g => g.option == .artifact) := by simp only [isSome_value?]
    _ = (groups.map option).count .artifact := by
        rw [List.count_eq_countP, List.countP_map]
        rfl

end Group

/-- A command line of groups. -/
def line (groups : List Group) : List Bytes := groups.flatMap Group.words

/-! ## The shape of their words -/

theorem Word.ofBytes_plain {value : Bytes} (nonempty : value ≠ [])
    (undashed : value.head? ≠ some dash) : ofBytes value = .plain value := by
  cases value with
  | nil => exact absurd rfl nonempty
  | cons first rest =>
      have hfirst : first ≠ dash := by
        intro heq
        exact undashed (by rw [heq]; rfl)
      simp [ofBytes, hfirst]

/-- A long name ends at the first `=`, and all behind that is the value. -/
theorem Word.ofLong_joined {name : Bytes} (hname : equalsSign ∉ name) (value : Bytes) :
    ofLong (name ++ equalsSign :: value) = .long name (some value) := by
  have hbefore : ∀ byte ∈ name, (byte != equalsSign) = true := by
    intro byte hbyte
    rw [bne_iff_ne]
    rintro rfl
    exact hname hbyte
  simp [ofLong, List.takeWhile_append_of_pos hbefore, List.dropWhile_append_of_pos hbefore]

theorem Opt.ofName?_encode_name (option : Opt) :
    ofName? (Utf8.encode option.name) = some option := by
  cases option <;> decide

theorem Word.ofBytes_joined (value : Bytes) :
    ofBytes (Utf8.encode "--artifact=" ++ value)
      = .long (Utf8.encode Opt.artifact.name) (some value) := by
  have hname : equalsSign ∉ Utf8.encode Opt.artifact.name := by decide
  have hspelling : Utf8.encode "--artifact=" ++ value
      = dash :: dash :: (Utf8.encode Opt.artifact.name ++ equalsSign :: value) := by
    rfl
  rw [hspelling]
  simp [ofBytes, ofLong_joined hname]

namespace Reading

/-! ## Readings between two groups -/

theorem settle_of_waiting {s : Reading} (hwaiting : s.waiting = none) : s.settle = .ok s := by
  simp [settle, hwaiting]

theorem waiting_of_add {r s : Reading} {option : Opt} (h : r.add option = .ok s) :
    s.waiting = r.waiting := by
  unfold add at h
  split at h
  · cases h
  · cases h
    rfl

theorem waiting_of_addArtifact {r s : Reading} {value : Bytes} (h : r.addArtifact value = .ok s) :
    s.waiting = r.waiting := by
  cases hadd : r.add .artifact with
  | error stop => simp [addArtifact, hadd, bind, Except.bind] at h
  | ok added =>
      by_cases hvalue : value = []
      · simp [addArtifact, hadd, bind, Except.bind, hvalue] at h
      · simp only [addArtifact, hadd, bind, Except.bind, if_neg hvalue, Except.ok.injEq] at h
        rw [← h]
        show added.waiting = r.waiting
        exact waiting_of_add hadd

/-- Nothing waits once a reading is settled. -/
theorem waiting_of_settle {r s : Reading} (h : r.settle = .ok s) : s.waiting = none := by
  cases hwaiting : r.waiting with
  | none =>
      rw [settle_of_waiting hwaiting] at h
      cases h
      exact hwaiting
  | some waiting =>
      cases waiting with
      | value => simp [settle, hwaiting] at h
      | completion value =>
          simp only [settle, hwaiting] at h
          exact waiting_of_addArtifact h

theorem finish_eq_settle_bind (r : Reading) : r.finish = r.settle >>= finish := by
  cases hsettle : r.settle with
  | error stop => simp [finish, hsettle, bind, Except.bind]
  | ok s =>
      have hs : s.settle = .ok s := settle_of_waiting (waiting_of_settle hsettle)
      simp [finish, hsettle, hs, bind, Except.bind]

/-! ## One group -/

/-- What a group does to a settled reading: a value that stands apart is left to wait. -/
def start (s : Reading) : Group → Except Stop Reading
  | .apart value _ _ => .ok { s with waiting := some (.completion value) }
  | .joined value _ => s.addArtifact value
  | .plan => s.add .plan
  | .versionInfo => s.add .versionInfo

/-- What a group completes, in whatever spelling. -/
def addGroup (s : Reading) (g : Group) : Except Stop Reading :=
  match g.value? with
  | some value => s.addArtifact value
  | none => s.add g.option

theorem readLong_name (r : Reading) (option : Opt) (value : Option Bytes) :
    r.readLong (Utf8.encode option.name) value = r.readOption option value := by
  simp [readLong, Opt.ofName?_encode_name]

theorem readAll_words (r : Reading) (g : Group) (rest : List Bytes) :
    readAll r (g.words ++ rest)
      = r.settle >>= fun s => s.start g >>= fun next => readAll next rest := by
  cases g with
  | apart value nonempty undashed =>
      have hname : Word.ofBytes (Utf8.encode "--artifact")
          = .long (Utf8.encode Opt.artifact.name) none := by decide
      have hvalue : Word.ofBytes value = .plain value := Word.ofBytes_plain nonempty undashed
      cases hsettle : r.settle with
      | error stop =>
          simp [Group.words, readAll, hname, readLong_name, readOption, hsettle, bind, Except.bind]
      | ok s =>
          simp [Group.words, readAll, hname, hvalue, readLong_name, readOption, readPlain, start,
            hsettle, bind, Except.bind, pure, Except.pure]
  | joined value nonempty =>
      simp [Group.words, readAll, Word.ofBytes_joined, readLong_name, readOption, start]
  | plan =>
      have hname : Word.ofBytes (Utf8.encode "--plan")
          = .long (Utf8.encode Opt.plan.name) none := by decide
      simp [Group.words, readAll, hname, readLong_name, readOption, start]
  | versionInfo =>
      have hname : Word.ofBytes (Utf8.encode "--version-info")
          = .long (Utf8.encode Opt.versionInfo.name) none := by decide
      simp [Group.words, readAll, hname, readLong_name, readOption, start]

theorem waiting_of_addGroup {s next : Reading} {g : Group} (h : s.addGroup g = .ok next) :
    next.waiting = s.waiting := by
  unfold addGroup at h
  split at h
  · exact waiting_of_addArtifact h
  · exact waiting_of_add h

theorem addGroup_bind_settle {s : Reading} (hwaiting : s.waiting = none) (g : Group) :
    s.addGroup g >>= settle = s.addGroup g := by
  cases hadd : s.addGroup g with
  | error stop => rfl
  | ok next =>
      have hnext : next.waiting = none := by rw [waiting_of_addGroup hadd, hwaiting]
      exact settle_of_waiting hnext

/-- The two spellings of `--artifact` differ in what is left to wait, and in nothing else. -/
theorem start_bind_settle {s : Reading} (hwaiting : s.waiting = none) (g : Group) :
    s.start g >>= settle = s.addGroup g := by
  cases g with
  | apart value nonempty undashed =>
      have hs : { s with waiting := none } = s := by
        rw [← hwaiting]
      simp [start, addGroup, settle, Group.value?, bind, Except.bind, hs]
  | joined value nonempty => exact addGroup_bind_settle hwaiting (.joined value nonempty)
  | plan => exact addGroup_bind_settle hwaiting .plan
  | versionInfo => exact addGroup_bind_settle hwaiting .versionInfo

/-! ## A whole line -/

theorem readAll_line (groups : List Group) :
    ∀ r : Reading, readAll r (line groups)
      = r.settle >>= fun s => groups.foldlM addGroup s >>= finish := by
  induction groups with
  | nil =>
      intro r
      simpa [line, readAll] using finish_eq_settle_bind r
  | cons g rest ih =>
      intro r
      have hrest : (fun next : Reading => readAll next (line rest))
          = fun next => next.settle >>= fun s => rest.foldlM addGroup s >>= finish := by
        funext next
        exact ih next
      have hline : line (g :: rest) = g.words ++ line rest := by
        simp [line]
      rw [hline, readAll_words, hrest]
      cases hsettle : r.settle with
      | error stop => rfl
      | ok s =>
          -- What the group leaves to wait is settled before the next one, or at the end.
          have hs : s.waiting = none := waiting_of_settle hsettle
          calc (s.start g >>= fun next => next.settle >>= fun t => rest.foldlM addGroup t >>= finish)
              = ((s.start g >>= settle) >>= fun t => rest.foldlM addGroup t >>= finish) := by
                rw [bind_assoc]
            _ = (s.addGroup g >>= fun t => rest.foldlM addGroup t >>= finish) := by
                rw [start_bind_settle hs]
            _ = ((g :: rest).foldlM addGroup s >>= finish) := by
                rw [List.foldlM_cons, bind_assoc]

/-- The reading once these groups are read and settled. -/
def having (done : List Group) : Reading :=
  ⟨done.map Group.option, (done.filterMap Group.value?).getLast?, none⟩

/-- An option that was complete before is told, and all else is added. -/
theorem addGroup_having (done : List Group) (g : Group) :
    (having done).addGroup g
      = if g.option ∈ done.map Group.option then .error (.misuse (.repeated g.option))
        else .ok (having (done ++ [g])) := by
  cases hvalue : g.value? with
  | none =>
      by_cases hmem : g.option ∈ done.map Group.option
      · simp [addGroup, add, having, hvalue, hmem]
      · simp [addGroup, add, having, hvalue, hmem]
  | some value =>
      have hnonempty : value ≠ [] := Group.nonempty_of_value? hvalue
      have hoption : g.option = .artifact := Group.option_of_value? hvalue
      rw [hoption]
      by_cases hmem : Opt.artifact ∈ done.map Group.option
      · have hadd : (having done).add .artifact = .error (.misuse (.repeated .artifact)) :=
          if_pos hmem
        rw [if_pos hmem]
        simp [addGroup, addArtifact, hvalue, hadd, bind, Except.bind]
      · have hadd : (having done).add .artifact
            = .ok { having done with complete := done.map Group.option ++ [.artifact] } :=
          if_neg hmem
        rw [if_neg hmem]
        simp only [addGroup, hvalue, addArtifact, hadd, bind, Except.bind, if_neg hnonempty]
        simp [having, hvalue, hoption]

/-- Options that are all different are all added. -/
theorem foldlM_addGroup_of_nodup (rest : List Group) :
    ∀ done : List Group, ((done ++ rest).map Group.option).Nodup →
      rest.foldlM addGroup (having done) = .ok (having (done ++ rest)) := by
  induction rest with
  | nil =>
      intro done _
      simp [pure, Except.pure]
  | cons g rest ih =>
      intro done hnodup
      have hsplit : done ++ g :: rest = (done ++ [g]) ++ rest := by simp
      have hnew : g.option ∉ done.map Group.option := by
        intro hmem
        rw [List.map_append, List.map_cons] at hnodup
        exact (List.nodup_append.mp hnodup).2.2 _ hmem _ List.mem_cons_self rfl
      rw [hsplit] at hnodup ⊢
      rw [List.foldlM_cons, addGroup_having, if_neg hnew]
      exact ih (done ++ [g]) hnodup

/-- If an option is there twice, the fold stops at one. -/
theorem foldlM_addGroup_of_repeated (rest : List Group) :
    ∀ done : List Group, (done.map Group.option).Nodup →
      ¬ ((done ++ rest).map Group.option).Nodup →
        ∃ option, rest.foldlM addGroup (having done) = .error (.misuse (.repeated option)) := by
  induction rest with
  | nil =>
      intro done hdone hrepeated
      rw [List.append_nil] at hrepeated
      exact absurd hdone hrepeated
  | cons g rest ih =>
      intro done hdone hrepeated
      rw [List.foldlM_cons, addGroup_having]
      by_cases hmem : g.option ∈ done.map Group.option
      · rw [if_pos hmem]
        exact ⟨g.option, rfl⟩
      · -- The repeated option stands further behind, and what is done is still without one.
        rw [if_neg hmem]
        have hnext : ((done ++ [g]).map Group.option).Nodup := by
          rw [List.map_append, List.map_singleton, ← List.concat_eq_append]
          exact hdone.concat hmem
        have hsplit : done ++ g :: rest = (done ++ [g]) ++ rest := by simp
        rw [hsplit] at hrepeated
        exact ih (done ++ [g]) hnext hrepeated

/-! ## The end of a line -/

theorem excluded?_eq_none_iff (complete : List Opt) :
    excluded? complete = none ↔ ¬ (Opt.plan ∈ complete ∧ Opt.versionInfo ∈ complete) := by
  unfold excluded?
  by_cases hboth : Opt.plan ∈ complete ∧ Opt.versionInfo ∈ complete
  · rw [if_pos hboth]
    split <;> simp [hboth]
  · simp [hboth]

theorem finish_having_of_excluded {groups : List Group}
    (hboth : Group.plan ∈ groups ∧ Group.versionInfo ∈ groups) :
    ∃ misuse, (having groups).finish = .error (.misuse misuse) := by
  have hsettle : (having groups).settle = .ok (having groups) := settle_of_waiting rfl
  cases hpair : excluded? (having groups).complete with
  | none =>
      exfalso
      apply (excluded?_eq_none_iff _).mp hpair
      exact ⟨Group.mem_map_option_plan.mpr hboth.1, Group.mem_map_option_versionInfo.mpr hboth.2⟩
  | some pair =>
      refine ⟨.excluded pair.1 pair.2 (having groups).complete, ?_⟩
      simp [finish, hsettle, hpair, bind, Except.bind]

theorem finish_having {groups : List Group}
    (hnot : ¬ (Group.plan ∈ groups ∧ Group.versionInfo ∈ groups)) :
    (having groups).finish
      = .ok ⟨(groups.filterMap Group.value?).getLast?,
          (groups.map Group.option).contains .plan,
          (groups.map Group.option).contains .versionInfo⟩ := by
  have hsettle : (having groups).settle = .ok (having groups) := settle_of_waiting rfl
  have hnone : excluded? (having groups).complete = none := by
    rw [excluded?_eq_none_iff]
    intro hboth
    apply hnot
    exact ⟨Group.mem_map_option_plan.mp hboth.1, Group.mem_map_option_versionInfo.mp hboth.2⟩
  simp only [finish, hsettle, hnone, bind, Except.bind]
  rfl

end Reading

/-! ## What a line says -/

/-- No option is there twice, and not both flags are. -/
def Fits (groups : List Group) : Prop :=
  (∀ option, (groups.map Group.option).count option ≤ 1) ∧
    ¬ (Group.plan ∈ groups ∧ Group.versionInfo ∈ groups)

theorem read_line (groups : List Group) :
    Arguments.read (line groups)
      = groups.foldlM Reading.addGroup (Reading.having []) >>= Reading.finish :=
  Reading.readAll_line groups Reading.fresh

theorem read_line_of_fits {groups : List Group} (hfits : Fits groups) :
    Arguments.read (line groups)
      = .ok ⟨(groups.filterMap Group.value?).getLast?,
          (groups.map Group.option).contains .plan,
          (groups.map Group.option).contains .versionInfo⟩ := by
  have hnodup : (([] ++ groups).map Group.option).Nodup := List.nodup_iff_count_le_one.mpr hfits.1
  rw [read_line, Reading.foldlM_addGroup_of_nodup groups [] hnodup]
  exact Reading.finish_having hfits.2

theorem read_line_of_not_fits {groups : List Group} (hnot : ¬ Fits groups) :
    ∃ misuse, Arguments.read (line groups) = .error (.misuse misuse) := by
  rw [read_line]
  by_cases hnodup : (groups.map Group.option).Nodup
  · have hboth : Group.plan ∈ groups ∧ Group.versionInfo ∈ groups := by
      by_contra hnone
      exact hnot ⟨List.nodup_iff_count_le_one.mp hnodup, hnone⟩
    rw [Reading.foldlM_addGroup_of_nodup groups [] hnodup]
    exact Reading.finish_having_of_excluded hboth
  · obtain ⟨option, herror⟩ :=
      Reading.foldlM_addGroup_of_repeated groups [] List.nodup_nil hnodup
    rw [herror]
    exact ⟨.repeated option, rfl⟩

/-- The groups of a line that fits give one artifact at most. -/
theorem Fits.toList_getLast? {groups : List Group} (hfits : Fits groups) :
    (groups.filterMap Group.value?).getLast?.toList = groups.filterMap Group.value? := by
  have hlength : (groups.filterMap Group.value?).length ≤ 1 := by
    rw [Group.length_filterMap_value?]
    exact hfits.1 .artifact
  cases hvalues : groups.filterMap Group.value? with
  | nil => rfl
  | cons value rest =>
      rw [hvalues, List.length_cons] at hlength
      have hrest : rest = [] := List.eq_nil_of_length_eq_zero (by omega)
      rw [hrest]
      rfl

/-- The arguments that a line is read as, without regard to the order of its groups. -/
theorem read_line_eq_ok_iff (groups : List Group) (said : Arguments) :
    Arguments.read (line groups) = .ok said ↔
      Fits groups ∧ said.artifact.toList = groups.filterMap Group.value? ∧
        (said.plan = true ↔ Group.plan ∈ groups) ∧
        (said.versionInfo = true ↔ Group.versionInfo ∈ groups) := by
  constructor
  · intro hread
    by_cases hfits : Fits groups
    · rw [read_line_of_fits hfits, Except.ok.injEq] at hread
      subst hread
      refine ⟨hfits, hfits.toList_getLast?, ?_, ?_⟩
      · rw [List.contains_iff_mem, Group.mem_map_option_plan]
      · rw [List.contains_iff_mem, Group.mem_map_option_versionInfo]
    · obtain ⟨misuse, herror⟩ := read_line_of_not_fits hfits
      rw [herror] at hread
      cases hread
  · rintro ⟨hfits, hartifact, hplan, hversionInfo⟩
    rw [read_line_of_fits hfits, Except.ok.injEq]
    have hlast : (groups.filterMap Group.value?).getLast? = said.artifact := by
      rw [← hartifact]
      cases said.artifact <;> rfl
    have hplan' : said.plan = (groups.map Group.option).contains .plan := by
      rw [Bool.eq_iff_iff, hplan, List.contains_iff_mem, Group.mem_map_option_plan]
    have hversionInfo' : said.versionInfo = (groups.map Group.option).contains .versionInfo := by
      rw [Bool.eq_iff_iff, hversionInfo, List.contains_iff_mem, Group.mem_map_option_versionInfo]
    rw [hlast, ← hplan', ← hversionInfo']

/-- Neither the order nor the spelling of the groups matters. -/
theorem read_line_of_perm {groups others : List Group}
    (hperm : (others.map Group.said).Perm (groups.map Group.said)) {said : Arguments}
    (hread : Arguments.read (line groups) = .ok said) : Arguments.read (line others) = .ok said := by
  have hoptions : (others.map Group.option).Perm (groups.map Group.option) := by
    have hfst := hperm.map Prod.fst
    rwa [List.map_map, List.map_map] at hfst
  have hvalues : (others.filterMap Group.value?).Perm (groups.filterMap Group.value?) := by
    have hsnd := hperm.filterMap Prod.snd
    rwa [List.filterMap_map, List.filterMap_map] at hsnd
  rw [read_line_eq_ok_iff] at hread ⊢
  obtain ⟨⟨hcount, hnot⟩, hartifact, hplan, hversionInfo⟩ := hread
  have hplans : Group.plan ∈ others ↔ Group.plan ∈ groups := by
    rw [← Group.mem_map_option_plan, ← Group.mem_map_option_plan, hoptions.mem_iff]
  have hversions : Group.versionInfo ∈ others ↔ Group.versionInfo ∈ groups := by
    rw [← Group.mem_map_option_versionInfo, ← Group.mem_map_option_versionInfo, hoptions.mem_iff]
  refine ⟨⟨?_, ?_⟩, ?_, ?_, ?_⟩
  · intro option
    rw [hoptions.count_eq]
    exact hcount option
  · rwa [hplans, hversions]
  · rw [← hartifact] at hvalues
    cases hgiven : said.artifact with
    | none =>
        rw [hgiven] at hvalues
        exact hvalues.eq_nil.symm
    | some value =>
        rw [hgiven] at hvalues
        exact (List.perm_singleton.mp hvalues).symm
  · rw [hplan, hplans]
  · rw [hversionInfo, hversions]

/-- A list of option groups can be read if, and only if, no option is there twice and not both flags
are. What it says then is the artifact it gives, if it gives one, and which flags it has; so the order
of the groups does not matter, nor does the spelling of `--artifact`. All else is a misuse, on which
the program ends with code 2. -/
theorem option_groups_read_as_settings (groups : List Group) :
    ((∃ said, Arguments.read (line groups) = .ok said) ↔
        (∀ option, (groups.map Group.option).count option ≤ 1) ∧
          ¬ (Group.plan ∈ groups ∧ Group.versionInfo ∈ groups)) ∧
      (∀ said, Arguments.read (line groups) = .ok said →
        said.artifact.toList = groups.filterMap Group.value? ∧
          (said.plan = true ↔ Group.plan ∈ groups) ∧
          (said.versionInfo = true ↔ Group.versionInfo ∈ groups)) ∧
      (∀ others : List Group, (others.map Group.said).Perm (groups.map Group.said) →
        ∀ said, Arguments.read (line others) = .ok said ↔ Arguments.read (line groups) = .ok said) ∧
      (∀ stop, Arguments.read (line groups) = .error stop →
        ∃ misuse, stop = .misuse misuse ∧
          ∀ loader w words specification stamp,
            (Program.transcript words specification stamp
              (Program.run loader w (line groups))).code = 2) := by
  refine ⟨⟨?_, ?_⟩, ?_, ?_, ?_⟩
  · rintro ⟨said, hread⟩
    exact ((read_line_eq_ok_iff groups said).mp hread).1
  · intro hfits
    exact ⟨_, read_line_of_fits hfits⟩
  · intro said hread
    exact ((read_line_eq_ok_iff groups said).mp hread).2
  · intro others hperm said
    exact ⟨read_line_of_perm hperm.symm, read_line_of_perm hperm⟩
  · intro stop hread
    have hnot : ¬ Fits groups := by
      intro hfits
      rw [read_line_of_fits hfits] at hread
      cases hread
    obtain ⟨misuse, herror⟩ := read_line_of_not_fits hnot
    rw [herror, Except.error.injEq] at hread
    refine ⟨misuse, hread.symm, ?_⟩
    intro loader w words specification stamp
    have hrun : Program.run loader w (line groups) = ⟨.misused misuse, []⟩ := by
      simp only [Program.run, herror]
    rw [hrun]
    rfl

/-- A value with an `=` in it, apart and before the flag or joined and behind it. -/
theorem option_groups_read_as_settings_of_two_spellings :
    let value := Utf8.encode "a=b"
    let groups := [Group.apart value (by decide) (by decide), .plan]
    let others := [Group.plan, .joined value (by decide)]
    Arguments.read (line groups) = .ok ⟨some value, true, false⟩ ∧
      Arguments.read (line others) = .ok ⟨some value, true, false⟩ := by
  intro value groups others
  have hread : Arguments.read (line groups) = .ok ⟨some value, true, false⟩ := by decide
  have hperm : (others.map Group.said).Perm (groups.map Group.said) := List.Perm.swap _ _ _
  exact ⟨hread, ((option_groups_read_as_settings groups).2.2.1 others hperm _).mpr hread⟩

end NativeBootstrap.CommandLine
