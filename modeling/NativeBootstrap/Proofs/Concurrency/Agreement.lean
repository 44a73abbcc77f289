import NativeBootstrap.Proofs.Concurrency.Progress

/-!
# Starts agree in every interleaving

Whatever the threads do and in whatever order: there is one attempt, it alone hands paths to the
loader, and every thread sees its outcome and nothing of what went before it
(`starts_agree_in_every_interleaving`).

Two invariants carry this. The ledgers tell who made the attempt and how far it came (`Ledgers`). The
answers fall into early ones, which were read from an empty cell, and late ones, which were read from
the outcome (`Answered`). In a world that stands still there is a third: no step changes what the
state comes to (`State.comesTo`).
-/

set_option autoImplicit false

namespace NativeBootstrap.Concurrency

/-! ## Answers, early and late -/

/-- An answer that a look into a cell gives where it finds this. A start returns an outcome that is
there. -/
def Answer.ReadFrom (content : Option (Except BootstrapError Loaded)) : Answer → Prop
  | .start outcome => content = some outcome
  | .phase found => found = Session.phase ⟨content, [], []⟩
  | .libraries result => result = Session.libraries ⟨content, [], []⟩

/-- Up to some point all answers were read from an empty cell, and from there on all were read from
what the cell holds now. -/
def Answered (content : Option (Except BootstrapError Loaded)) (answers : List (Thread × Answer)) :
    Prop :=
  ∃ early late, answers = early ++ late ∧ (∀ entry ∈ early, entry.2.ReadFrom none) ∧
    (content = none → late = []) ∧ ∀ entry ∈ late, entry.2.ReadFrom content

section Answered

variable {content : Option (Except BootstrapError Loaded)} {answers : List (Thread × Answer)}

/-- One more answer that is read from the cell. -/
theorem Answered.add (h : Answered content answers) (t : Thread) {answer : Answer}
    (hread : answer.ReadFrom content) : Answered content (answers ++ [(t, answer)]) := by
  obtain ⟨early, late, hsplit, hearly, hempty, hlate⟩ := h
  cases content with
  | none =>
      refine ⟨early ++ [(t, answer)], [], ?_, ?_, fun _ => rfl, ?_⟩
      · rw [hsplit, hempty rfl, List.append_nil, List.append_nil]
      · intro entry hentry
        rcases List.mem_append.1 hentry with hentry | hentry
        · exact hearly entry hentry
        · rw [List.mem_singleton.1 hentry]
          exact hread
      · intro entry hentry
        cases hentry
  | some outcome =>
      refine ⟨early, late ++ [(t, answer)], ?_, hearly, ?_, ?_⟩
      · rw [hsplit, List.append_assoc]
      · intro hnone
        cases hnone
      · intro entry hentry
        rcases List.mem_append.1 hentry with hentry | hentry
        · exact hlate entry hentry
        · rw [List.mem_singleton.1 hentry]
          exact hread

/-- Once the cell is filled, all answers so far are early ones. -/
theorem Answered.fill (h : Answered none answers) (outcome : Except BootstrapError Loaded) :
    Answered (some outcome) answers := by
  obtain ⟨early, late, hsplit, hearly, hempty, -⟩ := h
  refine ⟨early, [], ?_, hearly, fun _ => rfl, ?_⟩
  · rw [hsplit, hempty rfl]
  · intro entry hentry
    cases hentry

/-- Each answer was read from the empty cell or from what the cell holds now. -/
theorem Answered.read_of_mem (h : Answered content answers) {entry : Thread × Answer}
    (hentry : entry ∈ answers) : entry.2.ReadFrom none ∨ entry.2.ReadFrom content := by
  obtain ⟨early, late, hsplit, hearly, -, hlate⟩ := h
  rw [hsplit] at hentry
  rcases List.mem_append.1 hentry with hentry | hentry
  · exact Or.inl (hearly entry hentry)
  · exact Or.inr (hlate entry hentry)

/-- An answer that the empty cell cannot have given is followed by late ones only. -/
theorem Answered.read_of_sublist (h : Answered content answers) {first second : Thread × Answer}
    (hsub : List.Sublist [first, second] answers) (hfirst : ¬ first.2.ReadFrom none) :
    first.2.ReadFrom content ∧ second.2.ReadFrom content := by
  obtain ⟨early, late, hsplit, hearly, -, hlate⟩ := h
  rw [hsplit] at hsub
  obtain ⟨before, after, hparts, hbefore, hafter⟩ := List.sublist_append_iff.1 hsub
  cases before with
  | nil =>
      rw [List.nil_append] at hparts
      subst hparts
      exact ⟨hlate first (hafter.subset List.mem_cons_self),
        hlate second (hafter.subset (List.mem_cons_of_mem _ List.mem_cons_self))⟩
  | cons entry rest =>
      -- Then `first` would be an early answer.
      obtain ⟨rfl, -⟩ := List.cons.inj hparts
      exact absurd (hearly first (hbefore.subset List.mem_cons_self)) hfirst

/-- A start returns what the cell holds. -/
theorem Answered.of_start_mem (h : Answered content answers) {t : Thread}
    {outcome : Except BootstrapError Loaded} (hmem : (t, .start outcome) ∈ answers) :
    content = some outcome := by
  rcases h.read_of_mem hmem with hread | hread
  · cases hread
  · exact hread

/-- Complete libraries are seen only where the outcome is there. -/
theorem Answer.ReadFrom.of_libraries {loaded : Loaded}
    (h : (Answer.libraries (.ok loaded)).ReadFrom content) : content = some (.ok loaded) := by
  cases content with
  | none => cases h
  | some outcome =>
      cases outcome with
      | error error => cases h
      | ok held => rw [Except.ok.inj h]

/-- Libraries that are seen are those that the cell holds. -/
theorem Answered.of_libraries_mem (h : Answered content answers) {t : Thread} {loaded : Loaded}
    (hmem : (t, .libraries (.ok loaded)) ∈ answers) : content = some (.ok loaded) := by
  rcases h.read_of_mem hmem with hread | hread
  · cases hread
  · exact hread.of_libraries

end Answered

theorem Cell.eq_full {cell : Cell} {outcome : Except BootstrapError Loaded}
    (h : cell.outcome? = some outcome) : cell = .full outcome := by
  cases cell with
  | empty => cases h
  | filling owner attempt => cases h
  | full held => rw [Option.some.inj h]

/-! ## The invariant -/

/-- The ledgers of a cell: which thread made an attempt, and what it handed over. -/
inductive Ledgers (b : Bootstrap) (worlds : World → Prop) :
    Cell → List Thread → List (Thread × Path) → Prop where
  | empty : Ledgers b worlds .empty [] []
  | filling (owner : Thread) {attempt : Attempt} {paths : List Path} :
      Accounted b worlds attempt paths →
      Ledgers b worlds (.filling owner attempt) [owner] (paths.map (owner, ·))
  | full (owner : Thread) {outcome : Except BootstrapError Loaded} {paths : List Path} :
      Accounted b worlds (.ended outcome) paths →
      Ledgers b worlds (.full outcome) [owner] (paths.map (owner, ·))

/-- What holds in every state of every interleaving. -/
structure Sound (b : Bootstrap) (worlds : World → Prop) (s : State) : Prop where
  ledgers : Ledgers b worlds s.cell s.attempts s.handed
  answered : Answered s.cell.outcome? s.answers

variable {b : Bootstrap} {worlds : World → Prop} {program : Thread → Program} {s s' : State}

theorem sound_initial : Sound b worlds .initial where
  ledgers := .empty
  answered :=
    ⟨[], [], rfl, fun _ h => absurd h List.not_mem_nil, fun _ => rfl,
      fun _ h => absurd h List.not_mem_nil⟩

/-- Every step keeps the invariant. -/
theorem Step.sound (h : Step b worlds program s s') (hs : Sound b worlds s) :
    Sound b worlds s' := by
  obtain ⟨hledgers, hanswered⟩ := hs
  cases h with
  | call t _ => exact ⟨hledgers, hanswered⟩
  | enter t _ hcell =>
      rw [hcell] at hledgers hanswered
      -- The ledgers become variables, so that the case of the empty cell settles them.
      generalize s.attempts = attempts, s.handed = handed at hledgers ⊢
      cases hledgers
      exact ⟨.filling t .begun, hanswered⟩
  | advance owner attempt w hcell hw =>
      rw [hcell] at hledgers hanswered
      refine ⟨?_, hanswered⟩
      generalize hearlier : s.paths = earlier
      generalize s.attempts = attempts, s.handed = handed at hledgers ⊢
      cases hledgers with
      | filling _ haccount =>
          rw [← List.map_append]
          exact .filling owner (haccount.advance hw earlier)
  | publish owner outcome hcell =>
      rw [hcell] at hledgers hanswered
      refine ⟨?_, hanswered.fill outcome⟩
      generalize s.attempts = attempts, s.handed = handed at hledgers ⊢
      cases hledgers with
      | filling _ haccount => exact .full owner haccount
  -- The three answers are read from the cell as it is.
  | finish t outcome _ hcell =>
      refine ⟨hledgers, hanswered.add t ?_⟩
      rw [hcell]
      rfl
  | phase t _ => exact ⟨hledgers, hanswered.add t rfl⟩
  | libraries t _ => exact ⟨hledgers, hanswered.add t rfl⟩

theorem sound_of_reaches (h : Reaches b worlds program .initial s) : Sound b worlds s := by
  induction h with
  | refl => exact sound_initial
  | tail _ hstep ih => exact hstep.sound ih

/-- Libraries that a cell holds are complete. -/
theorem Ledgers.length_eq {loaded : Loaded} {attempts : List Thread}
    {handed : List (Thread × Path)}
    (h : Ledgers b worlds (.full (.ok loaded)) attempts handed) :
    loaded.libraries.length = loaded.plan.entries.length := by
  cases h with
  | full _ haccount => exact haccount.length_eq

/-- There is one attempt at most, and the paths handed to the loader are the first paths of the plan
that it resolved. -/
theorem Ledgers.handed_eq {cell : Cell} {attempts : List Thread} {handed : List (Thread × Path)}
    (h : Ledgers b worlds cell attempts handed) :
    attempts.length ≤ 1 ∧
      (handed = [] ∨ ∃ owner w plan count, attempts = [owner] ∧ worlds w ∧
        (b.resolve w).value = .ok plan ∧ count ≤ plan.entries.length ∧
        handed = (plan.entries.take count).map fun entry => (owner, entry.path)) := by
  have hfirst : ∀ (owner : Thread) (attempt : Attempt) (paths : List Path),
      Accounted b worlds attempt paths →
      paths.map (owner, ·) = [] ∨ ∃ w plan count, worlds w ∧ (b.resolve w).value = .ok plan ∧
        count ≤ plan.entries.length ∧
        paths.map (owner, ·) = (plan.entries.take count).map fun entry => (owner, entry.path) := by
    intro owner attempt paths haccount
    rcases haccount.paths_eq with hnone | ⟨w, plan, count, hw, hplan, hcount, hpaths⟩
    · exact Or.inl (by rw [hnone, List.map_nil])
    · exact Or.inr ⟨w, plan, count, hw, hplan, hcount, by rw [hpaths, List.map_map]; rfl⟩
  cases h with
  | empty => exact ⟨Nat.zero_le 1, Or.inl rfl⟩
  | filling owner haccount =>
      refine ⟨Nat.le_refl 1, (hfirst owner _ _ haccount).imp_right ?_⟩
      rintro ⟨w, plan, count, hrest⟩
      exact ⟨owner, w, plan, count, rfl, hrest⟩
  | full owner haccount =>
      refine ⟨Nat.le_refl 1, (hfirst owner _ _ haccount).imp_right ?_⟩
      rintro ⟨w, plan, count, hrest⟩
      exact ⟨owner, w, plan, count, rfl, hrest⟩

/-! ## Worlds that stand still -/

/-- What a state comes to in a world that stands still: the outcome, and all paths handed over. -/
def State.comesTo (b : Bootstrap) (w : World) (s : State) :
    Except BootstrapError Loaded × List Path :=
  ((s.cell.rest b w s.paths).1, s.paths ++ (s.cell.rest b w s.paths).2)

/-- No step changes what the state comes to, if all steps meet one world. -/
theorem Step.comesTo_eq {w : World} (hstill : ∀ v, worlds v → v = w)
    (h : Step b worlds program s s') : s'.comesTo b w = s.comesTo b w := by
  cases h with
  | call t _ => rfl
  | enter t _ hcell =>
      simp only [State.comesTo, hcell]
      rfl
  | advance owner attempt v hcell hv =>
      obtain rfl := hstill v hv
      -- What the step hands over moves from the paths still to come to those handed over.
      have hpaths : (s.handed ++ (attempt.advance b v s.paths).2.map (owner, ·)).map Prod.snd =
          s.paths ++ (attempt.advance b v s.paths).2 := by
        simp [State.paths, Function.comp_def]
      simp only [State.comesTo, hcell, Cell.rest]
      rw [rest_advance b v s.paths attempt]
      simp only [State.paths] at hpaths ⊢
      rw [hpaths, List.append_assoc]
  | publish owner outcome hcell =>
      simp only [State.comesTo, hcell]
      rfl
  | finish t outcome _ hcell => rfl
  | phase t _ => rfl
  | libraries t _ => rfl

theorem comesTo_of_reaches {w : World} (hstill : ∀ v, worlds v → v = w)
    (h : Reaches b worlds program .initial s) :
    s.comesTo b w = (Session.attempt b w []).value := by
  induction h with
  | refl => rfl
  | tail _ hstep ih => exact (hstep.comesTo_eq hstill).trans ih

/-! ## Agreement -/

variable (b)

/-- **Starts agree in every interleaving**, for every bootstrap, any number of threads with any
programs, and whatever worlds the steps of the attempt meet. All starts that return give one outcome.
There is at most one attempt; its thread alone hands paths to the loader, and these are the first
paths of the plan that it resolved, one for each entry. Once some start has returned, every phase that
is seen is that of its outcome, and once some phase but the first has been seen, no other is. The
libraries that are seen are always complete. In a world that stands still, the outcome is that of the
attempt made by one thread alone. -/
theorem starts_agree_in_every_interleaving (h : Reaches b worlds program .initial s) :
    (∀ t u first second, (t, .start first) ∈ s.answers → (u, .start second) ∈ s.answers →
      first = second) ∧
    (s.attempts.length ≤ 1 ∧
      (s.handed = [] ∨ ∃ owner w plan count, s.attempts = [owner] ∧ worlds w ∧
        (b.resolve w).value = .ok plan ∧ count ≤ plan.entries.length ∧
        s.handed = (plan.entries.take count).map fun entry => (owner, entry.path))) ∧
    (∀ t u outcome phase, List.Sublist [(t, .start outcome), (u, .phase phase)] s.answers →
      phase = if outcome.isOk then .ready else .failed) ∧
    (∀ t u first second, List.Sublist [(t, .phase first), (u, .phase second)] s.answers →
      first ≠ .unstarted → second = first) ∧
    (∀ t loaded, (t, .libraries (.ok loaded)) ∈ s.answers →
      loaded.libraries.length = loaded.plan.entries.length) ∧
    (∀ w, (∀ v, worlds v → v = w) → ∀ t outcome, (t, .start outcome) ∈ s.answers →
      outcome = (Session.attempt b w []).value.1) := by
  obtain ⟨hledgers, hanswered⟩ := sound_of_reaches h
  refine ⟨?_, hledgers.handed_eq, ?_, ?_, ?_, ?_⟩
  · intro t u first second hfirst hsecond
    exact Option.some.inj ((hanswered.of_start_mem hfirst).symm.trans (hanswered.of_start_mem hsecond))
  · intro t u outcome phase hsub
    obtain ⟨hstart, hphase⟩ := hanswered.read_of_sublist hsub nofun
    simp only [Answer.ReadFrom] at hstart hphase
    rw [hphase, hstart]
    cases outcome <;> rfl
  · intro t u first second hsub hne
    obtain ⟨hfirst, hsecond⟩ := hanswered.read_of_sublist hsub hne
    exact hsecond.trans hfirst.symm
  · intro t loaded hmem
    rw [Cell.eq_full (hanswered.of_libraries_mem hmem)] at hledgers
    exact hledgers.length_eq
  · intro w hstill t outcome hmem
    have hcomes := comesTo_of_reaches hstill h
    rw [State.comesTo, Cell.eq_full (hanswered.of_start_mem hmem)] at hcomes
    exact congrArg Prod.fst hcomes

/-- Two threads that start the session and then look at its phase, and a third one that only looks. -/
def samplePrograms : Thread → Program
  | 2 => fun answers => [Call.phase, .libraries, .libraries][answers.length]?
  | _ => fun answers => [Call.start, .phase][answers.length]?

/-- The second thread has begun an attempt, the first one waits, and the third one has seen nothing. -/
def sampleBegun : State :=
  ⟨.filling 1 .begun, Function.update (Function.update (fun _ => false) 0 true) 1 true, [1], [],
    [(2, .phase .unstarted)]⟩

/-- Both threads call for a start, the second one makes the attempt, and the third one looks in the
midst of it and sees nothing. -/
theorem starts_agree_of_two_threads :
    ∃ s loaded, Reaches sampleBootstrap (Eq installedWorld) samplePrograms .initial s ∧
      s.attempts = [1] ∧
      (Session.attempt sampleBootstrap installedWorld []).value.1 = .ok loaded ∧
      loaded.libraries.length = loaded.plan.entries.length ∧
      s.answers = [(2, .phase .unstarted), (2, .libraries (.error (.notInitialized none))),
        (0, .start (.ok loaded)), (0, .phase .ready), (1, .start (.ok loaded)),
        (2, .libraries (.ok loaded))] := by
  obtain ⟨loaded, hloaded⟩ := sample_attempt_succeeds
  have hbegun : Reaches sampleBootstrap (Eq installedWorld) samplePrograms .initial sampleBegun :=
    .tail (.tail (.tail (.single (.call 0 rfl)) (.call 1 rfl)) (.enter 1 rfl rfl)) (.phase 2 rfl)
  have hended : Reaches sampleBootstrap (Eq installedWorld) samplePrograms sampleBegun _ :=
    reaches_ended sampleBootstrap rfl sampleBegun 1 .begun []
  have houtcome : (Attempt.begun.rest sampleBootstrap installedWorld (sampleBegun.paths ++ [])).1 =
      .ok loaded := hloaded
  rw [houtcome] at hended
  have hall : Reaches sampleBootstrap (Eq installedWorld) samplePrograms .initial _ :=
    (hbegun.trans hended)
      |>.tail (.libraries 2 rfl)
      |>.tail (.publish 1 _ rfl)
      |>.tail (.finish 0 _ rfl rfl)
      |>.tail (.phase 0 rfl)
      |>.tail (.finish 1 _ rfl rfl)
      |>.tail (.libraries 2 rfl)
  obtain ⟨-, -, -, -, hcomplete, -⟩ := starts_agree_in_every_interleaving sampleBootstrap hall
  refine ⟨_, loaded, hall, rfl, hloaded, hcomplete 2 loaded ?_, rfl⟩
  exact List.mem_append_right _ List.mem_cons_self

end NativeBootstrap.Concurrency
