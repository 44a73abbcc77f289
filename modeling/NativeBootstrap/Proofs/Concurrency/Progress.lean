import NativeBootstrap.Proofs.Concurrency.Attempts

/-!
# No thread waits in vain

An attempt under way can be brought to its end, step by step, in any world that its steps may meet
(`reaches_ended`). So from every state in which a thread waits for the outcome there is a way on to a
state in which it has its answer (`reaches_told`).
-/

set_option autoImplicit false

namespace NativeBootstrap.Concurrency

variable (b : Bootstrap)

/-! ## Bringing an attempt to its end -/

/-- The state in which a thread's attempt has come this far, with these paths handed over since. -/
def State.withAttempt (s : State) (owner : Thread) (attempt : Attempt) (paths : List Path) :
    State :=
  { s with
    cell := .filling owner attempt
    handed := s.handed ++ paths.map (owner, ·) }

theorem State.paths_withAttempt (s : State) (owner : Thread) (attempt : Attempt)
    (paths : List Path) : (s.withAttempt owner attempt paths).paths = s.paths ++ paths := by
  simp [State.withAttempt, State.paths, Function.comp_def]

/-- Paths that are handed over one after the other add up. -/
theorem State.withAttempt_handed (s : State) (owner : Thread) (attempt next : Attempt)
    (paths more : List Path) :
    { s.withAttempt owner attempt paths with
      cell := .filling owner next
      handed := (s.withAttempt owner attempt paths).handed ++ more.map (owner, ·) } =
      s.withAttempt owner next (paths ++ more) := by
  simp [State.withAttempt]

variable {worlds : World → Prop} {program : Thread → Program} {w : World}

theorem step_withAttempt (hw : worlds w) (s : State) (owner : Thread) (attempt : Attempt)
    (paths : List Path) :
    Step b worlds program (s.withAttempt owner attempt paths)
      (s.withAttempt owner (attempt.advance b w (s.paths ++ paths)).1
        (paths ++ (attempt.advance b w (s.paths ++ paths)).2)) := by
  have hstep : Step b worlds program (s.withAttempt owner attempt paths) _ :=
    .advance owner attempt w rfl hw
  rw [State.paths_withAttempt, State.withAttempt_handed] at hstep
  exact hstep

/-- If the attempt can be brought to its end after a step, then also before it. -/
theorem reaches_ended_of_advance (hw : worlds w) (s : State) (owner : Thread) {attempt : Attempt}
    {paths : List Path} {advanced : Attempt} {handed : List Path}
    (hadvance : attempt.advance b w (s.paths ++ paths) = (advanced, handed))
    (h : Reaches b worlds program (s.withAttempt owner advanced (paths ++ handed))
      (s.withAttempt owner (.ended (advanced.rest b w (s.paths ++ (paths ++ handed))).1)
        (paths ++ handed ++ (advanced.rest b w (s.paths ++ (paths ++ handed))).2))) :
    Reaches b worlds program (s.withAttempt owner attempt paths)
      (s.withAttempt owner (.ended (attempt.rest b w (s.paths ++ paths)).1)
        (paths ++ (attempt.rest b w (s.paths ++ paths)).2)) := by
  have hstep : Step b worlds program (s.withAttempt owner attempt paths) _ :=
    step_withAttempt b hw s owner attempt paths
  rw [hadvance] at hstep
  rw [rest_advance, hadvance, List.append_assoc s.paths, ← List.append_assoc paths]
  exact .head hstep h

/-- Nothing is left to do for an attempt that ended. -/
theorem reaches_ended_of_ended (s : State) (owner : Thread)
    (outcome : Except BootstrapError Loaded) (paths earlier : List Path) :
    Reaches b worlds program (s.withAttempt owner (.ended outcome) paths)
      (s.withAttempt owner (.ended ((Attempt.ended outcome).rest b w earlier).1)
        (paths ++ ((Attempt.ended outcome).rest b w earlier).2)) := by
  simp only [Attempt.rest, List.append_nil]
  exact .refl

/-- An attempt in the midst of loading comes to its end. By induction on the number of entries that
are left. -/
theorem reaches_ended_of_loading (hw : worlds w) (s : State) (owner : Thread) (plan : LoadPlan) :
    ∀ (left : Nat) (libraries : List Library) (paths : List Path),
      plan.entries.length - libraries.length = left →
      Reaches b worlds program (s.withAttempt owner (.loading plan libraries) paths)
        (s.withAttempt owner
          (.ended ((Attempt.loading plan libraries).rest b w (s.paths ++ paths)).1)
          (paths ++ ((Attempt.loading plan libraries).rest b w (s.paths ++ paths)).2)) := by
  intro left
  induction left with
  | zero =>
      intro libraries paths hleft
      have hnone : plan.entries[libraries.length]? = none :=
        List.getElem?_eq_none_iff.2 (Nat.sub_eq_zero_iff_le.1 hleft)
      exact reaches_ended_of_advance b hw s owner (advance_loading_of_none b _ hnone)
        (reaches_ended_of_ended b s owner _ _ _)
  | succ left ih =>
      intro libraries paths hleft
      have hlt : libraries.length < plan.entries.length := by omega
      have hentry := List.getElem?_eq_getElem hlt
      cases hload : b.loader.load w (s.paths ++ paths) plan.entries[libraries.length].path with
      | error failure =>
          exact reaches_ended_of_advance b hw s owner (advance_loading_of_error b _ hentry hload)
            (reaches_ended_of_ended b s owner _ _ _)
      | ok library =>
          refine reaches_ended_of_advance b hw s owner (advance_loading_of_ok b _ hentry hload)
            (ih _ _ ?_)
          rw [List.length_append, List.length_singleton]
          omega

/-- An attempt that knows its plan comes to its end. -/
theorem reaches_ended_of_planned (hw : worlds w) (s : State) (owner : Thread) (plan : LoadPlan)
    (paths : List Path) :
    Reaches b worlds program (s.withAttempt owner (.planned plan) paths)
      (s.withAttempt owner (.ended ((Attempt.planned plan).rest b w (s.paths ++ paths)).1)
        (paths ++ ((Attempt.planned plan).rest b w (s.paths ++ paths)).2)) := by
  cases hdir : w.isDirectory plan.libsDir with
  | false =>
      exact reaches_ended_of_advance b hw s owner (advance_planned_of_not_directory b _ hdir)
        (reaches_ended_of_ended b s owner _ _ _)
  | true =>
      exact reaches_ended_of_advance b hw s owner (advance_planned_of_directory b _ hdir)
        (reaches_ended_of_loading b hw s owner plan _ _ _ rfl)

/-- Every attempt can be brought to its end in a world that stands still, with the outcome and the
paths that it comes to there. -/
theorem reaches_ended (hw : worlds w) (s : State) (owner : Thread) (attempt : Attempt)
    (paths : List Path) :
    Reaches b worlds program (s.withAttempt owner attempt paths)
      (s.withAttempt owner (.ended (attempt.rest b w (s.paths ++ paths)).1)
        (paths ++ (attempt.rest b w (s.paths ++ paths)).2)) := by
  cases attempt with
  | begun =>
      cases hresolve : (b.resolve w).value with
      | error error =>
          exact reaches_ended_of_advance b hw s owner (advance_begun_of_error b _ hresolve)
            (reaches_ended_of_ended b s owner _ _ _)
      | ok plan =>
          exact reaches_ended_of_advance b hw s owner (advance_begun_of_ok b _ hresolve)
            (reaches_ended_of_planned b hw s owner plan _)
  | planned plan => exact reaches_ended_of_planned b hw s owner plan paths
  | loading plan libraries => exact reaches_ended_of_loading b hw s owner plan _ _ _ rfl
  | ended outcome => exact reaches_ended_of_ended b s owner outcome paths _

/-! ## Threads that wait -/

theorem reaches_full_of_filling (hw : worlds w) {s : State} {owner : Thread} {attempt : Attempt}
    (hcell : s.cell = .filling owner attempt) :
    ∃ s', Reaches b worlds program s s' ∧ s'.cell = .full (attempt.rest b w s.paths).1 ∧
      s'.waiting = s.waiting ∧ s'.answers = s.answers := by
  have hs : s.withAttempt owner attempt [] = s := by
    simp [State.withAttempt, ← hcell]
  have hended : Reaches b worlds program (s.withAttempt owner attempt []) _ :=
    reaches_ended b hw s owner attempt []
  rw [hs, List.append_nil, List.nil_append] at hended
  exact ⟨_, .tail hended (.publish owner _ rfl), rfl, rfl, rfl⟩

/-- **No thread waits in vain.** From every state in which a thread waits, the steps of the attempt
lead to a state in which it is told an outcome. -/
theorem reaches_told (hw : worlds w) {s : State} {t : Thread} (ht : s.waiting t = true) :
    ∃ s', Reaches b worlds program s s' ∧
      s'.answers = s.answers ++ [(t, .start (s.cell.rest b w s.paths).1)] := by
  have hfull : ∃ s', Reaches b worlds program s s' ∧
      s'.cell = .full (s.cell.rest b w s.paths).1 ∧
      s'.waiting = s.waiting ∧ s'.answers = s.answers := by
    cases hcell : s.cell with
    | empty =>
        have hbegun : ({ s with cell := .filling t .begun, attempts := s.attempts ++ [t] } :
            State).cell = .filling t .begun := rfl
        obtain ⟨s', hreach, hfull⟩ := reaches_full_of_filling b hw hbegun
        exact ⟨s', .head (.enter t ht hcell) hreach, hfull⟩
    | filling owner attempt => exact reaches_full_of_filling b hw hcell
    | full outcome => exact ⟨s, .refl, hcell, rfl, rfl⟩
  obtain ⟨s', hreach, hcell, hwaiting, hanswers⟩ := hfull
  refine ⟨_, .tail hreach (.finish t _ (hwaiting ▸ ht) hcell), ?_⟩
  rw [State.answer, hanswers]

end NativeBootstrap.Concurrency
