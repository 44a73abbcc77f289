import NativeBootstrap.Proofs.Concurrency.Interleaving
import NativeBootstrap.Proofs.Session.Runs

/-!
# Attempts step by step

Two facts on a single attempt, whatever other threads do in the meantime. In a world that stands
still, a step does not change what the attempt comes to (`rest_advance`), so that the steps add up to
`Session.attempt`. And how far an attempt has come tells which paths it handed over (`Accounted`),
even if each of its steps meets another world (`Accounted.advance`).
-/

set_option autoImplicit false

namespace NativeBootstrap.Concurrency

variable (b : Bootstrap)

/-! ## What a step does -/

section Advance

variable {w : World} (earlier : List Path)

attribute [local simp] Attempt.advance

theorem advance_begun_of_error {error : BootstrapError} (h : (b.resolve w).value = .error error) :
    Attempt.begun.advance b w earlier = (.ended (.error error), []) := by
  simp [h]

theorem advance_begun_of_ok {plan : LoadPlan} (h : (b.resolve w).value = .ok plan) :
    Attempt.begun.advance b w earlier = (.planned plan, []) := by
  simp [h]

theorem advance_planned_of_not_directory {plan : LoadPlan}
    (h : w.isDirectory plan.libsDir = false) :
    (Attempt.planned plan).advance b w earlier =
      (.ended (.error (.unresolved (.notDirectory plan.libsDir))), []) := by
  simp [h]

theorem advance_planned_of_directory {plan : LoadPlan} (h : w.isDirectory plan.libsDir = true) :
    (Attempt.planned plan).advance b w earlier = (.loading plan [], []) := by
  simp [h]

variable {plan : LoadPlan} {libraries : List Library}

theorem advance_loading_of_none (h : plan.entries[libraries.length]? = none) :
    (Attempt.loading plan libraries).advance b w earlier =
      (.ended (.ok ⟨plan, libraries⟩), []) := by
  simp [h]

theorem advance_loading_of_error {entry : PlanEntry} {failure : LoadFailure}
    (h : plan.entries[libraries.length]? = some entry)
    (hload : b.loader.load w earlier entry.path = .error failure) :
    (Attempt.loading plan libraries).advance b w earlier =
      (.ended (.error (.load libraries.length entry.path failure)), [entry.path]) := by
  simp [h, hload]

theorem advance_loading_of_ok {entry : PlanEntry} {library : Library}
    (h : plan.entries[libraries.length]? = some entry)
    (hload : b.loader.load w earlier entry.path = .ok library) :
    (Attempt.loading plan libraries).advance b w earlier =
      (.loading plan (libraries ++ [library]), [entry.path]) := by
  simp [h, hload]

theorem advance_ended (outcome : Except BootstrapError Loaded) :
    (Attempt.ended outcome).advance b w earlier = (.ended outcome, []) :=
  rfl

end Advance

/-! ## Worlds that stand still -/

/-- A step of an attempt leaves what the attempt comes to: the outcome is that of the attempt after
the step, and the paths handed over by the step come before those still to be handed over. -/
theorem rest_advance (w : World) (earlier : List Path) (attempt : Attempt) :
    attempt.rest b w earlier =
      (((attempt.advance b w earlier).1.rest b w
          (earlier ++ (attempt.advance b w earlier).2)).1,
        (attempt.advance b w earlier).2 ++
          ((attempt.advance b w earlier).1.rest b w
            (earlier ++ (attempt.advance b w earlier).2)).2) := by
  cases attempt with
  | begun =>
      show (Session.attempt b w earlier).value = _
      cases hresolve : (b.resolve w).value with
      | error error =>
          rw [Session.attempt_of_resolve_error b hresolve, advance_begun_of_error b earlier hresolve]
          rfl
      | ok plan =>
          rw [Session.attempt_of_resolve_ok b hresolve, advance_begun_of_ok b earlier hresolve,
            List.append_nil, List.nil_append]
          rfl
  | planned plan =>
      show load b.loader w earlier plan = _
      cases hdir : w.isDirectory plan.libsDir with
      | false =>
          rw [load_of_not_directory b.loader w hdir,
            advance_planned_of_not_directory b earlier hdir]
          rfl
      | true =>
          rw [load_of_directory b.loader w hdir, advance_planned_of_directory b earlier hdir,
            List.append_nil, List.nil_append]
          rfl
  | loading plan libraries =>
      -- The entries still to be loaded are either none, or the next one and those after it.
      cases hentry : plan.entries[libraries.length]? with
      | none =>
          have hdrop : plan.entries.drop libraries.length = [] :=
            List.drop_eq_nil_iff.2 (List.getElem?_eq_none_iff.1 hentry)
          rw [advance_loading_of_none b earlier hentry]
          simp [Attempt.rest, hdrop, loadEntries, Except.map]
      | some entry =>
          obtain ⟨hlt, hget⟩ := List.getElem?_eq_some_iff.1 hentry
          have hdrop : plan.entries.drop libraries.length =
              entry :: plan.entries.drop (libraries.length + 1) := by
            rw [List.drop_eq_getElem_cons hlt, hget]
          cases hload : b.loader.load w earlier entry.path with
          | error failure =>
              rw [advance_loading_of_error b earlier hentry hload]
              simp [hload, Attempt.rest, hdrop, loadEntries, Except.map]
          | ok library =>
              rw [advance_loading_of_ok b earlier hentry hload]
              simp only [hload, Attempt.rest, hdrop, loadEntries, List.length_append,
                List.length_singleton]
              cases loadEntries b.loader w (libraries.length + 1) (earlier ++ [entry.path])
                  (plan.entries.drop (libraries.length + 1)) with
              | mk result handed => cases result <;> simp [Except.map]
  | ended outcome => rfl

/-- What a cell comes to in a world that stands still: the outcome, and the paths still to be handed
over. -/
def Cell.rest (b : Bootstrap) (w : World) (earlier : List Path) :
    Cell → Except BootstrapError Loaded × List Path
  | .empty => Attempt.begun.rest b w earlier
  | .filling _ attempt => attempt.rest b w earlier
  | .full outcome => (outcome, [])

/-! ## Worlds that change -/

/-- How far an attempt can have come, and the paths it handed over for that, where each of its steps
met one of these worlds. The plan is that of the world of the first step. -/
inductive Accounted (b : Bootstrap) (worlds : World → Prop) : Attempt → List Path → Prop where
  | begun : Accounted b worlds .begun []
  | planned {w : World} {plan : LoadPlan} :
      worlds w → (b.resolve w).value = .ok plan → Accounted b worlds (.planned plan) []
  | loading {w : World} {plan : LoadPlan} {libraries : List Library} :
      worlds w → (b.resolve w).value = .ok plan → libraries.length ≤ plan.entries.length →
      Accounted b worlds (.loading plan libraries)
        ((plan.entries.take libraries.length).map PlanEntry.path)
  | ready {w : World} {plan : LoadPlan} {libraries : List Library} :
      worlds w → (b.resolve w).value = .ok plan → libraries.length = plan.entries.length →
      Accounted b worlds (.ended (.ok ⟨plan, libraries⟩)) (plan.entries.map PlanEntry.path)
  | unresolved {w : World} {error : BootstrapError} :
      worlds w → (b.resolve w).value = .error error →
      Accounted b worlds (.ended (.error error)) []
  | notDirectory {w : World} {plan : LoadPlan} :
      worlds w → (b.resolve w).value = .ok plan →
      Accounted b worlds (.ended (.error (.unresolved (.notDirectory plan.libsDir)))) []
  | stopped {w : World} {plan : LoadPlan} {index : Nat} {entry : PlanEntry}
      {failure : LoadFailure} :
      worlds w → (b.resolve w).value = .ok plan → plan.entries[index]? = some entry →
      Accounted b worlds (.ended (.error (.load index entry.path failure)))
        ((plan.entries.take (index + 1)).map PlanEntry.path)

variable {b} {worlds : World → Prop}

theorem take_succ_of_getElem? {entries : List PlanEntry} {index : Nat} {entry : PlanEntry}
    (h : entries[index]? = some entry) :
    (entries.take (index + 1)).map PlanEntry.path =
      (entries.take index).map PlanEntry.path ++ [entry.path] := by
  rw [List.take_add_one, h, Option.toList_some, List.map_append, List.map_singleton]

/-- A step of an attempt adds to its account what it hands over. -/
theorem Accounted.advance {attempt : Attempt} {paths : List Path}
    (h : Accounted b worlds attempt paths) {w : World} (hw : worlds w) (earlier : List Path) :
    Accounted b worlds (attempt.advance b w earlier).1
      (paths ++ (attempt.advance b w earlier).2) := by
  cases h with
  | begun =>
      cases hresolve : (b.resolve w).value with
      | error error =>
          rw [advance_begun_of_error b earlier hresolve]
          exact .unresolved hw hresolve
      | ok plan =>
          rw [advance_begun_of_ok b earlier hresolve]
          exact .planned hw hresolve
  | @planned v plan hv hplan =>
      cases hdir : w.isDirectory plan.libsDir with
      | false =>
          rw [advance_planned_of_not_directory b earlier hdir]
          exact .notDirectory hv hplan
      | true =>
          rw [advance_planned_of_directory b earlier hdir]
          exact .loading hv hplan (Nat.zero_le _)
  | @loading v plan libraries hv hplan hle =>
      cases hentry : plan.entries[libraries.length]? with
      | none =>
          have heq : libraries.length = plan.entries.length :=
            Nat.le_antisymm hle (List.getElem?_eq_none_iff.1 hentry)
          rw [advance_loading_of_none b earlier hentry, List.append_nil, heq, List.take_length]
          exact .ready hv hplan heq
      | some entry =>
          have hlt : libraries.length < plan.entries.length :=
            (List.getElem?_eq_some_iff.1 hentry).1
          cases hload : b.loader.load w earlier entry.path with
          | error failure =>
              rw [advance_loading_of_error b earlier hentry hload, ← take_succ_of_getElem? hentry]
              exact .stopped hv hplan hentry
          | ok library =>
              have hlength : (libraries ++ [library]).length = libraries.length + 1 :=
                List.length_append
              rw [advance_loading_of_ok b earlier hentry hload, ← take_succ_of_getElem? hentry,
                ← hlength]
              exact .loading hv hplan (hlength ▸ hlt)
  | ready hv hplan heq =>
      rw [advance_ended, List.append_nil]
      exact .ready hv hplan heq
  | unresolved hv hplan => exact .unresolved hv hplan
  | notDirectory hv hplan => exact .notDirectory hv hplan
  | stopped hv hplan hentry =>
      rw [advance_ended, List.append_nil]
      exact .stopped hv hplan hentry

/-- The paths of an account are the first paths of a plan. -/
theorem Accounted.paths_eq {attempt : Attempt} {paths : List Path}
    (h : Accounted b worlds attempt paths) :
    paths = [] ∨ ∃ w plan count, worlds w ∧ (b.resolve w).value = .ok plan ∧
      count ≤ plan.entries.length ∧
      paths = (plan.entries.take count).map PlanEntry.path := by
  cases h with
  | begun => exact Or.inl rfl
  | planned => exact Or.inl rfl
  | @loading v plan libraries hv hplan hle => exact Or.inr ⟨v, plan, _, hv, hplan, hle, rfl⟩
  | @ready v plan libraries hv hplan _ =>
      exact Or.inr ⟨v, plan, _, hv, hplan, Nat.le_refl _, by rw [List.take_length]⟩
  | unresolved => exact Or.inl rfl
  | notDirectory => exact Or.inl rfl
  | @stopped v plan index entry failure hv hplan hentry =>
      exact Or.inr ⟨v, plan, _, hv, hplan, (List.getElem?_eq_some_iff.1 hentry).1, rfl⟩

/-- An attempt that ended well has one library for each entry. -/
theorem Accounted.length_eq {loaded : Loaded} {paths : List Path}
    (h : Accounted b worlds (.ended (.ok loaded)) paths) :
    loaded.libraries.length = loaded.plan.entries.length := by
  cases h with
  | ready _ _ heq => exact heq

end NativeBootstrap.Concurrency
