import Mathlib.Logic.Function.Basic
import Mathlib.Logic.Relation
import NativeBootstrap.Session

/-!
# Threads that share one session

Any number of threads share one bootstrap. Its outcome stands in a cell that is filled once. Of the
cell only this is assumed: one attempt to fill it is made at a time, its outcome is published once,
and a thread that starts the session while an attempt is under way waits for it. Looking at the
phase or the libraries never waits, and may come at any moment of an attempt.

An attempt goes in steps (`Attempt.advance`): resolving, the check of the directory, one step for
each library, and the end. Each step meets a world of its own, so that files and the working
directory may change between any two steps. `Step` is one step of one thread, and an interleaving is
a sequence of steps. A thread follows a program, which picks the next call by the answers so far.

In a world that stands still the steps of an attempt add up to `Session.attempt` (`rest_advance`).
-/

set_option autoImplicit false

namespace NativeBootstrap.Concurrency

/-- A thread, by its number. -/
abbrev Thread := Nat

/-- A call that a thread makes. -/
inductive Call where
  | start
  | phase
  | libraries
  deriving DecidableEq, Repr

/-- What a call returned. -/
inductive Answer where
  | start (outcome : Except BootstrapError Loaded)
  | phase (phase : Phase)
  | libraries (result : Except CallError Loaded)

/-- The program of a thread: the call it makes after these answers, oldest first, or none. -/
abbrev Program := List Answer → Option Call

/-! ## Attempts in steps -/

/-- How far an attempt has come: nothing is done yet; the plan is known; the directory is there and
these libraries are loaded; or it ended with an outcome, which is not published yet. -/
inductive Attempt where
  | begun
  | planned (plan : LoadPlan)
  | loading (plan : LoadPlan) (libraries : List Library)
  | ended (outcome : Except BootstrapError Loaded)

/-- One step of an attempt, and the paths it hands to the loader, which was handed `earlier` before.
An attempt that ended stays as it is. -/
def Attempt.advance (b : Bootstrap) (w : World) (earlier : List Path) :
    Attempt → Attempt × List Path
  | .begun =>
    match (b.resolve w).value with
    | .ok plan => (.planned plan, [])
    | .error error => (.ended (.error error), [])
  | .planned plan =>
    if w.isDirectory plan.libsDir then (.loading plan [], [])
    else (.ended (.error (.unresolved (.notDirectory plan.libsDir))), [])
  | .loading plan libraries =>
    match plan.entries[libraries.length]? with
    | none => (.ended (.ok ⟨plan, libraries⟩), [])
    | some entry =>
      match b.loader.load w earlier entry.path with
      | .ok library => (.loading plan (libraries ++ [library]), [entry.path])
      | .error failure =>
        (.ended (.error (.load libraries.length entry.path failure)), [entry.path])
  | .ended outcome => (.ended outcome, [])

/-- What the rest of an attempt comes to in a world that stands still: the outcome, and the paths
still to be handed over. -/
def Attempt.rest (b : Bootstrap) (w : World) (earlier : List Path) :
    Attempt → Except BootstrapError Loaded × List Path
  | .begun => (Session.attempt b w earlier).value
  | .planned plan => load b.loader w earlier plan
  | .loading plan libraries =>
    let (result, handed) :=
      loadEntries b.loader w libraries.length earlier (plan.entries.drop libraries.length)
    (result.map fun more => ⟨plan, libraries ++ more⟩, handed)
  | .ended outcome => (outcome, [])

/-! ## Shared states -/

/-- The cell of the outcome: nothing in it, an attempt under way and the thread that makes it, or an
outcome. -/
inductive Cell where
  | empty
  | filling (owner : Thread) (attempt : Attempt)
  | full (outcome : Except BootstrapError Loaded)

/-- What a look into the cell finds; an attempt under way does not show. -/
def Cell.outcome? : Cell → Option (Except BootstrapError Loaded)
  | .empty => none
  | .filling _ _ => none
  | .full outcome => some outcome

/-- What the threads share, and the ledgers: the threads that made an attempt, the paths handed to
the loader with the thread that handed them over, and the answers of all threads, oldest first. -/
structure State where
  cell : Cell
  /-- The threads that called for a start and have no answer yet. -/
  waiting : Thread → Bool
  attempts : List Thread
  handed : List (Thread × Path)
  answers : List (Thread × Answer)

/-- The state in which no thread has done anything. -/
def State.initial : State := ⟨.empty, fun _ => false, [], [], []⟩

/-- The paths handed to the loader. -/
def State.paths (s : State) : List Path := s.handed.map Prod.snd

/-- The session as a look from outside finds it. -/
def State.session (s : State) : Session := ⟨s.cell.outcome?, s.paths, []⟩

/-- The next call of a thread that waits for no answer. -/
def State.nextCall (program : Thread → Program) (s : State) (t : Thread) : Option Call :=
  if s.waiting t then none
  else program t ((s.answers.filter fun answer => answer.1 == t).map Prod.snd)

/-- The state after an answer to a thread. -/
def State.answer (s : State) (t : Thread) (answer : Answer) : State :=
  { s with answers := s.answers ++ [(t, answer)] }

/-- One step of one thread, where the steps of attempts may meet these worlds. -/
inductive Step (b : Bootstrap) (worlds : World → Prop) (program : Thread → Program) :
    State → State → Prop where
  /-- A thread calls for a start, and waits from then on. -/
  | call {s : State} (t : Thread) :
      s.nextCall program t = some .start →
      Step b worlds program s { s with waiting := Function.update s.waiting t true }
  /-- A waiting thread that finds the cell empty begins an attempt. -/
  | enter {s : State} (t : Thread) :
      s.waiting t = true → s.cell = .empty →
      Step b worlds program s
        { s with cell := .filling t .begun, attempts := s.attempts ++ [t] }
  /-- The attempt goes one step further. -/
  | advance {s : State} (owner : Thread) (attempt : Attempt) (w : World) :
      s.cell = .filling owner attempt → worlds w →
      Step b worlds program s
        { s with
          cell := .filling owner (attempt.advance b w s.paths).1
          handed := s.handed ++ (attempt.advance b w s.paths).2.map (owner, ·) }
  /-- The attempt has ended, and its outcome is published. -/
  | publish {s : State} (owner : Thread) (outcome : Except BootstrapError Loaded) :
      s.cell = .filling owner (.ended outcome) →
      Step b worlds program s { s with cell := .full outcome }
  /-- A waiting thread is told the outcome. -/
  | finish {s : State} (t : Thread) (outcome : Except BootstrapError Loaded) :
      s.waiting t = true → s.cell = .full outcome →
      Step b worlds program s
        (State.answer { s with waiting := Function.update s.waiting t false } t (.start outcome))
  /-- A thread looks at the phase. -/
  | phase {s : State} (t : Thread) :
      s.nextCall program t = some .phase →
      Step b worlds program s (s.answer t (.phase s.session.phase))
  /-- A thread looks at the libraries. -/
  | libraries {s : State} (t : Thread) :
      s.nextCall program t = some .libraries →
      Step b worlds program s (s.answer t (.libraries s.session.libraries))

/-- The states that interleavings lead to from a state. -/
abbrev Reaches (b : Bootstrap) (worlds : World → Prop) (program : Thread → Program) :
    State → State → Prop :=
  Relation.ReflTransGen (Step b worlds program)

end NativeBootstrap.Concurrency
