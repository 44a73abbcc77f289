import Mathlib.Data.List.Forall2
import NativeBootstrap.Settings

/-!
# Settings are written once

A list of requests to a store of settings has two parts. Up to the first `set` every access is told
that nothing is held, and leaves the store empty (`Unset`). From the first `set` on every access reads
the settings of that one, and every other `set` is refused (`Holding`). A step keeps a store within its
part, except that the first `set` takes it from one to the other, and both parts follow by induction.

The main statement is `first_settings_stay`.
-/

set_option autoImplicit false

namespace NativeBootstrap.SettingsStore

/-- The replies while nothing is held. A `set` has none of them. -/
inductive Unset : Request → Reply → Prop where
  | get : Unset .get (.get (.error .notSet))
  | bootstrapOptions : Unset .bootstrapOptions (.bootstrapOptions (.error .notSet))

/-- The replies while these settings are held. -/
inductive Holding (settings : Settings) : Request → Reply → Prop where
  | set (arguments : CommandLine.Arguments) :
      Holding settings (.set arguments) (.set (.error .alreadySet))
  | get : Holding settings .get (.get (.ok settings))
  | bootstrapOptions :
      Holding settings .bootstrapOptions (.bootstrapOptions (.ok ⟨none, settings.artifact⟩))

/-! ## One request -/

/-- An access to an empty store is refused, and the store stays empty. -/
theorem step_of_empty {request : Request} (haccess : ∀ arguments, request ≠ .set arguments) :
    Unset request (empty.step request).1 ∧ (empty.step request).2 = empty := by
  cases request with
  | set arguments => exact absurd rfl (haccess arguments)
  | get => exact ⟨.get, rfl⟩
  | bootstrapOptions => exact ⟨.bootstrapOptions, rfl⟩

/-- No request replaces the settings that are held. -/
theorem step_of_held (settings : Settings) (request : Request) :
    Holding settings request (step ⟨some settings⟩ request).1 ∧
      (step ⟨some settings⟩ request).2 = ⟨some settings⟩ := by
  cases request with
  | set arguments => exact ⟨.set arguments, rfl⟩
  | get => exact ⟨.get, rfl⟩
  | bootstrapOptions => exact ⟨.bootstrapOptions, rfl⟩

/-! ## Many requests -/

theorem run_cons (store : SettingsStore) (request : Request) (rest : List Request) :
    store.run (request :: rest)
      = ((store.step request).1 :: (run (store.step request).2 rest).1,
          (run (store.step request).2 rest).2) :=
  rfl

theorem run_append (store : SettingsStore) (first second : List Request) :
    store.run (first ++ second)
      = ((store.run first).1 ++ (run (store.run first).2 second).1,
          (run (store.run first).2 second).2) := by
  induction first generalizing store with
  | nil => rfl
  | cons request rest ih => simp [run_cons, ih]

theorem run_of_empty (requests : List Request)
    (haccess : ∀ arguments, .set arguments ∉ requests) :
    List.Forall₂ Unset requests (empty.run requests).1 ∧ (empty.run requests).2 = empty := by
  induction requests with
  | nil => exact ⟨.nil, rfl⟩
  | cons request rest ih =>
      have hrequest : ∀ arguments, request ≠ .set arguments := by
        intro arguments heq
        apply haccess arguments
        simp [heq]
      have hrest : ∀ arguments, .set arguments ∉ rest := by
        intro arguments hmem
        exact haccess arguments (List.mem_cons_of_mem request hmem)
      obtain ⟨hreply, hstore⟩ := step_of_empty hrequest
      obtain ⟨hreplies, hlast⟩ := ih hrest
      rw [run_cons, hstore]
      exact ⟨.cons hreply hreplies, hlast⟩

theorem run_of_held (settings : Settings) (requests : List Request) :
    List.Forall₂ (Holding settings) requests (run ⟨some settings⟩ requests).1 ∧
      (run ⟨some settings⟩ requests).2 = ⟨some settings⟩ := by
  induction requests with
  | nil => exact ⟨.nil, rfl⟩
  | cons request rest ih =>
      obtain ⟨hreply, hstore⟩ := step_of_held settings request
      obtain ⟨hreplies, hlast⟩ := ih
      rw [run_cons, hstore]
      exact ⟨.cons hreply hreplies, hlast⟩

/-- Up to the first `set` every access is refused and the store stays empty, so that this `set`
succeeds. Whatever comes behind it, each access reads what its command line says, and each further
`set` is refused and changes nothing. -/
theorem first_settings_stay (before : List Request)
    (hbefore : ∀ arguments, .set arguments ∉ before) (arguments : CommandLine.Arguments)
    (after : List Request) :
    (List.Forall₂ Unset before (empty.run before).1 ∧ (empty.run before).2 = empty) ∧
      ∃ replies,
        (empty.run (before ++ .set arguments :: after)).1
          = (empty.run before).1 ++ .set (.ok ()) :: replies ∧
        List.Forall₂
          (Holding ⟨arguments.artifact.map Path.mk, arguments.plan, arguments.versionInfo⟩)
          after replies ∧
        (empty.run (before ++ .set arguments :: after)).2
          = ⟨some ⟨arguments.artifact.map Path.mk, arguments.plan, arguments.versionInfo⟩⟩ := by
  obtain ⟨hunset, hempty⟩ := run_of_empty before hbefore
  obtain ⟨hholding, hlast⟩ := run_of_held (.ofArguments arguments) after
  refine ⟨⟨hunset, hempty⟩, (run ⟨some (.ofArguments arguments)⟩ after).1, ?_, hholding, ?_⟩
  · rw [run_append, hempty]
    rfl
  · rw [run_append, hempty]
    exact hlast

/-- An access too early, the first command line, and another one that is refused. -/
theorem first_settings_stay_of_two_lines :
    let first : CommandLine.Arguments := ⟨some (Utf8.encode "/opt/shim.jar"), true, false⟩
    let second : CommandLine.Arguments := ⟨none, false, true⟩
    (∀ arguments, Request.set arguments ∉ [Request.get]) ∧
      ∃ replies, (empty.run ([.get] ++ .set first :: [.set second, .get])).1
        = (empty.run [.get]).1 ++ .set (.ok ()) :: replies ∧
        List.Forall₂ (Holding ⟨some ⟨Utf8.encode "/opt/shim.jar"⟩, true, false⟩)
          [.set second, .get] replies := by
  intro first second
  have hbefore : ∀ arguments, Request.set arguments ∉ [Request.get] := by simp
  obtain ⟨-, replies, hreplies, hholding, -⟩ :=
    first_settings_stay [.get] hbefore first [.set second, .get]
  exact ⟨hbefore, replies, hreplies, hholding⟩

end NativeBootstrap.SettingsStore
