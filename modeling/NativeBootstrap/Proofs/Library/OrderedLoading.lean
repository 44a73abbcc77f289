import NativeBootstrap.Library.Loaded

/-!
# Ordered loading

`loadEntries` hands the paths of the entries to the loader in plan order, and stops at the first one
that is turned down. `Accepts` says, without the recursion, that a loader gives certain libraries
for certain entries; each answer may depend on all paths handed over before. Of a list of entries
either all are accepted, or there is a first one that is not (`loadEntries_cases`).

For a plan this means: the paths handed over are the first paths of the plan (`isPrefix_handed_load`),
and all of them if the load succeeds (`of_load_eq_ok`).

`Loader.answers` lists what a loader answers to each entry, if it is asked for all of them in order.
The main statement, `load_stops_at_first_rejection`, reads the whole outcome of a load off this list:
its first rejection is the error, and the paths up to it are those handed over; if there is none, the
list is the libraries.
-/

set_option autoImplicit false

namespace NativeBootstrap

/-- A loader that was handed the paths `earlier` before gives these libraries for these entries, one
after the other. -/
inductive Accepts (loader : Loader) (w : World) :
    List Path → List PlanEntry → List Library → Prop where
  | nil (earlier : List Path) : Accepts loader w earlier [] []
  | cons {earlier : List Path} {entry : PlanEntry} {library : Library} {rest : List PlanEntry}
      {libraries : List Library} :
      loader.load w earlier entry.path = .ok library →
      Accepts loader w (earlier ++ [entry.path]) rest libraries →
      Accepts loader w earlier (entry :: rest) (library :: libraries)

/-- One library for each accepted entry. -/
theorem Accepts.length_eq {loader : Loader} {w : World} {earlier : List Path}
    {entries : List PlanEntry} {libraries : List Library}
    (h : Accepts loader w earlier entries libraries) : libraries.length = entries.length := by
  induction h with
  | nil earlier => rfl
  | cons _ _ ih => rw [List.length_cons, List.length_cons, ih]

variable (loader : Loader) (w : World)

/-- Either every entry is accepted and every path is handed over, or there is a first entry that is
turned down: the paths up to its own are handed over, and none after it. -/
theorem loadEntries_cases (index : Nat) (earlier : List Path) (entries : List PlanEntry) :
    (∃ libraries, Accepts loader w earlier entries libraries ∧
      loadEntries loader w index earlier entries =
        (.ok libraries, entries.map PlanEntry.path)) ∨
    ∃ before entry after libraries failure,
      entries = before ++ entry :: after ∧
      Accepts loader w earlier before libraries ∧
      loader.load w (earlier ++ before.map PlanEntry.path) entry.path = .error failure ∧
      loadEntries loader w index earlier entries =
        (.error (.load (index + before.length) entry.path failure),
          before.map PlanEntry.path ++ [entry.path]) := by
  -- The index and the earlier paths grow on the way, so the induction is for all of them.
  induction entries generalizing index earlier with
  | nil => exact Or.inl ⟨[], .nil earlier, rfl⟩
  | cons entry rest ih =>
      cases hload : loader.load w earlier entry.path with
      | error failure =>
          refine Or.inr ⟨[], entry, rest, [], failure, rfl, .nil earlier, ?_, ?_⟩
          · simpa using hload
          · simp [loadEntries, hload]
      | ok library =>
          have hstep : loadEntries loader w index earlier (entry :: rest) =
              (((loadEntries loader w (index + 1) (earlier ++ [entry.path]) rest).1.map
                  (library :: ·)),
                entry.path ::
                  (loadEntries loader w (index + 1) (earlier ++ [entry.path]) rest).2) := by
            simp only [loadEntries, hload]
          rw [hstep]
          rcases ih (index + 1) (earlier ++ [entry.path]) with
            ⟨libraries, hacc, hrest⟩ | ⟨before, bad, after, libraries, failure, hsplit, hacc, hbad, hrest⟩
          · refine Or.inl ⟨library :: libraries, .cons hload hacc, ?_⟩
            rw [hrest]
            rfl
          · refine Or.inr ⟨entry :: before, bad, after, library :: libraries, failure, ?_,
              .cons hload hacc, ?_, ?_⟩
            · rw [hsplit, List.cons_append]
            · simpa using hbad
            · rw [hrest, List.length_cons, Nat.add_assoc, Nat.add_comm 1]
              rfl

/-! ## Plans -/

/-- A load looks at the directory first, and then only at the entries. -/
theorem load_of_directory {plan : LoadPlan} (h : w.isDirectory plan.libsDir = true)
    (earlier : List Path) :
    load loader w earlier plan =
      ((loadEntries loader w 0 earlier plan.entries).1.map (⟨plan, ·⟩),
        (loadEntries loader w 0 earlier plan.entries).2) := by
  simp only [load, h, ↓reduceIte]

theorem load_of_not_directory {plan : LoadPlan} (h : w.isDirectory plan.libsDir = false)
    (earlier : List Path) :
    load loader w earlier plan = (.error (.unresolved (.notDirectory plan.libsDir)), []) := by
  simp [load, h]

/-- The paths handed over are the first paths of the plan, in order. -/
theorem isPrefix_handed_load (earlier : List Path) (plan : LoadPlan) :
    (load loader w earlier plan).2 <+: plan.entries.map PlanEntry.path := by
  cases hdir : w.isDirectory plan.libsDir with
  | false =>
      rw [load_of_not_directory loader w hdir]
      exact List.nil_prefix
  | true =>
      rw [load_of_directory loader w hdir]
      rcases loadEntries_cases loader w 0 earlier plan.entries with
        ⟨libraries, -, h⟩ | ⟨before, entry, after, libraries, failure, hsplit, -, -, h⟩
      · exact (congrArg Prod.snd h) ▸ List.prefix_refl _
      · rw [h, hsplit]
        exact ⟨after.map PlanEntry.path, by simp⟩

/-- A load that succeeds keeps the plan, hands over all of its paths, and gives the libraries that
the loader gave. -/
theorem of_load_eq_ok {earlier : List Path} {plan : LoadPlan} {loaded : Loaded}
    (h : (load loader w earlier plan).1 = .ok loaded) :
    loaded.plan = plan ∧ Accepts loader w earlier plan.entries loaded.libraries ∧
      (load loader w earlier plan).2 = plan.entries.map PlanEntry.path := by
  cases hdir : w.isDirectory plan.libsDir with
  | false =>
      rw [load_of_not_directory loader w hdir] at h
      cases h
  | true =>
      rw [load_of_directory loader w hdir] at h ⊢
      rcases loadEntries_cases loader w 0 earlier plan.entries with
        ⟨libraries, hacc, hrun⟩ | ⟨before, entry, after, libraries, failure, -, -, -, hrun⟩
      · rw [hrun] at h ⊢
        cases h
        exact ⟨rfl, hacc, rfl⟩
      · rw [hrun] at h
        cases h

/-! ## The answers of a loader -/

/-- What a loader that was handed the paths `earlier` before answers to each entry, if it is handed
the paths of all entries in order. -/
def Loader.answers (loader : Loader) (w : World) (earlier : List Path) (entries : List PlanEntry) :
    List (Except LoadFailure Library) :=
  entries.mapIdx fun k entry =>
    loader.load w (earlier ++ (entries.take k).map PlanEntry.path) entry.path

theorem Loader.answers_cons (earlier : List Path) (entry : PlanEntry) (entries : List PlanEntry) :
    loader.answers w earlier (entry :: entries) =
      loader.load w earlier entry.path :: loader.answers w (earlier ++ [entry.path]) entries := by
  simp [Loader.answers, List.mapIdx_cons]

variable {loader w}

/-- Where entries are accepted, the answers to them are their libraries; the answers to what follows
do not change these. -/
theorem Accepts.answers_append {earlier : List Path} {entries : List PlanEntry}
    {libraries : List Library} (h : Accepts loader w earlier entries libraries)
    (more : List PlanEntry) :
    loader.answers w earlier (entries ++ more) =
      libraries.map .ok ++ loader.answers w (earlier ++ entries.map PlanEntry.path) more := by
  induction h with
  | nil earlier => simp
  | cons hload _ ih =>
      rw [List.cons_append, Loader.answers_cons, hload, ih]
      simp

theorem Accepts.answers_eq {earlier : List Path} {entries : List PlanEntry}
    {libraries : List Library} (h : Accepts loader w earlier entries libraries) :
    loader.answers w earlier entries = libraries.map .ok := by
  simpa [Loader.answers] using h.answers_append []

/-- The first failure behind answers that are none stands right behind them. -/
theorem eq_of_first_error {libraries : List Library} {failure found : LoadFailure}
    {rest : List (Except LoadFailure Library)} {k : Nat}
    (hk : (libraries.map .ok ++ .error failure :: rest)[k]? = some (.error found))
    (hfirst : ∀ j < k, ∀ rejection,
      (libraries.map .ok ++ .error failure :: rest)[j]? ≠ some (.error rejection)) :
    k = libraries.length ∧ found = failure := by
  have hlength : (libraries.map .ok : List (Except LoadFailure Library)).length =
      libraries.length := List.length_map _
  have hbad : (libraries.map .ok ++ .error failure :: rest)[libraries.length]? =
      some (.error failure) := by
    rw [List.getElem?_append_right (by omega), hlength, Nat.sub_self, List.getElem?_cons_zero]
  rcases Nat.lt_trichotomy k libraries.length with hlt | heq | hgt
  · rw [List.getElem?_append_left (by omega), List.getElem?_map] at hk
    obtain ⟨library, -, hlibrary⟩ := Option.map_eq_some_iff.1 hk
    cases hlibrary
  · subst heq
    rw [hbad] at hk
    cases hk
    exact ⟨rfl, rfl⟩
  · exact absurd hbad (hfirst libraries.length hgt failure)

/-! ## Main statement -/

variable (loader w)

/-- **A load goes in order and stops at the first failure.** If the directory of the libraries is
none, that is the error, and the loader is handed nothing. Otherwise, if `k` is the first entry that
the loader turns down, the error names `k`, its path and the loader's own reason, and the loader was
handed the paths of the entries up to `k`, in order, and none behind it. If no entry is turned down,
the load keeps the plan, gives what the loader gave for each entry, in order, and the loader was
handed the paths of all entries, in order. -/
theorem load_stops_at_first_rejection (earlier : List Path) (plan : LoadPlan) :
    (w.isDirectory plan.libsDir = false →
      load loader w earlier plan = (.error (.unresolved (.notDirectory plan.libsDir)), [])) ∧
    (w.isDirectory plan.libsDir = true →
      (∀ (k : Nat) (failure : LoadFailure),
        (loader.answers w earlier plan.entries)[k]? = some (.error failure) →
        (∀ j < k, ∀ rejection,
          (loader.answers w earlier plan.entries)[j]? ≠ some (.error rejection)) →
        ∃ entry, plan.entries[k]? = some entry ∧
          load loader w earlier plan =
            (.error (.load k entry.path failure),
              (plan.entries.take (k + 1)).map PlanEntry.path)) ∧
      ((∀ failure, .error failure ∉ loader.answers w earlier plan.entries) →
        ∃ libraries, loader.answers w earlier plan.entries = libraries.map .ok ∧
          load loader w earlier plan =
            (.ok ⟨plan, libraries⟩, plan.entries.map PlanEntry.path))) := by
  refine ⟨fun hdir => load_of_not_directory loader w hdir earlier, ?_⟩
  intro hdir
  rw [load_of_directory loader w hdir]
  rcases loadEntries_cases loader w 0 earlier plan.entries with
    ⟨libraries, haccepted, hrun⟩ |
    ⟨before, entry, after, libraries, failure, hsplit, haccepted, hbad, hrun⟩
  · -- Every entry is accepted, so no answer is a failure.
    rw [hrun, haccepted.answers_eq]
    refine ⟨?_, fun _ => ⟨libraries, rfl, rfl⟩⟩
    intro k failure hk
    rw [List.getElem?_map] at hk
    obtain ⟨library, -, hlibrary⟩ := Option.map_eq_some_iff.1 hk
    cases hlibrary
  · -- The entry behind `before` is the first one that is turned down.
    have hanswers : loader.answers w earlier plan.entries =
        libraries.map .ok ++ .error failure ::
          loader.answers w (earlier ++ before.map PlanEntry.path ++ [entry.path]) after := by
      rw [hsplit, haccepted.answers_append, Loader.answers_cons, hbad]
    rw [hanswers]
    constructor
    · intro k found hk hfirst
      obtain ⟨rfl, rfl⟩ := eq_of_first_error hk hfirst
      rw [haccepted.length_eq, hrun, hsplit]
      refine ⟨entry, by simp, ?_⟩
      have htake : (before ++ entry :: after).take (before.length + 1) = before ++ [entry] := by
        simp [List.take_append, List.take_of_length_le (Nat.le_succ _)]
      rw [htake, Nat.zero_add, List.map_append]
      rfl
    · intro hnone
      exact absurd (by simp) (hnone failure)

end NativeBootstrap
