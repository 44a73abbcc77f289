import NativeBootstrap.Proofs.Resolution.InstalledLayout
import NativeBootstrap.Proofs.Session.OneShot

/-!
# Hosts without libraries

Libraries are built for hosts whose system's name tells Windows, and for no others. The host is
looked at before anything else: where it has no libraries, resolving and the first start fail at once
(`Bootstrap.resolve_of_unsupported`, `Session.start_of_unsupported`), so that no artifact, no file, no
working directory and no loader can make a difference. Where it has libraries, every failure is
another one (`Bootstrap.resolve_error_cases`, `load_error_cases`), also after any requests, because
each outcome is that of an attempt (`Session.Attempted.run`).

The main statement is `unsupported_host_decides_alone`.
-/

set_option autoImplicit false

namespace NativeBootstrap

/-! ## What a host's name tells -/

namespace Host

variable {host : Host}

theorem family_of_linux (h : ¬ "Windows".toList <:+: host.osName.toList)
    (hlinux : "Linux".toList <:+: host.osName.toList) : host.descriptor.family = .linux := by
  show Family.ofSystemName host.osName = .linux
  rw [Family.ofSystemName, if_neg (mt Text.occursIn_iff.1 h), if_pos (Text.occursIn_iff.2 hlinux)]

theorem family_of_other (h : ¬ "Windows".toList <:+: host.osName.toList)
    (hlinux : ¬ "Linux".toList <:+: host.osName.toList) : host.descriptor.family = .other := by
  show Family.ofSystemName host.osName = .other
  rw [Family.ofSystemName, if_neg (mt Text.occursIn_iff.1 h), if_neg (mt Text.occursIn_iff.1 hlinux)]

theorem wordSize_eq_bits64_iff : host.descriptor.wordSize = .bits64 ↔ host.dataModel = "64" := by
  show WordSize.ofDataModel host.dataModel = .bits64 ↔ _
  by_cases hmodel : host.dataModel = "64"
  · simp [WordSize.ofDataModel, hmodel]
  · simp [WordSize.ofDataModel, hmodel]

/-- A descriptor is read off the name of the system and the data model alone. -/
theorem descriptor_congr {other : Host} (hname : host.osName = other.osName)
    (hmodel : host.dataModel = other.dataModel) : host.descriptor = other.descriptor := by
  rw [descriptor, descriptor, hname, hmodel]

end Host

/-- A host whose system's name does not tell Windows has no libraries. -/
theorem Variant.select?_of_not_windows {host : Host}
    (h : ¬ "Windows".toList <:+: host.osName.toList) : select? host.descriptor = none := by
  have hfamily : host.descriptor.family = .linux ∨ host.descriptor.family = .other := by
    by_cases hlinux : "Linux".toList <:+: host.osName.toList
    · exact Or.inl (Host.family_of_linux h hlinux)
    · exact Or.inr (Host.family_of_other h hlinux)
  rcases hfamily with hfamily | hfamily <;> simp [select?, hfamily]

/-! ## Without libraries for the host -/

/-- Without libraries for the host, resolving fails before it logs anything. -/
theorem Bootstrap.resolve_of_unsupported {b : Bootstrap}
    (h : Variant.select? b.host.descriptor = none) (w : World) :
    b.resolve w = ⟨.error (.unsupportedPlatform b.host.descriptor), []⟩ := by
  simp only [resolve, h]

namespace Session

/-- Without libraries for the host, a start that makes the attempt fails, and hands nothing to the
loader. -/
theorem start_of_unsupported {b : Bootstrap} (h : Variant.select? b.host.descriptor = none)
    {s : Session} (hs : s.outcome = none) (w : World) :
    s.start b w =
      (⟨.error (.unsupportedPlatform b.host.descriptor),
          [.resolving, .failed (.unsupportedPlatform b.host.descriptor)]⟩,
        { s with outcome := some (.error (.unsupportedPlatform b.host.descriptor)) }) := by
  have hattempt : attempt b w s.handed =
      ⟨(.error (.unsupportedPlatform b.host.descriptor), []),
        [.resolving, .failed (.unsupportedPlatform b.host.descriptor)]⟩ := by
    simp only [attempt, Bootstrap.resolve_of_unsupported h, List.flatMap_nil, List.append_nil]
    rfl
  rw [start_of_pending b hs, hattempt, List.append_nil]

end Session

/-! ## Failures by where they come from -/

/-- A load fails because its directory is none, or because of an entry. -/
theorem load_error_cases {loader : Loader} {w : World} {earlier : List Path} {plan : LoadPlan}
    {error : BootstrapError} (h : (load loader w earlier plan).1 = .error error) :
    error = .unresolved (.notDirectory plan.libsDir) ∨
      ∃ index path failure, error = .load index path failure := by
  cases hdir : w.isDirectory plan.libsDir with
  | false =>
      rw [load_of_not_directory loader w hdir] at h
      cases h
      exact Or.inl rfl
  | true =>
      rw [load_of_directory loader w hdir] at h
      rcases loadEntries_cases loader w 0 earlier plan.entries with
        ⟨libraries, -, hrun⟩ | ⟨before, entry, after, libraries, failure, -, -, -, hrun⟩
      · rw [hrun] at h
        cases h
      · rw [hrun] at h
        cases h
        exact Or.inr ⟨_, _, _, rfl⟩

/-- With libraries for the host, resolving fails only because no directory is found. -/
theorem Bootstrap.resolve_error_cases {b : Bootstrap} {w : World} {error : BootstrapError}
    (h : (b.resolve w).value = .error error) :
    Variant.select? b.host.descriptor = none ∨ ∃ failure, error = .unresolved failure := by
  cases hselect : Variant.select? b.host.descriptor with
  | none => exact Or.inl rfl
  | some variant =>
      obtain ⟨value, warnings, hresolve, hway⟩ := exists_resolves hselect w
      rw [hresolve] at h
      cases hway with
      | failed hfailure what =>
          cases h
          exact Or.inr ⟨_, rfl⟩
      | nonUnicode hdirectory hnone =>
          cases h
          exact Or.inr ⟨_, rfl⟩
      | planned hdirectory hroot => cases h

namespace Session

variable {b : Bootstrap}

/-- With libraries for the host, no attempt fails because there are none. -/
theorem attempt_ne_unsupported (h : Variant.select? b.host.descriptor ≠ none) (w : World)
    (earlier : List Path) (host : Host.Descriptor) :
    (attempt b w earlier).value.1 ≠ .error (.unsupportedPlatform host) := by
  intro hattempt
  cases hresolve : (b.resolve w).value with
  | error error =>
      rw [attempt_of_resolve_error b hresolve] at hattempt
      cases hattempt
      rcases Bootstrap.resolve_error_cases hresolve with hselect | ⟨failure, hfailure⟩
      · exact h hselect
      · cases hfailure
  | ok plan =>
      rw [attempt_of_resolve_ok b hresolve] at hattempt
      rcases load_error_cases hattempt with hfailure | ⟨index, path, failure, hfailure⟩
      · cases hfailure
      · cases hfailure

/-! ## Outcomes are those of attempts -/

/-- Whether an outcome, if there is one, is that of an attempt in some world. -/
def Attempted (b : Bootstrap) (s : Session) : Prop :=
  ∀ outcome, s.outcome = some outcome → ∃ w earlier, (attempt b w earlier).value.1 = outcome

theorem Attempted.step {s : Session} (h : Attempted b s) (w : World) (request : Request) :
    Attempted b (s.step b w request).2 := by
  intro outcome houtcome
  cases hs : s.outcome with
  | some settled =>
      rw [(step_of_settled b hs w request).1] at houtcome
      exact h outcome (hs.trans houtcome)
  | none =>
      by_cases hr : request = .start
      · subst hr
        change (s.start b w).2.outcome = some outcome at houtcome
        rw [start_of_pending b hs] at houtcome
        exact ⟨w, s.handed, Option.some.inj houtcome⟩
      · obtain ⟨calls, hstep⟩ := step_of_ne_start b s w hr
        rw [hstep] at houtcome
        exact h outcome houtcome

theorem Attempted.run {s : Session} (h : Attempted b s) (steps : List (World × Request)) :
    Attempted b (run b s steps).2 := by
  induction steps generalizing s with
  | nil => exact h
  | cons entry rest ih =>
      obtain ⟨w, request⟩ := entry
      rw [run_cons]
      exact ih (h.step w request)

theorem attempted_fresh (b : Bootstrap) : Attempted b fresh := by
  intro outcome houtcome
  cases houtcome

/-- A start answers with what an attempt came to. -/
theorem Attempted.start {s : Session} (h : Attempted b s) (w : World) :
    ∃ w' earlier, (attempt b w' earlier).value.1 = (s.start b w).1.value := by
  cases hs : s.outcome with
  | some outcome =>
      rw [start_of_settled b hs]
      exact h outcome hs
  | none =>
      rw [start_of_pending b hs]
      exact ⟨w, s.handed, rfl⟩

/-! ## Main statement -/

/-- **On a host without libraries nothing else matters.** Let a system's name not tell Windows. Then
resolving, and the first start after any other requests, fail for want of libraries: with the family
Linux if the name tells that, and another one if not, and with 64 bits exactly if the data model says
so. Resolving logs nothing; the start logs only that it began and failed, hands nothing to the loader,
and leaves the session failed. Two bootstraps for such hosts whose names and data models agree are
answered alike, with the same events, whatever their loaders, artifacts and worlds and whatever else
their hosts are. If the name tells Windows, neither resolving nor any start ever fails so. -/
theorem unsupported_host_decides_alone :
    (∀ b : Bootstrap, ¬ "Windows".toList <:+: b.host.osName.toList →
      ("Linux".toList <:+: b.host.osName.toList → b.host.descriptor.family = .linux) ∧
      (¬ "Linux".toList <:+: b.host.osName.toList → b.host.descriptor.family = .other) ∧
      (b.host.descriptor.wordSize = .bits64 ↔ b.host.dataModel = "64") ∧
      (∀ w, b.resolve w = ⟨.error (.unsupportedPlatform b.host.descriptor), []⟩) ∧
      ∀ before w, (∀ entry ∈ before, entry.2 ≠ .start) →
        ((run b fresh before).2.start b w).1 =
            ⟨.error (.unsupportedPlatform b.host.descriptor),
              [.resolving, .failed (.unsupportedPlatform b.host.descriptor)]⟩ ∧
          ((run b fresh before).2.start b w).2.handed = [] ∧
          ((run b fresh before).2.start b w).2.phase = .failed) ∧
    (∀ b b' : Bootstrap, ¬ "Windows".toList <:+: b.host.osName.toList →
      b.host.osName = b'.host.osName → b.host.dataModel = b'.host.dataModel → ∀ w w',
        b.resolve w = b'.resolve w' ∧
        ∀ before before', (∀ entry ∈ before, entry.2 ≠ .start) →
          (∀ entry ∈ before', entry.2 ≠ .start) →
          (run b fresh before).2.start b w = (run b' fresh before').2.start b' w') ∧
    ∀ b : Bootstrap, "Windows".toList <:+: b.host.osName.toList → ∀ w host,
      (b.resolve w).value ≠ .error (.unsupportedPlatform host) ∧
      ∀ before, ((run b fresh before).2.start b w).1.value ≠ .error (.unsupportedPlatform host) := by
  refine ⟨?_, ?_, ?_⟩
  · intro b hname
    have hselect := Variant.select?_of_not_windows hname
    refine ⟨Host.family_of_linux hname, Host.family_of_other hname, Host.wordSize_eq_bits64_iff,
      Bootstrap.resolve_of_unsupported hselect, ?_⟩
    intro before w hbefore
    rw [(run_of_pending b rfl before hbefore).2, start_of_unsupported hselect rfl]
    exact ⟨rfl, rfl, rfl⟩
  · intro b b' hname hsame hmodel w w'
    have hdescriptor := Host.descriptor_congr hsame hmodel
    have hselect := Variant.select?_of_not_windows hname
    have hselect' : Variant.select? b'.host.descriptor = none := hdescriptor ▸ hselect
    refine ⟨?_, ?_⟩
    · rw [Bootstrap.resolve_of_unsupported hselect, Bootstrap.resolve_of_unsupported hselect',
        hdescriptor]
    · intro before before' hbefore hbefore'
      rw [(run_of_pending b rfl before hbefore).2, (run_of_pending b' rfl before' hbefore').2,
        start_of_unsupported hselect rfl, start_of_unsupported hselect' rfl, hdescriptor]
  · intro b hname w host
    have hselect : Variant.select? b.host.descriptor ≠ none := by
      rw [Variant.select?_of_windows hname]
      exact Option.some_ne_none _
    refine ⟨?_, ?_⟩
    · intro hresolve
      rcases Bootstrap.resolve_error_cases hresolve with hnone | ⟨failure, hfailure⟩
      · exact hselect hnone
      · cases hfailure
    · intro before
      obtain ⟨w', earlier, hstart⟩ := ((attempted_fresh b).run before).start w
      rw [← hstart]
      exact attempt_ne_unsupported hselect w' earlier host

/-- A host of Linux. -/
def linuxHost : Host := ⟨"GNU/Linux", none, "amd64", "32", "/"⟩

/-- A bootstrap for that host whose artifact cannot be decoded. -/
def malformedBootstrap : Bootstrap := ⟨.system, linuxHost, some (.ofString "/a%zz/shim.jar")⟩

/-- A bootstrap for a host of the same name and data model, and without an artifact. -/
def separatedBootstrap : Bootstrap :=
  ⟨.scripted [], { linuxHost with osVersion := some "6.1", fileSeparator := "::" }, none⟩

/-- A malformed artifact in a world without files makes no difference on such a host. -/
theorem unsupported_host_decides_alone_of_malformed_artifact :
    ¬ "Windows".toList <:+: malformedBootstrap.host.osName.toList ∧
    malformedBootstrap.resolve bareWorld = ⟨.error (.unsupportedPlatform ⟨.linux, .bits32⟩), []⟩ ∧
    fresh.start malformedBootstrap bareWorld = fresh.start separatedBootstrap installedWorld := by
  have hname : ¬ "Windows".toList <:+: malformedBootstrap.host.osName.toList := by
    rw [← Text.occursIn_iff]
    decide
  have hdescriptor : malformedBootstrap.host.descriptor = ⟨.linux, .bits32⟩ := by decide
  obtain ⟨hfails, hsame, -⟩ := unsupported_host_decides_alone
  obtain ⟨-, -, -, hresolve, -⟩ := hfails malformedBootstrap hname
  obtain ⟨-, hstart⟩ :=
    hsame malformedBootstrap separatedBootstrap hname rfl rfl bareWorld installedWorld
  refine ⟨hname, ?_, hstart [] [] nofun nofun⟩
  rw [← hdescriptor]
  exact hresolve bareWorld

end Session

end NativeBootstrap
