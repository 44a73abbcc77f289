import NativeBootstrap.Proofs.Path.Segments

/-!
# Separators at the joints of a join

Two inputs of a join that follow each other meet at a joint: the base and the first segment that
counts, or two such segments. Three things bring separators to a joint: the input before it may end
in some (`EndsInExactly`), the join may write one, and the input behind it may begin with some
(`BeginsWithExactly`). They can be counted from the inputs, or in the text that comes out. For a
separator of several characters these are two counts, since the end of one text and the beginning of
the next may make a separator that none of them brings; `OneSeparatorAt` asks for one in both.

A join looks at the end of the text so far, and at nothing else. So the text before a joint always
ends in a separator, and at most one is written; what the inputs bring is copied as it is
(`joinWith_concat`). This makes exactly one under three conditions, and under no others
(`oneSeparatorAt_iff`, `joint_holds_one_separator`): an input may end in two separators, a segment
may begin with one, and a segment that is half a separator may complete one that stands before it
(`joints_hold_two_separators_or_none`).
-/

set_option autoImplicit false

namespace NativeBootstrap.Path

/-! ## Separators in a row -/

/-- Whether a text begins with another. -/
def beginsWith (text beginning : String) : Bool := beginning.toList.isPrefixOf text.toList

/-- A text ends in exactly so many separators, one right before the other. -/
def EndsInExactly (separator : String) : Nat → String → Prop
  | 0, text => endsWith text separator = false
  | n + 1, text => ∃ front, text = front ++ separator ∧ EndsInExactly separator n front

/-- A text begins with exactly so many separators, one right behind the other. -/
def BeginsWithExactly (separator : String) : Nat → String → Prop
  | 0, text => beginsWith text separator = false
  | n + 1, text => ∃ back, text = separator ++ back ∧ BeginsWithExactly separator n back

/-- So many separators stand between two texts with this gap between them: those that the first
ends in, those that the gap consists of, and those that the second begins with. -/
def SeparatorsBetween (separator previous gap next : String) (n : Nat) : Prop :=
  ∃ ending written beginning,
    EndsInExactly separator ending previous ∧
    gap = String.join (List.replicate written separator) ∧
    BeginsWithExactly separator beginning next ∧
    ending + written + beginning = n

/-- Where a join goes on with `next` behind the segments `before`, exactly one separator stands,
counted from the two inputs that meet there, and counted in the text up to there. -/
def OneSeparatorAt (separator base : String) (before : List String) (next : String) : Prop :=
  ∃ gap,
    joinWith separator base (before ++ [next]) = joinWith separator base before ++ gap ++ next ∧
    SeparatorsBetween separator (before.getLastD base) gap next 1 ∧
    SeparatorsBetween separator (joinWith separator base before ++ gap) "" next 1

variable {separator : String}

/-- A text ends in exactly one separator if it ends in one, but not in two. -/
theorem endsInExactly_one_iff {text : String} :
    EndsInExactly separator 1 text ↔
      endsWith text separator = true ∧ endsWith text (separator ++ separator) = false := by
  constructor
  · rintro ⟨front, rfl, hfront⟩
    refine ⟨endsWith_append_self _ _, ?_⟩
    apply Bool.eq_false_iff.2
    intro htwo
    obtain ⟨rest, hrest⟩ := endsWith_iff.1 htwo
    rw [← String.append_assoc] at hrest
    have hends : endsWith front separator = true := by
      rw [(String.append_left_inj separator).1 hrest]
      exact endsWith_append_self _ _
    exact Bool.false_ne_true (hfront.symm.trans hends)
  · rintro ⟨hone, htwo⟩
    obtain ⟨front, rfl⟩ := endsWith_iff.1 hone
    refine ⟨front, rfl, ?_⟩
    apply Bool.eq_false_iff.2
    intro hfront
    obtain ⟨rest, rfl⟩ := endsWith_iff.1 hfront
    rw [String.append_assoc, endsWith_append_self] at htwo
    exact Bool.false_ne_true htwo.symm

/-- What ends in two separators ends in one. -/
theorem endsWith_of_endsWith_two {text : String}
    (h : endsWith text (separator ++ separator) = true) : endsWith text separator = true := by
  obtain ⟨front, rfl⟩ := endsWith_iff.1 h
  rw [← String.append_assoc]
  exact endsWith_append_self _ _

@[simp] theorem beginsWith_append_self (text beginning : String) :
    beginsWith (beginning ++ text) beginning = true := by
  rw [beginsWith, String.toList_append, List.isPrefixOf_iff_prefix]
  exact List.prefix_append _ _

section Between

variable {previous next : String}

/-- If the first text ends in a separator, and nothing stands between, then that is the only one. -/
theorem separatorsBetween_of_endsWith (h : endsWith previous separator = true) :
    SeparatorsBetween separator previous "" next 1 ↔
      EndsInExactly separator 1 previous ∧ beginsWith next separator = false := by
  constructor
  · rintro ⟨ending, written, beginning, hending, -, hbeginning, hsum⟩
    cases ending with
    | zero => exact absurd h (Bool.eq_false_iff.1 hending)
    | succ ending =>
        obtain ⟨rfl, rfl⟩ : ending = 0 ∧ beginning = 0 := by omega
        exact ⟨hending, hbeginning⟩
  · rintro ⟨hending, hbeginning⟩
    exact ⟨1, 0, 0, hending, rfl, hbeginning, rfl⟩

/-- If the second text begins with no separator, and nothing stands between, then the first text
brings the one. -/
theorem separatorsBetween_of_not_beginsWith (h : beginsWith next separator = false) :
    SeparatorsBetween separator previous "" next 1 ↔ EndsInExactly separator 1 previous := by
  constructor
  · rintro ⟨ending, written, beginning, hending, hgap, hbeginning, hsum⟩
    have hseparator : separator.length ≠ 0 := by
      intro hlength
      obtain rfl := String.length_eq_zero_iff.1 hlength
      exact Bool.false_ne_true (h.symm.trans rfl)
    have hwritten : written = 0 := by
      have hlength : written * separator.length = 0 := by
        simpa using (congrArg String.length hgap).symm
      exact (Nat.mul_eq_zero.1 hlength).resolve_right hseparator
    cases beginning with
    | zero =>
        obtain rfl : ending = 1 := by omega
        exact hending
    | succ beginning =>
        obtain ⟨back, rfl, -⟩ := hbeginning
        exact absurd (beginsWith_append_self _ _) (Bool.eq_false_iff.1 h)
  · intro hending
    exact ⟨1, 0, 0, hending, rfl, h, rfl⟩

end Between

/-! ## The text before a joint -/

/-- How a text before a joint ends, whatever stands further in front: with the input there, and if
that is a segment, with a separator before it. -/
def endBefore (separator base : String) (before : List String) : String :=
  if before = [] then base else separator ++ before.getLastD base

/-- The input before a joint is the end of how the text ends there. -/
theorem exists_endBefore_eq (separator base : String) (before : List String) :
    ∃ front, endBefore separator base before = front ++ before.getLastD base := by
  by_cases hne : before = []
  · exact ⟨"", by simp [endBefore, hne]⟩
  · exact ⟨separator, by simp [endBefore, hne]⟩

/-- A join that goes on with a segment closes the text so far, and copies the segment. -/
theorem joinWith_concat {segment : String} (h : isSkipped separator segment = false) (base : String)
    (segments : List String) :
    joinWith separator base (segments ++ [segment]) =
      closed separator (joinWith separator base segments) ++ segment := by
  rw [joinWith_append]
  exact extend_eq_closed_append h _

section Before

variable {before : List String}

theorem exists_joinWith_eq_append_endBefore
    (h : ∀ segment ∈ before, isSkipped separator segment = false) (base : String) :
    ∃ front, joinWith separator base before = front ++ endBefore separator base before := by
  rcases List.eq_nil_or_concat before with rfl | ⟨earlier, last, rfl⟩
  · exact ⟨"", by simp [joinWith, endBefore]⟩
  · rw [List.concat_eq_append] at h ⊢
    have hlast : isSkipped separator last = false := h last (by simp)
    obtain ⟨front, hfront⟩ :=
      endsWith_iff.1 (endsWith_closed separator (joinWith separator base earlier))
    refine ⟨front, ?_⟩
    rw [joinWith_concat hlast, hfront]
    simp [endBefore, String.append_assoc]

/-- Whether the text before a joint ends in a separator is told by its end there. -/
theorem endsWith_joinWith (h : ∀ segment ∈ before, isSkipped separator segment = false)
    (base : String) :
    endsWith (joinWith separator base before) separator =
      endsWith (endBefore separator base before) separator := by
  obtain ⟨front, hfront⟩ := exists_joinWith_eq_append_endBefore h base
  by_cases hne : before = []
  · subst hne
    rfl
  · rw [hfront]
    apply endsWith_append
    simp [endBefore, hne]

/-- So is whether it ends in two, where the input there ends in one. -/
theorem endsWith_two_joinWith (h : ∀ segment ∈ before, isSkipped separator segment = false)
    {base : String} (hends : endsWith (before.getLastD base) separator = true) :
    endsWith (joinWith separator base before) (separator ++ separator) =
      endsWith (endBefore separator base before) (separator ++ separator) := by
  obtain ⟨front, hfront⟩ := exists_joinWith_eq_append_endBefore h base
  by_cases hne : before = []
  · subst hne
    rfl
  · -- The separator before the input and the one it ends in do not overlap.
    obtain ⟨rest, hrest⟩ := endsWith_iff.1 hends
    rw [hfront]
    apply endsWith_append
    simp only [endBefore, hne, ↓reduceIte, hrest, String.length_append]
    omega

/-- The input before a joint stands at the end of the text there. -/
theorem endsWith_joinWith_of_last (h : ∀ segment ∈ before, isSkipped separator segment = false)
    {base ending : String} (hends : endsWith (before.getLastD base) ending = true) :
    endsWith (joinWith separator base before) ending = true := by
  obtain ⟨rest, hrest⟩ := exists_joinWith_eq_append_endBefore h base
  obtain ⟨front, hfront⟩ := exists_endBefore_eq separator base before
  rw [hrest, hfront, ← String.append_assoc]
  exact endsWith_append_of_endsWith hends _

/-! ## One separator -/

variable {next : String}

/-- Exactly one separator stands at a joint where the text so far ends in none, so that one is
written, or where it ends in one and that is the one that its last input brings. -/
theorem oneSeparatorAt_iff_endsInExactly
    (h : ∀ segment ∈ before, isSkipped separator segment = false)
    (hnext : isSkipped separator next = false) (base : String) :
    OneSeparatorAt separator base before next ↔
      beginsWith next separator = false ∧
      (endsWith (joinWith separator base before) separator = true →
        EndsInExactly separator 1 (joinWith separator base before) ∧
          EndsInExactly separator 1 (before.getLastD base)) := by
  -- Whatever the gap is, it closes the text so far.
  have hgap : ∀ gap, joinWith separator base (before ++ [next]) =
      joinWith separator base before ++ gap ++ next ↔
        closed separator (joinWith separator base before) = joinWith separator base before ++ gap := by
    intro gap
    rw [joinWith_concat hnext, String.append_left_inj]
  constructor
  · rintro ⟨gap, hjoined, hinputs, htext⟩
    have hclosed := (hgap gap).1 hjoined
    rw [← hclosed] at htext
    obtain ⟨hone, hbegins⟩ := (separatorsBetween_of_endsWith (endsWith_closed ..)).1 htext
    refine ⟨hbegins, ?_⟩
    intro hends
    rw [closed_of_endsWith hends] at hclosed hone
    obtain rfl : gap = "" := by simpa using hclosed.symm
    exact ⟨hone, (separatorsBetween_of_not_beginsWith hbegins).1 hinputs⟩
  · rintro ⟨hbegins, hones⟩
    cases hends : endsWith (joinWith separator base before) separator with
    | true =>
        obtain ⟨htext, hlast⟩ := hones hends
        refine ⟨"", (hgap "").2 ?_, ?_, ?_⟩
        · rw [closed_of_endsWith hends, String.append_empty]
        · exact (separatorsBetween_of_not_beginsWith hbegins).2 hlast
        · rw [String.append_empty]
          exact (separatorsBetween_of_endsWith hends).2 ⟨htext, hbegins⟩
    | false =>
        have hlast : endsWith (before.getLastD base) separator = false := by
          apply Bool.eq_false_iff.2
          intro hbrought
          rw [endsWith_joinWith_of_last h hbrought] at hends
          cases hends
        have htext : EndsInExactly separator 1 (joinWith separator base before ++ separator) :=
          ⟨_, rfl, hends⟩
        refine ⟨separator, (hgap separator).2 (closed_of_not_endsWith hends), ?_, ?_⟩
        · exact ⟨0, 1, 0, hlast, by simp, hbegins, rfl⟩
        · exact (separatorsBetween_of_endsWith (endsWith_append_self _ _)).2 ⟨htext, hbegins⟩

/-- The same, told by the inputs alone. -/
theorem oneSeparatorAt_iff (h : ∀ segment ∈ before, isSkipped separator segment = false)
    (hnext : isSkipped separator next = false) (base : String) :
    OneSeparatorAt separator base before next ↔
      beginsWith next separator = false ∧
      endsWith (endBefore separator base before) (separator ++ separator) = false ∧
      (endsWith (endBefore separator base before) separator = true →
        endsWith (before.getLastD base) separator = true) := by
  rw [oneSeparatorAt_iff_endsInExactly h hnext, endsInExactly_one_iff, endsInExactly_one_iff,
    endsWith_joinWith h]
  apply and_congr_right
  intro _
  constructor
  · intro hones
    refine ⟨?_, fun hends => (hones hends).2.1⟩
    apply Bool.eq_false_iff.2
    intro htwo
    obtain ⟨⟨-, htext⟩, hlast, -⟩ := hones (endsWith_of_endsWith_two htwo)
    rw [endsWith_two_joinWith h hlast, htwo] at htext
    cases htext
  · rintro ⟨htwo, hwhole⟩ hends
    have hlast : endsWith (before.getLastD base) separator = true := hwhole hends
    have htext : endsWith (joinWith separator base before) (separator ++ separator) = false := by
      rw [endsWith_two_joinWith h hlast, htwo]
    have hlastTwo : endsWith (before.getLastD base) (separator ++ separator) = false := by
      apply Bool.eq_false_iff.2
      intro hbrought
      rw [endsWith_joinWith_of_last h hbrought] at htext
      cases htext
    exact ⟨⟨hends, htext⟩, hlast, hlastTwo⟩

end Before

/-- **A joint holds exactly one separator** if the segment behind it begins with none, and the text
before it does not end in two, and in one only if the input there does. At every joint, whatever the
inputs bring, the join copies the segment behind it as it is, writes nothing or one separator before
it, and so leaves a separator before it. -/
theorem joint_holds_one_separator (base : String) {segments before after : List String}
    {next : String} (hjoint : kept separator segments = before ++ next :: after) :
    (∃ rest, joinWith separator base segments =
      joinWith separator base (before ++ [next]) ++ rest) ∧
    (∃ gap, (gap = "" ∨ gap = separator) ∧
      joinWith separator base (before ++ [next]) =
        joinWith separator base before ++ gap ++ next ∧
      endsWith (joinWith separator base before ++ gap) separator = true) ∧
    (beginsWith next separator = false →
      endsWith (endBefore separator base before) (separator ++ separator) = false →
      (endsWith (endBefore separator base before) separator = true →
        endsWith (before.getLastD base) separator = true) →
      OneSeparatorAt separator base before next) := by
  have hskipped : ∀ segment ∈ before ++ next :: after, isSkipped separator segment = false := by
    intro segment hmem
    exact isSkipped_of_mem_kept (hjoint ▸ hmem)
  have hnext : isSkipped separator next = false := hskipped next (by simp)
  have hbefore : ∀ segment ∈ before, isSkipped separator segment = false := by
    intro segment hmem
    exact hskipped segment (List.mem_append_left _ hmem)
  refine ⟨?_, ?_, ?_⟩
  · have hsplit : before ++ next :: after = before ++ [next] ++ after := by simp
    rw [← joinWith_kept, hjoint, hsplit, joinWith_append]
    exact joinWith_eq_append ..
  · obtain ⟨gap, hgap, hclosed⟩ := exists_closed_eq separator (joinWith separator base before)
    refine ⟨gap, hgap, ?_, ?_⟩
    · rw [joinWith_concat hnext, hclosed]
    · rw [← hclosed]
      exact endsWith_closed ..
  · intro hbegins htwo hwhole
    exact (oneSeparatorAt_iff hbefore hnext base).2 ⟨hbegins, htwo, hwhole⟩

/-- A separator of two characters; the segment before the joint ends in the one that stands there. -/
theorem joint_holds_one_separator_of_two_colons :
    kept "::" ["", "a::", "::", "b"] = ["a::"] ++ "b" :: [] ∧
      beginsWith "b" "::" = false ∧ endsWith (endBefore "::" "C:" ["a::"]) "::::" = false ∧
      OneSeparatorAt "::" "C:" ["a::"] "b" ∧
      joinWith "::" "C:" ["", "a::", "::", "b"] = "C:::a::b" := by
  have hjoint : kept "::" ["", "a::", "::", "b"] = ["a::"] ++ "b" :: [] := by decide
  refine ⟨hjoint, by decide, by decide, ?_, by decide⟩
  exact (joint_holds_one_separator "C:" hjoint).2.2 (by decide) (by decide) (fun _ => by decide)

/-- **More than one separator, or none.** A segment that begins with a separator is set off by
another; what ends in two keeps them; and with a separator of two characters, a segment that is half
of one completes the one written before it, so that none follows. -/
theorem joints_hold_two_separators_or_none :
    (kept "/" ["/libs"] = [] ++ "/libs" :: [] ∧ endsWith "/opt" "//" = false ∧
      ¬ OneSeparatorAt "/" "/opt" [] "/libs") ∧
    (kept "/" ["a//", "b"] = ["a//"] ++ "b" :: [] ∧ endsWith "/opt" "//" = false ∧
      ¬ OneSeparatorAt "/" "/opt" ["a//"] "b") ∧
    (kept "::" [":", "b"] = [":"] ++ "b" :: [] ∧ endsWith "a" "::::" = false ∧
      ¬ OneSeparatorAt "::" "a" [":"] "b") := by
  have hnone : ∀ segment ∈ ([] : List String), isSkipped "/" segment = false := by decide
  have hslashes : ∀ segment ∈ ["a//"], isSkipped "/" segment = false := by decide
  have hcolon : ∀ segment ∈ [":"], isSkipped "::" segment = false := by decide
  refine ⟨⟨by decide, by decide, ?_⟩, ⟨by decide, by decide, ?_⟩, ⟨by decide, by decide, ?_⟩⟩
  · -- One separator is written, and the segment brings another.
    rw [oneSeparatorAt_iff hnone (by decide) "/opt"]
    rintro ⟨hbegins, -, -⟩
    exact absurd hbegins (by decide)
  · -- The input before the joint ends in two.
    rw [oneSeparatorAt_iff hslashes (by decide) "/opt"]
    rintro ⟨-, htwo, -⟩
    exact absurd htwo (by decide)
  · -- The text so far ends in a separator that no input brings, so none is written.
    rw [oneSeparatorAt_iff hcolon (by decide) "a"]
    rintro ⟨-, -, hwhole⟩
    exact absurd (hwhole (by decide)) (by decide)

end NativeBootstrap.Path
