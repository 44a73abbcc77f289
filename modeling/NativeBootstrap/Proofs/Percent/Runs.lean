import NativeBootstrap.Proofs.Percent.Rejection

/-!
# Runs of escapes

In a text whose escapes are all well formed, escapes that follow each other make a run, and between
the runs there are characters that stand for themselves. Whether the bytes are those of a text is
asked only once, of all of them together; but a character never begins in an escape and ends outside
of it, or the other way round. So it is the same to ask it of each run alone.

What carries this is that a text can be cut around any character that stands for itself
(`decode_ofList_literal_eq_ok_iff`). `WellEscaped` reads a text from the front, one escape or one such
character at a time, and the proofs follow it. The main statement is `runs_of_escapes_decode_alone`.
-/

set_option autoImplicit false

namespace NativeBootstrap.Percent

/-! ## Escapes in a text -/

/-- Whether characters are one escape. -/
def IsEscape (cs : List Char) : Prop :=
  ∃ high low, cs = ['%', high, low] ∧ IsHexDigit high ∧ IsHexDigit low

/-- Whether characters are escapes, one at least, with no further one right before them or right
behind. -/
structure IsMaximalRun (before run after : List Char) : Prop where
  ne_nil : run ≠ []
  escapes : ∃ escapes : List (List Char), run = escapes.flatten ∧ ∀ e ∈ escapes, IsEscape e
  not_before : ∀ e, IsEscape e → ¬ e <:+ before
  not_behind : ∀ e, IsEscape e → ¬ e <+: after

/-- Whether each run stands for the bytes of a text when it is taken alone. -/
def RunsAreTexts (cs : List Char) : Prop :=
  ∀ before run after, cs = before ++ run ++ after → IsMaximalRun before run after →
    ∃ part, IsEncoding (.ofList run) part

/-- Whether a character behind others stands for itself: it is not `%`, and no escape that begins
before it is incomplete there. -/
def IsLiteral (before : List Char) (c : Char) : Prop :=
  c ≠ '%' ∧ ∀ offset, ¬ FaultAt (.ofList before) offset

/-- Characters in which every `%` begins an escape, read from the front. -/
inductive WellEscaped : List Char → Prop where
  | nil : WellEscaped []
  | literal {c : Char} {cs : List Char} : c ≠ '%' → WellEscaped cs → WellEscaped (c :: cs)
  | escape {e cs : List Char} : IsEscape e → WellEscaped cs → WellEscaped (e ++ cs)

theorem not_isHexDigit_percent : ¬ IsHexDigit '%' := by decide

/-- Two digits that stand before a `%` stand there without it. -/
theorem BeginsWithDigits.of_append_percent {cs rest : List Char}
    (h : BeginsWithDigits (cs ++ '%' :: rest)) : BeginsWithDigits cs := by
  rcases cs with _ | ⟨c, _ | ⟨d, cs⟩⟩
  · cases rest with
    | nil => exact h.elim
    | cons low rest => exact absurd h.1 not_isHexDigit_percent
  · exact absurd h.2 not_isHexDigit_percent
  · exact h

theorem wellEscaped_iff {cs : List Char} :
    WellEscaped cs ↔ ∀ before after, cs = before ++ '%' :: after → BeginsWithDigits after := by
  constructor
  · intro h
    induction h with
    | nil =>
        intro before after hcut
        exact absurd hcut.symm (List.append_ne_nil_of_right_ne_nil before (List.cons_ne_nil '%' after))
    | literal hc _ ih =>
        intro before after hcut
        cases before with
        | nil => exact absurd (List.cons.inj hcut).1 hc
        | cons b before => exact ih before after (List.cons.inj hcut).2
    | escape he _ ih =>
        obtain ⟨high, low, rfl, hhigh, hlow⟩ := he
        intro before after hcut
        -- No `%` stands at the places of the digits.
        rcases before with _ | ⟨b, _ | ⟨b', _ | ⟨b'', before⟩⟩⟩
        · obtain ⟨-, rfl⟩ := List.cons.inj hcut
          exact ⟨hhigh, hlow⟩
        · simp only [List.cons_append, List.nil_append, List.cons.injEq] at hcut
          exact absurd (hcut.2.1 ▸ hhigh) not_isHexDigit_percent
        · simp only [List.cons_append, List.nil_append, List.cons.injEq] at hcut
          exact absurd (hcut.2.2.1 ▸ hlow) not_isHexDigit_percent
        · simp only [List.cons_append, List.nil_append, List.cons.injEq] at hcut
          exact ih before after hcut.2.2.2
  · intro h
    -- By the length, because an escape takes three characters off at once.
    induction hlength : cs.length using Nat.strongRecOn generalizing cs with
    | ind length ih =>
        cases cs with
        | nil => exact .nil
        | cons c cs =>
            have hrest : ∀ before after, cs = before ++ '%' :: after → BeginsWithDigits after :=
              fun before after hcut => h (c :: before) after (congrArg (c :: ·) hcut)
            by_cases hc : c = '%'
            · subst hc
              have hdigits := h [] cs rfl
              rcases cs with _ | ⟨high, _ | ⟨low, cs⟩⟩
              · exact hdigits.elim
              · exact hdigits.elim
              · have hlt : cs.length < length := by
                  rw [← hlength]
                  simp only [List.length_cons]
                  omega
                have hcs := ih cs.length hlt
                  (fun before after hcut => hrest (high :: low :: before) after (by rw [hcut]; rfl)) rfl
                exact .escape ⟨high, low, rfl, hdigits.1, hdigits.2⟩ hcs
            · have hlt : cs.length < length := by
                rw [← hlength]
                exact Nat.lt_succ_self _
              exact .literal hc (ih cs.length hlt hrest rfl)

theorem wellEscaped_toList_iff {text : String} :
    WellEscaped text.toList ↔ ∀ offset, ¬ FaultAt text offset := by
  rw [wellEscaped_iff]
  constructor
  · rintro h offset ⟨before, after, htext, -, hafter⟩
    exact hafter (h before after htext)
  · intro h before after htext
    by_contra hafter
    exact h _ ⟨before, after, htext, rfl, hafter⟩

namespace WellEscaped

variable {cs : List Char}

theorem exists_writes (h : WellEscaped cs) :
    ∃ plain, Writes (fun _ => False) (Utf8.encode (.ofList cs)) plain := by
  rcases writes_or_fault (Utf8.encode (.ofList cs)) with
    hwrites | ⟨before, after, plain, htext, -, hafter⟩
  · exact hwrites
  · rw [← String.toList_ofList (l := cs), wellEscaped_toList_iff] at h
    exact absurd (faultAt_iff.2 ⟨before, after, htext, rfl, hafter⟩) (h before.length)

theorem of_escapes {escapes : List (List Char)} (h : ∀ e ∈ escapes, IsEscape e) :
    WellEscaped escapes.flatten := by
  induction escapes with
  | nil => exact .nil
  | cons e escapes ih =>
      obtain ⟨he, hescapes⟩ := List.forall_mem_cons.1 h
      exact .escape he (ih hescapes)

/-- What stands before a `%` is well escaped if the whole is. -/
theorem of_append_percent {rest : List Char} (h : WellEscaped (cs ++ '%' :: rest)) :
    WellEscaped cs := by
  rw [wellEscaped_iff] at h ⊢
  rintro before after rfl
  have hwhole := h before (after ++ '%' :: rest) (by rw [List.append_assoc, List.cons_append])
  exact hwhole.of_append_percent

/-- What stands behind anything is well escaped if the whole is. -/
theorem of_append {front : List Char} (h : WellEscaped (front ++ cs)) : WellEscaped cs := by
  rw [wellEscaped_iff] at h ⊢
  rintro before after rfl
  exact h (front ++ before) after (List.append_assoc front before _).symm

/-- What ends: nothing, an escape, or a character that stands for itself. -/
theorem end_cases (h : WellEscaped cs) :
    cs = [] ∨ (∃ e, IsEscape e ∧ e <:+ cs) ∨
      ∃ front c, cs = front ++ [c] ∧ c ≠ '%' ∧ WellEscaped front := by
  induction h with
  | nil => exact Or.inl rfl
  | @literal c cs hc _ ih =>
      rcases ih with rfl | ⟨e, he, hsuffix⟩ | ⟨front, d, rfl, hd, hfront⟩
      · exact Or.inr (Or.inr ⟨[], c, rfl, hc, .nil⟩)
      · exact Or.inr (Or.inl ⟨e, he, hsuffix.trans (List.suffix_cons c cs)⟩)
      · exact Or.inr (Or.inr ⟨c :: front, d, rfl, hd, .literal hc hfront⟩)
  | @escape e cs he _ ih =>
      rcases ih with rfl | ⟨e', he', hsuffix⟩ | ⟨front, d, rfl, hd, hfront⟩
      · rw [List.append_nil]
        exact Or.inr (Or.inl ⟨e, he, List.suffix_refl e⟩)
      · exact Or.inr (Or.inl ⟨e', he', hsuffix.trans (List.suffix_append e cs)⟩)
      · exact Or.inr (Or.inr ⟨e ++ front, d, (List.append_assoc e front [d]).symm, hd,
          .escape he hfront⟩)

/-- What begins: nothing, an escape, or a character that stands for itself. -/
theorem start_cases (h : WellEscaped cs) :
    cs = [] ∨ (∃ e, IsEscape e ∧ e <+: cs) ∨ ∃ c rest, cs = c :: rest ∧ c ≠ '%' := by
  cases h with
  | nil => exact Or.inl rfl
  | literal hc _ => exact Or.inr (Or.inr ⟨_, _, rfl, hc⟩)
  | escape he _ => exact Or.inr (Or.inl ⟨_, he, List.prefix_append _ _⟩)

/-- An escape at the end of what goes on behind a character that stands for itself is behind that
character. -/
theorem suffix_of_literal {c : Char} {e before : List Char} (h : WellEscaped cs) (hc : c ≠ '%')
    (he : IsEscape e) (hsuffix : e <:+ cs ++ c :: before) : e <:+ before := by
  obtain ⟨high, low, rfl, -, -⟩ := he
  obtain ⟨front, hcut⟩ := hsuffix
  rcases List.append_eq_append_iff.1 hcut with ⟨more, hcs, hmore⟩ | ⟨more, hfront, hmore⟩
  · cases more with
    | nil => exact absurd (List.cons.inj hmore).1.symm hc
    | cons sign more =>
        -- The `%` before the character has both digits there, which are then not the last two.
        obtain ⟨rfl, hmore⟩ := List.cons.inj hmore
        have hdigits := wellEscaped_iff.1 h front more hcs
        rcases more with _ | ⟨d, _ | ⟨d', more⟩⟩
        · exact hdigits.elim
        · exact hdigits.elim
        · simp at hmore
  · cases more with
    | nil => exact absurd (List.cons.inj hmore).1 hc
    | cons d more => exact ⟨more, (List.cons.inj hmore).2.symm⟩

end WellEscaped

/-! ## Cuts around characters that stand for themselves -/

theorem decode_ofList_literal_eq_ok_iff {before after : List Char} {c : Char} {text : String}
    (hbefore : WellEscaped before) (hc : c ≠ '%') :
    decode (.ofList (before ++ c :: after)) = .ok text ↔
      ∃ front back, decode (.ofList before) = .ok front ∧ decode (.ofList after) = .ok back ∧
        text = front ++ .singleton c ++ back := by
  obtain ⟨plain, hwrites⟩ := hbefore.exists_writes
  have hcut : String.ofList (before ++ c :: after) = .ofList before ++ .singleton c ++ .ofList after := by
    rw [← List.singleton_append, String.ofList_append, String.ofList_append, String.append_assoc]
    rfl
  rw [hcut, decode_around_literal_eq_ok_iff hwrites hc]

theorem exists_decode_literal_iff {before after : List Char} {c : Char} (hbefore : WellEscaped before)
    (hc : c ≠ '%') :
    (∃ text, decode (.ofList (before ++ c :: after)) = .ok text) ↔
      (∃ front, decode (.ofList before) = .ok front) ∧ ∃ back, decode (.ofList after) = .ok back := by
  simp only [decode_ofList_literal_eq_ok_iff hbefore hc]
  constructor
  · rintro ⟨_, front, back, hfront, hback, -⟩
    exact ⟨⟨front, hfront⟩, back, hback⟩
  · rintro ⟨⟨front, hfront⟩, back, hback⟩
    exact ⟨_, front, back, hfront, hback, rfl⟩

/-! ## Runs one by one -/

theorem IsMaximalRun.exists_cons {before run after : List Char} (h : IsMaximalRun before run after) :
    ∃ rest, run = '%' :: rest := by
  obtain ⟨escapes, rfl, hall⟩ := h.escapes
  cases escapes with
  | nil => exact absurd rfl h.ne_nil
  | cons e escapes =>
      obtain ⟨high, low, rfl, -, -⟩ := hall e List.mem_cons_self
      exact ⟨high :: low :: escapes.flatten, rfl⟩

/-- A run in a text that is decoded is decoded by itself. -/
theorem runsAreTexts_of_decode {cs : List Char} (h : WellEscaped cs)
    (hdecode : ∃ text, decode (.ofList cs) = .ok text) : RunsAreTexts cs := by
  rintro before run after rfl hrun
  obtain ⟨escapes, hescapes, hall⟩ := hrun.escapes
  obtain ⟨rest, hrest⟩ := hrun.exists_cons
  have hbefore : WellEscaped before := by
    rw [hrest, List.append_assoc, List.cons_append] at h
    exact h.of_append_percent
  -- Where the run is not at an end, a character that stands for itself is next to it.
  have hfront : ∃ text, decode (.ofList (run ++ after)) = .ok text := by
    rcases hbefore.end_cases with rfl | ⟨e, he, hsuffix⟩ | ⟨front, c, rfl, hc, hfront⟩
    · exact hdecode
    · exact absurd hsuffix (hrun.not_before e he)
    · rw [List.append_assoc, List.append_assoc, List.singleton_append,
        exists_decode_literal_iff hfront hc] at hdecode
      exact hdecode.2
  have hback : ∃ text, decode (.ofList run) = .ok text := by
    rcases h.of_append.start_cases with rfl | ⟨e, he, hprefix⟩ | ⟨c, after, rfl, hc⟩
    · rwa [List.append_nil] at hfront
    · exact absurd hprefix (hrun.not_behind e he)
    · rw [exists_decode_literal_iff (hescapes ▸ .of_escapes hall) hc] at hfront
      exact hfront.1
  obtain ⟨part, hpart⟩ := hback
  exact ⟨part, decode_eq_ok_iff.1 hpart⟩

/-- The escapes at the front of a text are decoded if its runs are texts and no further escape
follows. -/
theorem exists_decode_of_runsAreTexts {escapes : List (List Char)} {rest : List Char}
    (hall : ∀ e ∈ escapes, IsEscape e) (hrest : ∀ e, IsEscape e → ¬ e <+: rest)
    (h : RunsAreTexts (escapes.flatten ++ rest)) :
    ∃ text, decode (.ofList escapes.flatten) = .ok text := by
  by_cases hnil : escapes.flatten = []
  · rw [hnil]
    exact ⟨"", decode_self (by decide)⟩
  · have hbefore : ∀ e, IsEscape e → ¬ e <:+ [] := by
      rintro e ⟨high, low, rfl, -, -⟩ hsuffix
      cases List.suffix_nil.1 hsuffix
    obtain ⟨part, hpart⟩ := h [] escapes.flatten rest rfl ⟨hnil, ⟨escapes, rfl, hall⟩, hbefore, hrest⟩
    exact ⟨part, decode_eq_ok_iff.2 hpart⟩

/-- The runs behind a character that stands for itself are runs of the whole text. -/
theorem RunsAreTexts.of_literal {cs rest : List Char} {c : Char} (hcs : WellEscaped cs) (hc : c ≠ '%')
    (h : RunsAreTexts (cs ++ c :: rest)) : RunsAreTexts rest := by
  rintro before run after rfl hrun
  refine h (cs ++ c :: before) run after (by simp only [List.append_assoc, List.cons_append]) ?_
  exact ⟨hrun.ne_nil, hrun.escapes,
    fun e he hsuffix => hrun.not_before e he (hcs.suffix_of_literal hc he hsuffix), hrun.not_behind⟩

/-- A text whose runs are texts is decoded. The escapes that have been read up to a place are an
argument, because their run may go on there. -/
theorem WellEscaped.exists_decode {cs : List Char} (h : WellEscaped cs) :
    ∀ escapes : List (List Char), (∀ e ∈ escapes, IsEscape e) →
      RunsAreTexts (escapes.flatten ++ cs) →
      ∃ text, decode (.ofList (escapes.flatten ++ cs)) = .ok text := by
  induction h with
  | nil =>
      intro escapes hall hruns
      have hnone : ∀ e, IsEscape e → ¬ e <+: [] := by
        rintro e ⟨high, low, rfl, -, -⟩ hprefix
        cases List.prefix_nil.1 hprefix
      rw [List.append_nil]
      exact exists_decode_of_runsAreTexts hall hnone hruns
  | @literal c cs hc _ ih =>
      intro escapes hall hruns
      have hnone : ∀ e, IsEscape e → ¬ e <+: c :: cs := by
        rintro e ⟨high, low, rfl, -, -⟩ hprefix
        exact hc (List.cons_prefix_cons.1 hprefix).1.symm
      -- The run ends here, and the next one begins with nothing read.
      have hcs := ih [] (List.forall_mem_nil _) (hruns.of_literal (.of_escapes hall) hc)
      rw [exists_decode_literal_iff (.of_escapes hall) hc]
      exact ⟨exists_decode_of_runsAreTexts hall hnone hruns, hcs⟩
  | @escape e cs he _ ih =>
      intro escapes hall hruns
      have hmore : escapes.flatten ++ (e ++ cs) = (escapes ++ [e]).flatten ++ cs := by
        rw [List.flatten_append, List.flatten_singleton, List.append_assoc]
      rw [hmore] at hruns ⊢
      refine ih (escapes ++ [e]) ?_ hruns
      intro e' he'
      rcases List.mem_append.1 he' with hmem | hmem
      · exact hall e' hmem
      · exact List.mem_singleton.1 hmem ▸ he

/-- **Escapes and characters around them are read apart.** A text whose escapes are all well formed is
decoded exactly if each maximal run of escapes in it stands, alone, for the bytes of a text; and any
character in it that stands for itself is that character in the decoded text, with what is before it
and what is behind it decoded alone. -/
theorem runs_of_escapes_decode_alone (text : String) (h : ∀ offset, ¬ FaultAt text offset) :
    ((∃ decoded, decode text = .ok decoded) ↔
      ∀ before run after, text.toList = before ++ run ++ after → IsMaximalRun before run after →
        ∃ part, IsEncoding (.ofList run) part) ∧
    ∀ before c after, text.toList = before ++ c :: after → IsLiteral before c →
      ∀ decoded, decode text = .ok decoded ↔
        ∃ front back, decode (.ofList before) = .ok front ∧ decode (.ofList after) = .ok back ∧
          decoded = front ++ .singleton c ++ back := by
  have hescaped := wellEscaped_toList_iff.2 h
  refine ⟨⟨?_, ?_⟩, ?_⟩
  · intro hdecode
    exact runsAreTexts_of_decode hescaped (by rwa [String.ofList_toList])
  · intro hruns
    have hdecode := hescaped.exists_decode [] (List.forall_mem_nil _) hruns
    rwa [List.flatten_nil, List.nil_append, String.ofList_toList] at hdecode
  · intro before c after htext ⟨hc, hbefore⟩ decoded
    have hescaped' : WellEscaped before := by
      rw [← String.toList_ofList (l := before)]
      exact wellEscaped_toList_iff.2 hbefore
    rw [← decode_ofList_literal_eq_ok_iff hescaped' hc, ← htext, String.ofList_toList]

/-- A run between two characters that is the third by itself, and a run that the character behind it
does not complete. -/
theorem runs_of_escapes_decode_alone_of_neighbours :
    (∀ offset, ¬ FaultAt "中%C3%A9é" offset) ∧
      (decode "中%C3%A9é" = .ok "中éé" ∧ IsMaximalRun ['中'] "%C3%A9".toList ['é'] ∧
        ∃ part, IsEncoding (.ofList "%C3%A9".toList) part) ∧
      (IsLiteral "中%C3%A9".toList 'é' ∧
        ∃ front back, decode (.ofList "中%C3%A9".toList) = .ok front ∧ decode (.ofList []) = .ok back ∧
          "中éé" = front ++ .singleton 'é' ++ back) ∧
      (∀ offset, ¬ FaultAt "%E4%B8é" offset) ∧ decode "%E4%B8é" = .error .invalidUtf8 ∧
      ¬ RunsAreTexts "%E4%B8é".toList := by
  have hdecode : decode "中%C3%A9é" = .ok "中éé" := by decide +kernel
  have hdecode' : decode "%E4%B8é" = .error .invalidUtf8 := by decide +kernel
  have hclear := not_faultAt_of_decode hdecode
  obtain ⟨hruns, hliterals⟩ := runs_of_escapes_decode_alone "中%C3%A9é" hclear
  have hclear' := (decode_eq_invalidUtf8_iff.1 hdecode').1
  obtain ⟨hruns', -⟩ := runs_of_escapes_decode_alone "%E4%B8é" hclear'
  have hrun : IsMaximalRun ['中'] "%C3%A9".toList ['é'] := by
    refine ⟨by decide, ⟨["%C3".toList, "%A9".toList], by decide, ?_⟩, ?_, ?_⟩
    · rw [List.forall_mem_cons, List.forall_mem_singleton]
      exact ⟨⟨'C', '3', by decide, by decide, by decide⟩, ⟨'A', '9', by decide, by decide, by decide⟩⟩
    · rintro e ⟨high, low, rfl, -, -⟩ hsuffix
      have hlength := hsuffix.length_le
      simp only [List.length_cons, List.length_nil] at hlength
      omega
    · rintro e ⟨high, low, rfl, -, -⟩ hprefix
      have hlength := hprefix.length_le
      simp only [List.length_cons, List.length_nil] at hlength
      omega
  have hfront : decode (.ofList "中%C3%A9".toList) = .ok "中é" := by decide +kernel
  have hliteral : IsLiteral "中%C3%A9".toList 'é' := ⟨by decide, not_faultAt_of_decode hfront⟩
  refine ⟨hclear, ⟨hdecode, hrun, hruns.1 ⟨_, hdecode⟩ _ _ _ (by decide) hrun⟩,
    ⟨hliteral, (hliterals _ _ _ (by decide) hliteral _).1 hdecode⟩, hclear', hdecode', ?_⟩
  intro hall
  obtain ⟨decoded, hdecoded⟩ := hruns'.2 hall
  rw [hdecode'] at hdecoded
  cases hdecoded

end NativeBootstrap.Percent
