import NativeBootstrap.Proofs.Percent.Encoding

/-!
# Scans by a cursor

A scan stands at a cursor, the number of bytes that it has passed. A loop over the cursor alone has
to slice the bytes twice in each step: from the cursor to the end, which is an error if the cursor is
behind the end, and for the two bytes behind a `%`, which may not be there (`stepAt?`). A scan that
is under way never meets the error: what it has passed and what is ahead of it are always the bytes
before and behind its cursor (`Scan.Sound`), so its step is the step of the loop.

`Scan.Finds` lists what a step finds. What each step keeps is read off it (`Scan.Sound.step`), and by
induction what any number of steps keeps (`Scan.Sound.of_comes`). The main statement is
`scan_stays_in_range_and_ends`.
-/

set_option autoImplicit false

namespace NativeBootstrap.Percent

/-! ## The loop over a cursor -/

/-- The bytes from one place to another, if there are such places. -/
def slice? (bytes : Bytes) (start stop : Nat) : Option Bytes :=
  if start ≤ stop ∧ stop ≤ bytes.length then some ((bytes.take stop).drop start) else none

/-- The cursor of a scan: how many bytes it has passed. -/
def Scan.cursor (s : Scan) : Nat := s.passed.length

/-- The scan of a byte string that stands at a cursor. -/
def scanAt (bytes : Bytes) (cursor : Nat) : Scan := ⟨bytes.take cursor, bytes.drop cursor⟩

/-- One step of a scan that knows only its cursor, or none if it slices the bytes where there are
none. -/
def stepAt? (bytes : Bytes) (cursor : Nat) : Option Scan.Finding :=
  (slice? bytes cursor bytes.length).map fun ahead =>
    match ahead.findIdx? (· == sign) with
    | none => .clear
    | some place =>
      let offset := cursor + place
      -- The digits may be missing, which is a fault and not an error of the loop.
      match slice? bytes (offset + 1) (offset + 3) with
      | some digits =>
        if digits.all fun digit => (hexValue? digit).isSome then .next (scanAt bytes (offset + 3))
        else .fault offset
      | none => .fault offset

/-- The scans to which a scan comes after a number of steps. -/
inductive Scan.Comes (s : Scan) : Nat → Scan → Prop where
  | start : Comes s 0 s
  | step {rounds : Nat} {t u : Scan} : Comes s rounds t → t.step = .next u → Comes s (rounds + 1) u

theorem slice?_append (front middle back : Bytes) :
    slice? (front ++ (middle ++ back)) front.length (front.length + middle.length) = some middle := by
  have hrange : front.length + middle.length ≤ (front ++ (middle ++ back)).length := by
    simp only [List.length_append]
    omega
  rw [slice?, if_pos ⟨Nat.le_add_right _ _, hrange⟩, ← List.append_assoc, ← List.length_append,
    List.take_left, List.drop_left]

theorem slice?_of_lt {bytes : Bytes} {start stop : Nat} (h : bytes.length < stop) :
    slice? bytes start stop = none := by
  rw [slice?, if_neg]
  rintro ⟨-, hle⟩
  exact absurd h (Nat.not_lt.2 hle)

/-! ## What a step finds -/

/-- What a step finds, told from the bytes ahead: they are literal; or literal up to a `%` that
introduces no escape; or literal up to an escape, and the scan goes on behind that. -/
inductive Scan.Finds : Scan → Scan.Finding → Prop where
  | clear {passed literal : Bytes} : sign ∉ literal → Finds ⟨passed, literal⟩ .clear
  | fault {passed literal after : Bytes} :
      sign ∉ literal → ¬ IntroducesEscape after →
      Finds ⟨passed, literal ++ sign :: after⟩ (.fault (passed.length + literal.length))
  | next {passed literal rest : Bytes} {high low : UInt8} :
      sign ∉ literal → IntroducesEscape (high :: low :: rest) →
      Finds ⟨passed, literal ++ sign :: high :: low :: rest⟩
        (.next ⟨passed ++ literal ++ [sign, high, low], rest⟩)

theorem not_introducesEscape_of_lt {after : Bytes} (h : after.length < 2) :
    ¬ IntroducesEscape after := by
  rintro ⟨high, low, byte, rest, rfl, -⟩
  simp only [List.length_cons] at h
  omega

theorem Scan.finds_step (s : Scan) : s.Finds s.step := by
  obtain ⟨passed, ahead⟩ := s
  have hpass : ∀ literal : Bytes, sign ∉ literal → ∀ b ∈ literal, (b != sign) = true :=
    fun literal hliteral b hb => bne_iff_ne.2 fun hsign => hliteral (hsign ▸ hb)
  by_cases hmem : sign ∈ ahead
  · obtain ⟨literal, after, rfl, hliteral⟩ := List.eq_append_cons_of_mem hmem
    have htake : (literal ++ sign :: after).takeWhile (· != sign) = literal := by
      rw [List.takeWhile_append_of_pos (hpass literal hliteral)]
      simp
    have hdrop : (literal ++ sign :: after).dropWhile (· != sign) = sign :: after := by
      rw [List.dropWhile_append_of_pos (hpass literal hliteral)]
      simp
    simp only [Scan.step, htake, hdrop]
    rcases after with _ | ⟨high, _ | ⟨low, rest⟩⟩
    · exact .fault hliteral (not_introducesEscape_of_lt Nat.zero_lt_two)
    · exact .fault hliteral (not_introducesEscape_of_lt Nat.one_lt_two)
    · dsimp only
      split
      · rename_i hescaped
        exact .next hliteral (introducesEscape_iff_isSome.2 hescaped)
      · rename_i hescaped
        exact .fault hliteral (mt introducesEscape_iff_isSome.1 hescaped)
  · have hdrop : ahead.dropWhile (· != sign) = [] := by
      rw [← List.append_nil ahead, List.dropWhile_append_of_pos (hpass ahead hmem)]
      rfl
    simp only [Scan.step, hdrop]
    exact .clear hmem

theorem findIdx?_eq_none {literal : Bytes} (h : sign ∉ literal) :
    literal.findIdx? (· == sign) = none := by
  rw [List.findIdx?_eq_none_iff]
  intro b hb
  exact beq_eq_false_iff_ne.2 fun hsign => h (hsign ▸ hb)

/-- The first `%` stands behind the literal bytes before it. -/
theorem findIdx?_append_sign {literal : Bytes} (h : sign ∉ literal) (after : Bytes) :
    (literal ++ sign :: after).findIdx? (· == sign) = some literal.length := by
  simp [List.findIdx?_append, findIdx?_eq_none h, List.findIdx?_cons]

theorem all_isSome_hexValue? (high low : UInt8) :
    ([high, low].all fun digit => (hexValue? digit).isSome) = (escaped? high low).isSome := by
  rw [List.all_cons, List.all_cons, List.all_nil, Bool.and_true, escaped?]
  cases hexValue? high with
  | none => rfl
  | some h =>
      cases hexValue? low with
      | none => rfl
      | some l => rfl

section Slices

variable (passed literal : Bytes)

theorem slice?_digits (high low : UInt8) (rest : Bytes) :
    slice? (passed ++ (literal ++ sign :: high :: low :: rest)) (passed.length + literal.length + 1)
      (passed.length + literal.length + 3) = some [high, low] := by
  have hslice := slice?_append (passed ++ literal ++ [sign]) [high, low] rest
  have hbytes : passed ++ literal ++ [sign] ++ ([high, low] ++ rest) =
      passed ++ (literal ++ sign :: high :: low :: rest) := by
    simp only [List.append_assoc, List.cons_append, List.nil_append]
  rwa [hbytes, List.length_append, List.length_append] at hslice

/-- There are no two bytes to slice where the byte string ends inside the escape. -/
theorem slice?_of_truncated (after : Bytes) (h : after.length < 2) :
    slice? (passed ++ (literal ++ sign :: after)) (passed.length + literal.length + 1)
      (passed.length + literal.length + 3) = none := by
  apply slice?_of_lt
  simp only [List.length_append, List.length_cons]
  omega

theorem scanAt_behind_escape (high low : UInt8) (rest : Bytes) :
    scanAt (passed ++ (literal ++ sign :: high :: low :: rest)) (passed.length + literal.length + 3) =
      ⟨passed ++ literal ++ [sign, high, low], rest⟩ := by
  have hbytes : passed ++ (literal ++ sign :: high :: low :: rest) =
      passed ++ literal ++ [sign, high, low] ++ rest := by
    simp only [List.append_assoc, List.cons_append, List.nil_append]
  have hlength : passed.length + literal.length + 3 =
      (passed ++ literal ++ [sign, high, low]).length := by
    rw [List.length_append, List.length_append]
    rfl
  rw [scanAt, hbytes, hlength, List.take_left, List.drop_left]

end Slices

/-- The step of a scan is the step of the loop at its cursor, which slices no bytes out of range. -/
theorem Scan.Finds.stepAt?_eq {s : Scan} {finding : Scan.Finding} (h : s.Finds finding) :
    stepAt? (s.passed ++ s.ahead) s.cursor = some finding := by
  have hahead : slice? (s.passed ++ s.ahead) s.cursor (s.passed ++ s.ahead).length = some s.ahead := by
    have hslice := slice?_append s.passed s.ahead []
    rwa [List.append_nil, ← List.length_append] at hslice
  rw [stepAt?, hahead, Option.map_some, Option.some.injEq]
  cases h with
  | clear hliteral => rw [findIdx?_eq_none hliteral]
  | @fault passed literal after hliteral hafter =>
      simp only [findIdx?_append_sign hliteral, Scan.cursor]
      rcases after with _ | ⟨high, _ | ⟨low, rest⟩⟩
      · rw [slice?_of_truncated passed literal [] Nat.zero_lt_two]
      · rw [slice?_of_truncated passed literal [high] Nat.one_lt_two]
      · rw [introducesEscape_iff_isSome] at hafter
        simp only [slice?_digits, all_isSome_hexValue?]
        exact if_neg hafter
  | @next passed literal rest high low hliteral hafter =>
      rw [introducesEscape_iff_isSome] at hafter
      simp only [findIdx?_append_sign hliteral, Scan.cursor, slice?_digits, all_isSome_hexValue?,
        scanAt_behind_escape]
      exact if_pos hafter

/-! ## What a scan keeps -/

/-- What holds of a scan of a byte string after a number of steps: it stands at a place in the bytes;
those before it are literal or belong to complete escapes; and it has passed three for each step. -/
structure Scan.Sound (bytes : Bytes) (rounds : Nat) (s : Scan) : Prop where
  append_eq : s.passed ++ s.ahead = bytes
  writes : ∃ plain, Writes (fun _ => False) s.passed plain
  rounds_le : 3 * rounds ≤ s.cursor

namespace Scan.Sound

variable {bytes : Bytes} {rounds : Nat} {s : Scan}

theorem cursor_le (h : s.Sound bytes rounds) : s.cursor ≤ bytes.length := by
  rw [← h.append_eq, List.length_append]
  exact Nat.le_add_right _ _

theorem take_cursor (h : s.Sound bytes rounds) : bytes.take s.cursor = s.passed := by
  rw [← h.append_eq]
  exact List.take_left

theorem drop_cursor (h : s.Sound bytes rounds) : bytes.drop s.cursor = s.ahead := by
  rw [← h.append_eq]
  exact List.drop_left

theorem start (bytes : Bytes) : Sound bytes 0 (scan bytes) :=
  ⟨rfl, ⟨[], .nil⟩, Nat.zero_le _⟩

/-- A step passes over literal bytes and one escape. -/
theorem step {t : Scan} (h : s.Sound bytes rounds) (hstep : s.step = .next t) :
    t.Sound bytes (rounds + 1) ∧ s.cursor + 3 ≤ t.cursor := by
  have hfinds := s.finds_step
  rw [hstep] at hfinds
  cases hfinds with
  | @next passed literal rest high low hliteral hescape =>
      obtain ⟨_, _, byte, _, hcut, hspells⟩ := hescape
      cases hcut
      obtain ⟨plain, hwrites⟩ := h.writes
      have hmore : passed.length + 3 ≤ (passed ++ literal ++ [sign, high, low]).length := by
        simp only [List.length_append, List.length_cons, List.length_nil]
        omega
      have hrounds : 3 * rounds ≤ passed.length := h.rounds_le
      refine ⟨⟨?_, ⟨plain ++ literal ++ [byte], ?_⟩, ?_⟩, hmore⟩
      · rw [← h.append_eq]
        simp only [List.append_assoc, List.cons_append, List.nil_append]
      · exact (hwrites.append (writes_self hliteral)).append (.escape not_false hspells .nil)
      · show 3 * (rounds + 1) ≤ (passed ++ literal ++ [sign, high, low]).length
        omega

/-- Any number of steps keeps it. -/
theorem of_comes (h : (scan bytes).Comes rounds s) : s.Sound bytes rounds := by
  induction h with
  | start => exact .start bytes
  | step _ hstep ih => exact (ih.step hstep).1

end Scan.Sound

/-! ## Where a scan ends -/

/-- What comes of a scan comes of one that steps to it, one step later. -/
theorem Scan.Comes.head {s t u : Scan} {rounds : Nat} (hstep : s.step = .next t)
    (h : t.Comes rounds u) : s.Comes (rounds + 1) u := by
  induction h with
  | start => exact .step .start hstep
  | step _ hlast ih => exact .step ih hlast

/-- Whether a scan ends with this outcome: no `%` ahead, or one at this offset that introduces no
escape. -/
def Scan.EndsWith (s : Scan) : Option Nat → Prop
  | none => s.step = .clear
  | some offset => s.step = .fault offset

/-- A scan comes to its end. -/
theorem Scan.exists_end (s : Scan) : ∃ rounds t, s.Comes rounds t ∧ t.EndsWith s.firstFault? := by
  fun_induction Scan.firstFault? s with
  | case1 s hstep => exact ⟨0, s, .start, hstep⟩
  | case2 s offset hstep => exact ⟨0, s, .start, hstep⟩
  | case3 s t hstep ih =>
      obtain ⟨rounds, u, hcomes, hend⟩ := ih
      exact ⟨rounds + 1, u, hcomes.head hstep, hend⟩

/-- **A scan stays in range and ends.** After any number of steps the cursor is within the bytes, so
that the loop over it slices them where they are and does what the scan does; the bytes before it are
literal or belong to complete escapes; the next step moves it by three bytes at least; and if there is
no next step and no fault, no `%` is behind it. After some number of steps, a third of the bytes at
most, the scan ends, with the outcome that decoding reads. -/
theorem scan_stays_in_range_and_ends (bytes : Bytes) :
    (∀ rounds s, (scan bytes).Comes rounds s →
      s.cursor ≤ bytes.length ∧ stepAt? bytes s.cursor = some s.step ∧
      (∃ plain, Writes (fun _ => False) (bytes.take s.cursor) plain) ∧ 3 * rounds ≤ s.cursor ∧
      (∀ t, s.step = .next t → s.cursor + 3 ≤ t.cursor) ∧
      (s.step = .clear → sign ∉ bytes.drop s.cursor)) ∧
    ∃ rounds s, (scan bytes).Comes rounds s ∧ 3 * rounds ≤ bytes.length ∧
      s.EndsWith (scan bytes).firstFault? := by
  constructor
  · intro rounds s hcomes
    have hsound := Scan.Sound.of_comes hcomes
    refine ⟨hsound.cursor_le, ?_, ?_, hsound.rounds_le, fun t hstep => (hsound.step hstep).2, ?_⟩
    · rw [← hsound.append_eq]
      exact s.finds_step.stepAt?_eq
    · rw [hsound.take_cursor]
      exact hsound.writes
    · intro hclear
      have hfinds := s.finds_step
      rw [hsound.drop_cursor]
      rw [hclear] at hfinds
      cases hfinds with
      | clear hliteral => exact hliteral
  · obtain ⟨rounds, s, hcomes, hend⟩ := (scan bytes).exists_end
    have hsound := Scan.Sound.of_comes hcomes
    exact ⟨rounds, s, hcomes, Nat.le_trans hsound.rounds_le hsound.cursor_le, hend⟩

/-- A scan behind its only escape, where the bytes end inside another, and one where no other is
ahead. -/
theorem scan_stays_in_range_and_ends_of_one_escape :
    ((scan (Utf8.encode "é%41中%4")).Comes 1 (scanAt (Utf8.encode "é%41中%4") 5) ∧
      5 ≤ (Utf8.encode "é%41中%4").length ∧
      stepAt? (Utf8.encode "é%41中%4") 5 = some (.fault 8)) ∧
    (scan (Utf8.encode "%41中")).Comes 1 (scanAt (Utf8.encode "%41中") 3) ∧
      (scanAt (Utf8.encode "%41中") 3).step = .clear ∧ sign ∉ (Utf8.encode "%41中").drop 3 := by
  obtain ⟨hfault, -⟩ := scan_stays_in_range_and_ends (Utf8.encode "é%41中%4")
  obtain ⟨hclear, -⟩ := scan_stays_in_range_and_ends (Utf8.encode "%41中")
  have hcomes : (scan (Utf8.encode "é%41中%4")).Comes 1 (scanAt (Utf8.encode "é%41中%4") 5) :=
    .step .start (by decide +kernel)
  have hcomes' : (scan (Utf8.encode "%41中")).Comes 1 (scanAt (Utf8.encode "%41中") 3) :=
    .step .start (by decide +kernel)
  have hstep : (scanAt (Utf8.encode "%41中") 3).step = .clear := by decide +kernel
  obtain ⟨hle, hloop, -⟩ := hfault 1 _ hcomes
  obtain ⟨-, -, -, -, -, hnone⟩ := hclear 1 _ hcomes'
  refine ⟨⟨hcomes, hle, ?_⟩, hcomes', hstep, hnone hstep⟩
  have hfound : (scanAt (Utf8.encode "é%41中%4") 5).step = .fault 8 := by decide +kernel
  rwa [hfound] at hloop

end NativeBootstrap.Percent
