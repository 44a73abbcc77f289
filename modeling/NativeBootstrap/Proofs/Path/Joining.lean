import NativeBootstrap.Proofs.Path.Segments

/-!
# The pieces of a joined text

For a separator of one character, a join loses, merges and invents no piece. `split` cuts a text at
its separators. A separator at the end of a text leaves an empty piece behind it, which `chop` takes
away: that separator is the joint to the text that follows. So each segment that is not skipped adds
its own pieces behind the chopped ones of the text so far (`split_extend`, `chop_extend`), and the
induction over the segments gives the pieces of the whole (`split_joinWith`).
-/

set_option autoImplicit false

namespace NativeBootstrap.Path

/-! ## Pieces -/

/-- The pieces of a text between separators, empty ones too; there is always one at least. -/
def split (c : Char) (text : String) : List String := (text.toList.splitOn c).map String.ofList

/-- The pieces of a text without the empty one behind a separator at its end. -/
def chop (c : Char) (text : String) : List String :=
  if endsWith text (String.singleton c) then (split c text).dropLast else split c text

variable {c : Char}

theorem split_ne_nil (c : Char) (text : String) : split c text ≠ [] := by
  simp [split, List.splitOn_ne_nil]

/-- Cutting at a separator. All else about pieces follows from this equation. -/
theorem split_append_separator (c : Char) (front back : String) :
    split c (front ++ String.singleton c ++ back) = split c front ++ split c back := by
  simp [split, List.splitOn_append_cons_self]

/-- A text without the separator is its own only piece. -/
theorem split_of_not_mem {text : String} (h : c ∉ text.toList) : split c text = [text] := by
  simp [split, List.splitOn_eq_singleton h]

theorem chop_of_endsWith {text : String} (h : endsWith text (String.singleton c) = true) :
    chop c text = (split c text).dropLast :=
  if_pos h

theorem chop_of_not_endsWith {text : String} (h : endsWith text (String.singleton c) = false) :
    chop c text = split c text := by
  simp [chop, h]

/-- What is chopped off is one empty piece. -/
theorem chop_append_separator (c : Char) (front : String) :
    chop c (front ++ String.singleton c) = split c front := by
  have hsplit : split c (front ++ String.singleton c) = split c front ++ [""] := by
    simpa [split] using split_append_separator c front ""
  rw [chop_of_endsWith (endsWith_iff.2 ⟨front, rfl⟩), hsplit, List.dropLast_concat]

/-- A text without the separator is its own only piece, chopped or not. -/
theorem chop_of_not_mem {text : String} (h : c ∉ text.toList) : chop c text = [text] := by
  have hends : endsWith text (String.singleton c) = false := by
    refine Bool.eq_false_iff.2 fun hends => h ?_
    obtain ⟨front, rfl⟩ := endsWith_iff.1 hends
    simp
  rw [chop_of_not_endsWith hends, split_of_not_mem h]

theorem flatMap_chop_of_not_mem {texts : List String} (h : ∀ text ∈ texts, c ∉ text.toList) :
    texts.flatMap (chop c) = texts := by
  induction texts with
  | nil => rfl
  | cons text texts ih =>
      obtain ⟨htext, htexts⟩ := List.forall_mem_cons.1 h
      rw [List.flatMap_cons, chop_of_not_mem htext, ih htexts, List.singleton_append]

/-! ## The pieces of one more segment -/

/-- A segment adds its pieces. The separator before it is written, or is the one that ends the text
so far. -/
theorem split_extend {segment : String} (h : isSkipped (String.singleton c) segment = false)
    (text : String) :
    split c (extend (String.singleton c) text segment) = chop c text ++ split c segment := by
  cases hends : endsWith text (String.singleton c) with
  | true =>
      rw [extend_of_endsWith h hends]
      obtain ⟨front, rfl⟩ := endsWith_iff.1 hends
      rw [chop_append_separator, split_append_separator]
  | false =>
      rw [extend_of_not_endsWith h hends, chop_of_not_endsWith hends, split_append_separator]

/-- A text with one more segment ends as that segment does. -/
theorem endsWith_extend {segment : String} (h : isSkipped (String.singleton c) segment = false)
    (text : String) :
    endsWith (extend (String.singleton c) text segment) (String.singleton c) =
      endsWith segment (String.singleton c) := by
  -- A segment that is not skipped is at least as long as a separator of one character.
  have hne : segment ≠ "" := by
    rintro rfl
    simp [isSkipped] at h
  have hlength : (String.singleton c).length ≤ segment.length := by
    have hpos : segment.length ≠ 0 := by simpa using hne
    have hone : (String.singleton c).length = 1 := by simp
    omega
  rw [extend_eq_closed_append h, endsWith_append hlength]

theorem chop_extend {segment : String} (h : isSkipped (String.singleton c) segment = false)
    (text : String) :
    chop c (extend (String.singleton c) text segment) = chop c text ++ chop c segment := by
  have hextend := endsWith_extend h text
  cases hends : endsWith segment (String.singleton c) with
  | true =>
      rw [chop_of_endsWith (hextend.trans hends), split_extend h, chop_of_endsWith hends,
        List.dropLast_append_of_ne_nil (split_ne_nil c segment)]
  | false =>
      rw [chop_of_not_endsWith (hextend.trans hends), split_extend h, chop_of_not_endsWith hends]

/-! ## All segments -/

/-- The pieces of a join of segments of which none is skipped: the chopped ones of each text but the
last, and all of the last. -/
theorem split_joinWith_of_not_isSkipped {segments : List String}
    (h : ∀ segment ∈ segments, isSkipped (String.singleton c) segment = false) (base : String) :
    split c (joinWith (String.singleton c) base segments) =
      (base :: segments).dropLast.flatMap (chop c) ++
        split c ((base :: segments).getLast (List.cons_ne_nil _ _)) := by
  induction segments generalizing base with
  | nil => rfl
  | cons segment segments ih =>
      obtain ⟨hsegment, hsegments⟩ := List.forall_mem_cons.1 h
      show split c (joinWith _ (extend _ base segment) segments) = _
      rw [ih hsegments]
      cases segments with
      | nil => simpa using split_extend hsegment base
      -- The base of the hypothesis holds the first segment, so its chopped pieces are of both.
      | cons next segments => simp [chop_extend hsegment]

/-- **Joining loses, merges and invents nothing.** For a separator of one character, the pieces of a
join are the chopped pieces of the base and of each segment that is not skipped, but for the last of
these texts, which has all of its pieces. Where no such segment holds the separator, these are the
pieces of the base, chopped if a segment follows, and then the segments themselves. -/
theorem split_joinWith (c : Char) (base : String) (segments : List String) :
    split c (joinWith (String.singleton c) base segments) =
        (base :: kept (String.singleton c) segments).dropLast.flatMap (chop c) ++
          split c
            ((base :: kept (String.singleton c) segments).getLast (List.cons_ne_nil _ _)) ∧
      ((∀ segment ∈ kept (String.singleton c) segments, c ∉ segment.toList) →
        split c (joinWith (String.singleton c) base segments) =
          (if kept (String.singleton c) segments = [] then split c base else chop c base) ++
            kept (String.singleton c) segments) := by
  have hskipped : ∀ segment ∈ kept (String.singleton c) segments,
      isSkipped (String.singleton c) segment = false :=
    fun _ => isSkipped_of_mem_kept
  have hpieces := split_joinWith_of_not_isSkipped hskipped base
  rw [joinWith_kept] at hpieces
  refine ⟨hpieces, ?_⟩
  intro hfree
  rw [hpieces]
  generalize kept (String.singleton c) segments = texts at hfree
  cases texts with
  | nil => simp
  | cons text texts =>
      have hchop : (text :: texts).dropLast.flatMap (chop c) = (text :: texts).dropLast :=
        flatMap_chop_of_not_mem fun piece hpiece => hfree piece (List.dropLast_subset _ hpiece)
      have hlast : split c ((text :: texts).getLast (List.cons_ne_nil _ _)) =
          [(text :: texts).getLast (List.cons_ne_nil _ _)] :=
        split_of_not_mem (hfree _ (List.getLast_mem _))
      rw [List.dropLast_cons_of_ne_nil (List.cons_ne_nil _ _), List.flatMap_cons, hchop,
        List.getLast_cons (List.cons_ne_nil _ _), hlast, List.append_assoc,
        List.dropLast_concat_getLast, if_neg (List.cons_ne_nil _ _)]

example : split '/' (joinWith "/" "/opt//" ["", "a//", "/", "b"]) =
    ["", "opt", "", "a", "", "b"] := by decide +kernel

end NativeBootstrap.Path
