import Mathlib.Data.List.ReduceOption
import NativeBootstrap.Path.Join

/-!
# The segments of a join

What holds of joins with a separator of any length, the empty one included. A segment that is not
skipped is appended to the text so far, which is given a separator at its end first, if it has none
(`closed`, `extend_eq_closed_append`). So a join only appends to its base (`joinWith_eq_append`), and
it depends on the segments that count and on no others (`joinWith_kept`).

The main statement is `joining_in_stages`: how a list of segments is cut into several joins does not
matter, and neither do blank segments anywhere. `joinWith_names` gives the joined text where no
segment shares a character with the separator.
-/

set_option autoImplicit false

namespace NativeBootstrap.Path

/-! ## Segments that count -/

/-- The segments that a join does not skip: those that are neither empty nor the separator. -/
def kept (separator : String) (segments : List String) : List String :=
  segments.filter fun segment => segment != "" && segment != separator

theorem kept_cons (separator segment : String) (segments : List String) :
    kept separator (segment :: segments) =
      if isSkipped separator segment then kept separator segments
      else segment :: kept separator segments := by
  by_cases hempty : segment = "" <;> by_cases hseparator : segment = separator <;>
    simp [kept, isSkipped, hempty, hseparator]

theorem isSkipped_of_mem_kept {separator segment : String} {segments : List String}
    (h : segment ∈ kept separator segments) : isSkipped separator segment = false := by
  have hkept := (List.mem_filter.1 h).2
  simp only [Bool.and_eq_true, bne_iff_ne, ne_eq] at hkept
  simp [isSkipped, hkept]

/-! ## One more segment -/

/-- Whether a text ends in another, told by what stands before the end. -/
theorem endsWith_iff {text ending : String} :
    endsWith text ending = true ↔ ∃ front, text = front ++ ending := by
  rw [endsWith, List.isSuffixOf_iff_suffix]
  constructor
  · rintro ⟨front, hfront⟩
    refine ⟨String.ofList front, ?_⟩
    rw [← String.toList_inj, String.toList_append, String.toList_ofList, hfront]
  · rintro ⟨front, rfl⟩
    exact ⟨front.toList, (String.toList_append ..).symm⟩

@[simp] theorem endsWith_append_self (text ending : String) :
    endsWith (text ++ ending) ending = true :=
  endsWith_iff.2 ⟨text, rfl⟩

/-- What stands before a text does not matter for an ending that is no longer than it. -/
theorem endsWith_append {text ending : String} (h : ending.length ≤ text.length) (front : String) :
    endsWith (front ++ text) ending = endsWith text ending := by
  have hlength : ending.toList.length ≤ text.toList.length := by
    simpa [String.length_toList] using h
  rw [Bool.eq_iff_iff, endsWith, endsWith, List.isSuffixOf_iff_suffix, List.isSuffixOf_iff_suffix,
    String.toList_append]
  constructor
  · intro hends
    exact List.suffix_of_suffix_length_le hends (List.suffix_append _ _) hlength
  · intro hends
    exact hends.trans (List.suffix_append _ _)

theorem endsWith_append_of_endsWith {text ending : String} (h : endsWith text ending = true)
    (front : String) : endsWith (front ++ text) ending = true := by
  obtain ⟨rest, rfl⟩ := endsWith_iff.1 h
  rw [← String.append_assoc]
  exact endsWith_append_self _ _

/-- A text with a separator at its end: the one it ends in, or one more. -/
def closed (separator text : String) : String :=
  if endsWith text separator then text else text ++ separator

theorem closed_of_endsWith {separator text : String} (h : endsWith text separator = true) :
    closed separator text = text :=
  if_pos h

theorem closed_of_not_endsWith {separator text : String} (h : endsWith text separator = false) :
    closed separator text = text ++ separator := by
  simp [closed, h]

@[simp] theorem endsWith_closed (separator text : String) :
    endsWith (closed separator text) separator = true := by
  cases h : endsWith text separator with
  | true => rw [closed_of_endsWith h, h]
  | false => rw [closed_of_not_endsWith h, endsWith_append_self]

/-- Closing a text needs nothing, or one separator. -/
theorem exists_closed_eq (separator text : String) :
    ∃ gap, (gap = "" ∨ gap = separator) ∧ closed separator text = text ++ gap := by
  cases h : endsWith text separator with
  | true => exact ⟨"", .inl rfl, by rw [closed_of_endsWith h, String.append_empty]⟩
  | false => exact ⟨separator, .inr rfl, closed_of_not_endsWith h⟩

section Extend

variable {separator segment text : String}

theorem extend_of_isSkipped (h : isSkipped separator segment = true) (text : String) :
    extend separator text segment = text := by
  simp [extend, h]

theorem extend_of_endsWith (h : isSkipped separator segment = false)
    (hends : endsWith text separator = true) : extend separator text segment = text ++ segment := by
  simp [extend, h, hends]

theorem extend_of_not_endsWith (h : isSkipped separator segment = false)
    (hends : endsWith text separator = false) :
    extend separator text segment = text ++ separator ++ segment := by
  simp [extend, h, hends]

/-- A segment that is not skipped is appended to the closed text. -/
theorem extend_eq_closed_append (h : isSkipped separator segment = false) (text : String) :
    extend separator text segment = closed separator text ++ segment := by
  cases hends : endsWith text separator with
  | true => rw [extend_of_endsWith h hends, closed_of_endsWith hends]
  | false => rw [extend_of_not_endsWith h hends, closed_of_not_endsWith hends]

end Extend

/-- A segment adds something behind the text so far. -/
theorem extend_eq_append (separator text segment : String) :
    ∃ more, extend separator text segment = text ++ more := by
  cases h : isSkipped separator segment with
  | true => exact ⟨"", by rw [extend_of_isSkipped h, String.append_empty]⟩
  | false =>
      obtain ⟨gap, -, hgap⟩ := exists_closed_eq separator text
      exact ⟨gap ++ segment, by rw [extend_eq_closed_append h, hgap, String.append_assoc]⟩

/-! ## Joins in stages -/

theorem joinWith_append (separator base : String) (front back : List String) :
    joinWith separator base (front ++ back) = joinWith separator (joinWith separator base front) back :=
  List.foldl_append

/-- Joining only appends to the base. -/
theorem joinWith_eq_append (separator base : String) (segments : List String) :
    ∃ tail, joinWith separator base segments = base ++ tail := by
  unfold joinWith
  induction segments generalizing base with
  | nil => exact ⟨"", by simp⟩
  | cons segment segments ih =>
      obtain ⟨more, hmore⟩ := extend_eq_append separator base segment
      obtain ⟨tail, htail⟩ := ih (base ++ more)
      rw [List.foldl_cons, hmore, htail]
      exact ⟨more ++ tail, String.append_assoc ..⟩

/-- A join depends on the segments that it does not skip, and on no others. -/
theorem joinWith_kept (separator base : String) (segments : List String) :
    joinWith separator base (kept separator segments) = joinWith separator base segments := by
  induction segments generalizing base with
  | nil => rfl
  | cons segment segments ih =>
      show _ = joinWith separator (extend separator base segment) segments
      rw [kept_cons]
      cases hskipped : isSkipped separator segment with
      | true => rw [if_pos rfl, ih, extend_of_isSkipped hskipped]
      | false =>
          rw [if_neg Bool.false_ne_true]
          exact ih (extend separator base segment)

theorem kept_append (separator : String) (front back : List String) :
    kept separator (front ++ back) = kept separator front ++ kept separator back :=
  List.filter_append ..

/-- Of segments that are all empty or the separator, none counts. -/
theorem kept_eq_nil {separator : String} {segments : List String}
    (h : ∀ segment ∈ segments, segment = "" ∨ segment = separator) :
    kept separator segments = [] := by
  apply List.filter_eq_nil_iff.2
  intro segment hmem
  rcases h segment hmem with rfl | rfl <;> simp

/-- Joins one after the other are one join of all their segments. -/
theorem foldl_joinWith (separator base : String) (stages : List (List String)) :
    stages.foldl (joinWith separator) base = joinWith separator base stages.flatten := by
  induction stages generalizing base with
  | nil => rfl
  | cons stage stages ih =>
      rw [List.foldl_cons, ih, List.flatten_cons, joinWith_append]

/-- **Joining in stages is joining at once, and blank segments never matter.** Two joins one after
the other give what one join gives, if the segments that count are the same. In particular a join
may be cut into several at any points, and segments that are absent, empty or only the separator may
be put in or left out anywhere. The separator may be any text, the empty one too. -/
theorem joining_in_stages (separator base : String) :
    (∀ first second once : List String,
      kept separator once = kept separator first ++ kept separator second →
      joinWith separator (joinWith separator base first) second = joinWith separator base once) ∧
    (∀ stages : List (List String),
      stages.foldl (joinWith separator) base = joinWith separator base stages.flatten) ∧
    (∀ before blanks after : List (Option String),
      (∀ blank ∈ blanks, blank = none ∨ blank = some "" ∨ blank = some separator) →
      joinWith separator base (before ++ blanks ++ after).reduceOption =
        joinWith separator base (before ++ after).reduceOption) := by
  refine ⟨?_, foldl_joinWith separator base, ?_⟩
  · intro first second once honce
    calc joinWith separator (joinWith separator base first) second
        = joinWith separator (joinWith separator base (kept separator first))
            (kept separator second) := by rw [joinWith_kept, joinWith_kept]
      _ = joinWith separator base (kept separator first ++ kept separator second) :=
          (joinWith_append ..).symm
      _ = joinWith separator base (kept separator once) := by rw [honce]
      _ = joinWith separator base once := joinWith_kept ..
  · intro before blanks after hblanks
    -- What is left of the blanks does not count.
    have hnone : kept separator blanks.reduceOption = [] := by
      apply kept_eq_nil
      intro segment hmem
      rcases hblanks (some segment) (List.reduceOption_mem_iff.1 hmem) with h | h | h
      · cases h
      · exact .inl (Option.some.inj h)
      · exact .inr (Option.some.inj h)
    rw [← joinWith_kept, ← joinWith_kept separator base (before ++ after).reduceOption,
      List.reduceOption_append, List.reduceOption_append, List.reduceOption_append, kept_append,
      kept_append, kept_append, hnone, List.append_nil]

/-! ## Names without the separator -/

section Names

variable {separator name : String}

/-- A text that ends with a name ends in no separator, if the name holds no character of it. -/
theorem endsWith_append_name (hseparator : separator ≠ "") (hname : name ≠ "")
    (hfree : ∀ c ∈ separator.toList, c ∉ name.toList) (front : String) :
    endsWith (front ++ name) separator = false := by
  have hlast : name.toList ≠ [] := by simpa using hname
  have hseparatorLast : separator.toList ≠ [] := by simpa using hseparator
  apply Bool.eq_false_iff.2
  intro hends
  obtain ⟨rest, hrest⟩ := endsWith_iff.1 hends
  -- The last character of the text is that of the name and that of the separator.
  have hchar : name.toList.getLast hlast = separator.toList.getLast hseparatorLast := by
    have htexts := congrArg (fun text : String => text.toList.getLast?) hrest
    simpa [List.getLast?_append, List.getLast?_eq_some_getLast, hlast, hseparatorLast] using htexts
  exact hfree _ (List.getLast_mem hseparatorLast) (hchar ▸ List.getLast_mem hlast)

theorem isSkipped_name (hseparator : separator ≠ "") (hname : name ≠ "")
    (hfree : ∀ c ∈ separator.toList, c ∉ name.toList) : isSkipped separator name = false := by
  have hne : name ≠ separator := by
    rintro rfl
    have hself := endsWith_append_name hseparator hname hfree ""
    rw [endsWith_append_self] at hself
    cases hself
  simp [isSkipped, hname, hne]

/-- Names that hold no character of the separator are joined with one separator between each two,
behind the base with a separator at its end. -/
theorem joinWith_names {names : List String} (hseparator : separator ≠ "") (hnames : names ≠ [])
    (h : ∀ name ∈ names, name ≠ "" ∧ ∀ c ∈ separator.toList, c ∉ name.toList) (base : String) :
    joinWith separator base names = closed separator base ++ separator.intercalate names := by
  induction names generalizing base with
  | nil => exact absurd rfl hnames
  | cons name names ih =>
      obtain ⟨⟨hname, hfree⟩, hrest⟩ := List.forall_mem_cons.1 h
      have hextend : extend separator base name = closed separator base ++ name :=
        extend_eq_closed_append (isSkipped_name hseparator hname hfree) base
      show joinWith separator (extend separator base name) names = _
      cases names with
      | nil => rw [hextend, String.intercalate_singleton]; rfl
      | cons next names =>
          have hends := endsWith_append_name hseparator hname hfree (closed separator base)
          rw [ih (List.cons_ne_nil _ _) hrest, hextend, closed_of_not_endsWith hends,
            String.intercalate_cons_cons]
          simp only [String.append_assoc]

end Names

end NativeBootstrap.Path
