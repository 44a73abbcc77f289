/-!
# Occurrence in a text

Whether one text stands somewhere in another. The empty text stands in every text.
-/

set_option autoImplicit false

namespace NativeBootstrap.Text

/-- Whether a list of characters occurs in another without a gap. -/
def occursIn (needle : List Char) : List Char → Bool
  | [] => needle.isEmpty
  | c :: rest => needle.isPrefixOf (c :: rest) || occursIn needle rest

theorem occursIn_iff {needle text : List Char} : occursIn needle text = true ↔ needle <:+: text := by
  induction text with
  | nil => simp [occursIn]
  | cons c rest ih =>
      rw [occursIn, Bool.or_eq_true, ih, List.isPrefixOf_iff_prefix, List.infix_cons_iff]

end NativeBootstrap.Text
