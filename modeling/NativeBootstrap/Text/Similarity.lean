/-!
# Similarity of texts

The similarity of Jaro, by which a misspelt name is told. Equal characters of two texts are paired
if they do not lie too far apart; what counts is how much of each text is paired, and how many of
the pairs stand in the same order in both.
-/

set_option autoImplicit false

namespace NativeBootstrap.Similarity

/-- The position of the first character of a text that equals `c`, lies at most `reach` away from
position `i` and is not taken. -/
def partner? (reach : Nat) (text : List Char) (taken : List Nat) (i : Nat) (c : Char) : Option Nat :=
  (List.range text.length).find? fun j =>
    i - reach ≤ j && j ≤ i + reach && text[j]? == some c && !taken.contains j

/-- The characters that find a partner in a text, each with the partner's position. The characters
are those from position `i` on, and `taken` holds the positions given away before. -/
def pairs (reach : Nat) (text : List Char) : Nat → List Nat → List Char → List (Char × Nat)
  | _, _, [] => []
  | i, taken, c :: rest =>
    match partner? reach text taken i c with
    | some j => (c, j) :: pairs reach text (i + 1) (j :: taken) rest
    | none => pairs reach text (i + 1) taken rest

/-- How far apart the two characters of a pair may lie. -/
def reach (a b : List Char) : Nat := max a.length b.length / 2 - 1

/-- The number of pairs, and half the number of those that stand out of order. -/
def tally (a b : List Char) : Nat × Nat :=
  let paired := pairs (reach a b) b 0 [] a
  let inOrder := (paired.map (·.2)).mergeSort.filterMap fun j => b[j]?
  (paired.length, ((paired.map (·.1)).zip inOrder).countP (fun pair => pair.1 != pair.2) / 2)

/-- The similarity of two texts, from zero for none to one for equal texts. -/
def jaro (a b : List Char) : Float :=
  if a.isEmpty && b.isEmpty then 1
  else
    let (matched, swapped) := tally a b
    if matched = 0 then 0
    else
      (matched.toFloat / a.length.toFloat + matched.toFloat / b.length.toFloat
        + (matched - swapped).toFloat / matched.toFloat) / 3

/-- The similarity above which a name may be meant. -/
def threshold : Float := 0.7

/-- The candidate whose name is most similar to a text, of equals the last, if it may be meant. -/
def closest? {α : Type} (name : α → String) (text : String) (candidates : List α) : Option α :=
  let better (best : Option (α × Float)) (candidate : α) : Option (α × Float) :=
    let similarity := jaro text.toList (name candidate).toList
    if similarity > threshold then
      match best with
      | some (_, greatest) => if greatest > similarity then best else some (candidate, similarity)
      | none => some (candidate, similarity)
    else best
  (candidates.foldl better none).map (·.1)

end NativeBootstrap.Similarity
