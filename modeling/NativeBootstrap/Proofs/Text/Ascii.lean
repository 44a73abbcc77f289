import NativeBootstrap.Proofs.Text.Boundaries

/-!
# ASCII characters in UTF-8

An ASCII character is written as one byte, its code, and no other character has that byte. So an
ASCII byte in the bytes of a text is always a character of that text, and the text can be cut there:
`exists_of_encode_eq_append_cons` turns a cut of the bytes into one of the text.
-/

set_option autoImplicit false

namespace NativeBootstrap.Utf8

/-- The code of a character, as a byte. -/
def code (c : Char) : UInt8 := UInt8.ofNat c.toNat

theorem utf8EncodeChar_of_lt {c : Char} (h : c.toNat < 0x80) : String.utf8EncodeChar c = [code c] := by
  have hval : c.val.toNat ≤ 127 := Nat.le_of_lt_succ h
  simp only [String.utf8EncodeChar, hval, ↓reduceIte]
  rfl

/-- A text of ASCII characters is written with their codes. -/
theorem encode_ofList_of_lt {cs : List Char} (h : ∀ c ∈ cs, c.toNat < 0x80) :
    encode (String.ofList cs) = cs.map code := by
  rw [encode_ofList]
  induction cs with
  | nil => rfl
  | cons c cs ih =>
      obtain ⟨hc, hcs⟩ := List.forall_mem_cons.1 h
      rw [List.flatMap_cons, utf8EncodeChar_of_lt hc, ih hcs]
      rfl

/-- Where the bytes of a text hold the code of an ASCII character, the text holds that character, and
the bytes on either side are those of the text on that side. -/
theorem exists_of_encode_eq_append_cons {text : String} {c : Char} (hc : c.toNat < 0x80)
    {front back : Bytes} (h : encode text = front ++ code c :: back) :
    ∃ before after : List Char, text.toList = before ++ c :: after ∧
      encode (.ofList before) = front ∧ encode (.ofList after) = back := by
  apply exists_of_encode_eq_append_char
  rw [utf8EncodeChar_of_lt hc, List.singleton_append, h]

/-- A text whose first byte is the code of an ASCII character begins with that character. -/
theorem exists_of_encode_eq_cons {cs : List Char} {c : Char} (hc : c.toNat < 0x80) {back : Bytes}
    (h : encode (.ofList cs) = code c :: back) :
    ∃ after, cs = c :: after ∧ encode (.ofList after) = back := by
  rw [← List.singleton_append, ← utf8EncodeChar_of_lt hc] at h
  obtain ⟨after, hafter, hback⟩ := exists_cons_of_encode_eq_append h
  rw [String.toList_ofList] at hafter
  exact ⟨after, hafter, hback⟩

theorem encode_ofList_cons {c : Char} (hc : c.toNat < 0x80) (after : List Char) :
    encode (.ofList (c :: after)) = code c :: encode (.ofList after) := by
  rw [encode_ofList, encode_ofList, List.flatMap_cons, utf8EncodeChar_of_lt hc]
  rfl

theorem encode_ofList_append_cons {c : Char} (hc : c.toNat < 0x80) (before after : List Char) :
    encode (.ofList (before ++ c :: after)) =
      encode (.ofList before) ++ code c :: encode (.ofList after) := by
  simp only [encode_ofList, List.flatMap_append, List.flatMap_cons, utf8EncodeChar_of_lt hc,
    List.cons_append, List.nil_append]

theorem code_mem_encode_iff {text : String} {c : Char} (hc : c.toNat < 0x80) :
    code c ∈ encode text ↔ c ∈ text.toList := by
  constructor
  · intro h
    obtain ⟨front, back, hcut⟩ := List.append_of_mem h
    obtain ⟨before, after, htext, -, -⟩ := exists_of_encode_eq_append_cons hc hcut
    simp [htext]
  · intro h
    obtain ⟨before, after, htext⟩ := List.append_of_mem h
    rw [← String.ofList_toList (s := text), htext, encode_ofList_append_cons hc]
    simp

end NativeBootstrap.Utf8
