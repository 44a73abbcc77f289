import NativeBootstrap.Text.Utf8

/-!
# Where characters begin

The bytes of a text are those of its characters, one after the other. The first byte of a character
is never a later byte of any other, so a place in the bytes where one stands is a place between two
characters (`exists_append_of_first`). No matter which bytes are around them, the bytes of a
character are therefore that character wherever the whole is a text
(`exists_of_encode_eq_append_char`), and what stands behind a text is a text by itself or not at all
(`decode?_encode_append`).
-/

set_option autoImplicit false

namespace NativeBootstrap.Utf8

/-! ## The bytes of a text -/

theorem encode_ofList (cs : List Char) :
    encode (String.ofList cs) = cs.flatMap String.utf8EncodeChar := by
  simp [encode, String.toByteArray_ofList, List.utf8Encode]

theorem encode_eq_flatMap (text : String) :
    encode text = text.toList.flatMap String.utf8EncodeChar := by
  rw [← encode_ofList, String.ofList_toList]

theorem encode_singleton (c : Char) : encode (.singleton c) = String.utf8EncodeChar c := by
  rw [encode_eq_flatMap, String.toList_singleton, List.flatMap_singleton]

theorem length_encode (text : String) : (encode text).length = text.utf8ByteSize := by
  simp [encode]

theorem getElem?_encode (text : String) (p : String.Pos.Raw) (h : p < text.rawEndPos) :
    (encode text)[p.byteIdx]? = some (text.getUTF8Byte p h) := by
  rw [encode, Array.getElem?_toList]
  exact Array.getElem?_eq_getElem h

/-! ## Front and back -/

/-- No character is written with the first bytes of another. -/
theorem utf8EncodeChar_append_inj {c d : Char} {rest rest' : Bytes}
    (h : String.utf8EncodeChar c ++ rest = String.utf8EncodeChar d ++ rest') :
    c = d ∧ rest = rest' := by
  have hread : ∀ (e : Char) (more : Bytes),
      (String.utf8EncodeChar e ++ more).toByteArray.utf8DecodeChar? 0 = some e := by
    intro e more
    rw [List.toByteArray_append]
    exact ByteArray.utf8DecodeChar?_utf8EncodeChar_append
  have hsame : some c = some d := by rw [← hread c rest, h, hread]
  obtain rfl := Option.some.inj hsame
  exact ⟨rfl, List.append_cancel_left h⟩

/-- A text whose bytes begin with those of a character begins with that character. -/
theorem exists_cons_of_encode_eq_append {text : String} {c : Char} {back : Bytes}
    (h : encode text = String.utf8EncodeChar c ++ back) :
    ∃ after : List Char, text.toList = c :: after ∧ encode (.ofList after) = back := by
  rw [encode_eq_flatMap] at h
  cases hlist : text.toList with
  | nil =>
      rw [hlist, List.flatMap_nil] at h
      exact absurd (List.append_eq_nil_iff.1 h.symm).1 String.utf8EncodeChar_ne_nil
  | cons d after =>
      rw [hlist, List.flatMap_cons] at h
      obtain ⟨rfl, hafter⟩ := utf8EncodeChar_append_inj h
      exact ⟨after, rfl, (encode_ofList after).trans hafter⟩

/-- A text whose bytes begin with those of another begins with that text. -/
theorem exists_of_encode_eq_encode_append {text front : String} {back : Bytes}
    (h : encode text = encode front ++ back) :
    ∃ rest : String, text = front ++ rest ∧ encode rest = back := by
  have hlist : ∀ cs : List Char, ∀ whole : String, encode whole = encode (.ofList cs) ++ back →
      ∃ rest : List Char, whole.toList = cs ++ rest ∧ encode (.ofList rest) = back := by
    intro cs
    induction cs with
    | nil =>
        intro whole hwhole
        exact ⟨whole.toList, rfl, by rw [String.ofList_toList, hwhole]; rfl⟩
    | cons c cs ih =>
        intro whole hwhole
        rw [encode_ofList, List.flatMap_cons, ← encode_ofList, List.append_assoc] at hwhole
        obtain ⟨after, hcons, hafter⟩ := exists_cons_of_encode_eq_append hwhole
        obtain ⟨rest, hrest, hback⟩ := ih _ hafter
        rw [String.toList_ofList] at hrest
        exact ⟨rest, by rw [hcons, hrest, List.cons_append], hback⟩
  obtain ⟨rest, hrest, hback⟩ := hlist front.toList text (by rwa [String.ofList_toList])
  refine ⟨.ofList rest, ?_, hback⟩
  rw [← String.toList_inj, String.toList_append, String.toList_ofList, hrest]

/-- Bytes behind those of a text are read by themselves. -/
theorem decode?_encode_append (front : String) (back : Bytes) :
    decode? (encode front ++ back) = (decode? back).map (front ++ ·) := by
  cases hback : decode? back with
  | some rest =>
      rw [decode?_eq_some_iff.1 hback, ← encode_append, decode?_encode]
      rfl
  | none =>
      cases hwhole : decode? (encode front ++ back) with
      | none => rfl
      | some whole =>
          -- A text that is read from the whole would leave one for the bytes behind.
          obtain ⟨rest, -, hrest⟩ :=
            exists_of_encode_eq_encode_append (decode?_eq_some_iff.1 hwhole).symm
          rw [← hrest, decode?_encode] at hback
          cases hback

/-! ## Cuts in the middle -/

/-- A text can be cut before any byte that is the first one of a character. -/
theorem exists_append_of_first {text : String} {front back : Bytes} {b : UInt8}
    (hb : b.IsUTF8FirstByte) (h : encode text = front ++ b :: back) :
    ∃ before after : String, text = before ++ after ∧ encode before = front ∧
      encode after = b :: back := by
  have hsize : front.length < text.utf8ByteSize := by
    rw [← length_encode, h, List.length_append, List.length_cons]
    omega
  have hbyte : text.getUTF8Byte ⟨front.length⟩ hsize = b := by
    have hget := getElem?_encode text ⟨front.length⟩ hsize
    rw [h, List.getElem?_append_right (Nat.le_refl _), Nat.sub_self, List.getElem?_cons_zero]
      at hget
    exact (Option.some.inj hget).symm
  have hvalid : String.Pos.Raw.IsValid text ⟨front.length⟩ :=
    String.Pos.Raw.isValid_iff_isUTF8FirstByte.2 (Or.inr ⟨hsize, hbyte ▸ hb⟩)
  obtain ⟨before, after, rfl, hpos⟩ := String.Pos.Raw.isValid_iff_exists_append.1 hvalid
  have hlength : (encode before).length = front.length := by
    rw [length_encode]
    exact (congrArg String.Pos.Raw.byteIdx hpos).symm
  rw [encode_append] at h
  obtain ⟨hfront, hback⟩ := List.append_inj h hlength
  exact ⟨before, after, rfl, hfront, hback⟩

theorem exists_first_of_utf8EncodeChar (c : Char) :
    ∃ b rest, String.utf8EncodeChar c = b :: rest ∧ b.IsUTF8FirstByte := by
  obtain ⟨b, rest, hc⟩ := List.exists_cons_of_ne_nil (String.utf8EncodeChar_ne_nil (c := c))
  have hpos : 0 < (String.utf8EncodeChar c).length := by
    rw [hc]
    exact Nat.succ_pos _
  have hfirst : (String.utf8EncodeChar c)[0].IsUTF8FirstByte :=
    UInt8.isUTF8FirstByte_getElem_utf8EncodeChar.2 rfl
  simp only [hc, List.getElem_cons_zero] at hfirst
  exact ⟨b, rest, hc, hfirst⟩

/-- Where the bytes of a text hold those of a character, the text holds that character, and the bytes
on either side are those of the text on that side. -/
theorem exists_of_encode_eq_append_char {text : String} {c : Char} {front back : Bytes}
    (h : encode text = front ++ (String.utf8EncodeChar c ++ back)) :
    ∃ before after : List Char, text.toList = before ++ c :: after ∧
      encode (.ofList before) = front ∧ encode (.ofList after) = back := by
  obtain ⟨b, rest, hc, hb⟩ := exists_first_of_utf8EncodeChar c
  rw [hc, List.cons_append] at h
  obtain ⟨before, whole, rfl, hbefore, hwhole⟩ := exists_append_of_first hb h
  rw [← List.cons_append, ← hc] at hwhole
  obtain ⟨after, hafter, hback⟩ := exists_cons_of_encode_eq_append hwhole
  refine ⟨before.toList, after, ?_, ?_, hback⟩
  · rw [String.toList_append, hafter]
  · rw [String.ofList_toList, hbefore]

end NativeBootstrap.Utf8
