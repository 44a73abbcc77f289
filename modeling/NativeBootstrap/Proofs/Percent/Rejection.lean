import NativeBootstrap.Proofs.Percent.Encoding

/-!
# Which texts are not decoded

A text is refused for a `%` that is not followed by two hexadecimal digits (`FaultAt`), and only then
for what its escapes stand for. Faults are places in the text, counted in bytes; `faultAt_iff` finds
the same places in its bytes. The `%` at which decoding stops is the first fault: what stands before
it writes something, so no fault is there (`Writes.length_le_of_faultAt`).

The main statement is `decode_reports_first_fault`.
-/

set_option autoImplicit false

namespace NativeBootstrap.Percent

/-! ## Faults -/

/-- Whether a character is a hexadecimal digit, in either letter case. -/
def IsHexDigit (c : Char) : Prop := c ∈ capitalDigits ∨ c ∈ smallDigits

instance (c : Char) : Decidable (IsHexDigit c) := inferInstanceAs (Decidable (_ ∨ _))

/-- Whether characters begin with two hexadecimal digits. -/
def BeginsWithDigits : List Char → Prop
  | high :: low :: _ => IsHexDigit high ∧ IsHexDigit low
  | _ => False

/-- Whether a `%` that is not followed by two hexadecimal digits stands in a text behind this many
bytes. -/
def FaultAt (text : String) (offset : Nat) : Prop :=
  ∃ before after : List Char, text.toList = before ++ '%' :: after ∧
    (String.ofList before).utf8ByteSize = offset ∧ ¬ BeginsWithDigits after

theorem IsHexDigit.lt {c : Char} (h : IsHexDigit c) : c.toNat < 0x80 := by
  have hall : (capitalDigits ++ smallDigits).all (fun d => decide (d.toNat < 0x80)) = true := by
    decide
  exact of_decide_eq_true (List.all_eq_true.1 hall c (List.mem_append.2 h))

/-- The bytes that are digits are the codes of the characters that are. -/
theorem exists_isDigitOf_iff {digit : UInt8} :
    (∃ value, IsDigitOf digit value) ↔ ∃ c, IsHexDigit c ∧ Utf8.code c = digit := by
  simp only [IsDigitOf, IsHexDigit, exists_or, or_and_right, ← List.mem_iff_getElem?, List.mem_map]

/-- Any two digits spell a byte. -/
theorem exists_spells_iff {high low : UInt8} :
    (∃ byte, Spells high low byte) ↔
      (∃ value, IsDigitOf high value) ∧ ∃ value, IsDigitOf low value := by
  constructor
  · rintro ⟨byte, hhigh, hlow⟩
    exact ⟨⟨_, hhigh⟩, ⟨_, hlow⟩⟩
  · rintro ⟨⟨h, hhigh⟩, ⟨l, hlow⟩⟩
    have hlt := hhigh.lt
    have hlt' := hlow.lt
    have hbyte : (UInt8.ofNat (h * 16 + l)).toNat = h * 16 + l := by
      rw [UInt8.toNat_ofNat']
      omega
    refine ⟨UInt8.ofNat (h * 16 + l), ?_, ?_⟩
    · rw [hbyte, show (h * 16 + l) / 16 = h by omega]
      exact hhigh
    · rw [hbyte, show (h * 16 + l) % 16 = l by omega]
      exact hlow

/-- Characters begin with two digits exactly if their bytes make an escape of a `%` before them. -/
theorem introducesEscape_encode_iff (after : List Char) :
    IntroducesEscape (Utf8.encode (.ofList after)) ↔ BeginsWithDigits after := by
  constructor
  · rintro ⟨high, low, byte, rest, hbytes, hspells⟩
    obtain ⟨hhigh, hlow⟩ := exists_spells_iff.1 ⟨byte, hspells⟩
    obtain ⟨c, hc, rfl⟩ := exists_isDigitOf_iff.1 hhigh
    obtain ⟨d, hd, rfl⟩ := exists_isDigitOf_iff.1 hlow
    obtain ⟨after, rfl, hafter⟩ := Utf8.exists_of_encode_eq_cons hc.lt hbytes
    obtain ⟨rest, rfl, -⟩ := Utf8.exists_of_encode_eq_cons hd.lt hafter
    exact ⟨hc, hd⟩
  · intro h
    rcases after with _ | ⟨c, _ | ⟨d, rest⟩⟩
    · exact h.elim
    · exact h.elim
    · obtain ⟨hc, hd⟩ := h
      obtain ⟨byte, hspells⟩ := exists_spells_iff.2
        ⟨exists_isDigitOf_iff.2 ⟨c, hc, rfl⟩, exists_isDigitOf_iff.2 ⟨d, hd, rfl⟩⟩
      rw [Utf8.encode_ofList_cons hc.lt, Utf8.encode_ofList_cons hd.lt]
      exact ⟨_, _, byte, _, rfl, hspells⟩

/-- The faults of a text are found in its bytes. -/
theorem faultAt_iff {text : String} {offset : Nat} :
    FaultAt text offset ↔
      ∃ before after : Bytes, Utf8.encode text = before ++ sign :: after ∧ before.length = offset ∧
        ¬ IntroducesEscape after := by
  have hsign : sign = Utf8.code '%' := by decide
  have hascii : ('%' : Char).toNat < 0x80 := by decide
  rw [hsign]
  constructor
  · rintro ⟨before, after, htext, rfl, hafter⟩
    refine ⟨Utf8.encode (.ofList before), Utf8.encode (.ofList after), ?_, Utf8.length_encode _, ?_⟩
    · rw [← Utf8.encode_ofList_append_cons hascii, ← htext, String.ofList_toList]
    · rwa [introducesEscape_encode_iff]
  · rintro ⟨front, back, htext, rfl, hafter⟩
    obtain ⟨before, after, hlist, rfl, rfl⟩ := Utf8.exists_of_encode_eq_append_cons hascii htext
    rw [introducesEscape_encode_iff] at hafter
    exact ⟨before, after, hlist, (Utf8.length_encode _).symm, hafter⟩

/-- There is no fault among the first bytes of a text if those write something. -/
theorem Writes.length_le_of_faultAt {kept : UInt8 → Prop} {text : String} {before after plain : Bytes}
    {offset : Nat} (h : Writes kept before plain) (htext : Utf8.encode text = before ++ after)
    (hfault : FaultAt text offset) : before.length ≤ offset := by
  obtain ⟨front, back, hcut, rfl, hback⟩ := faultAt_iff.1 hfault
  rw [htext] at hcut
  rcases List.append_eq_append_iff.1 hcut with ⟨more, rfl, -⟩ | ⟨more, rfl, hmore⟩
  · simp
  · cases more with
    | nil => simp
    | cons a more =>
        obtain ⟨rfl, rfl⟩ := List.cons.inj hmore
        obtain ⟨high, low, byte, rest, rfl, hspells⟩ := h.introducesEscape
        exact absurd ⟨high, low, byte, rest ++ after, rfl, hspells⟩ hback

/-- There is no fault in a text whose bytes write something. -/
theorem Writes.not_faultAt {kept : UInt8 → Prop} {text : String} {plain : Bytes}
    (h : Writes kept (Utf8.encode text) plain) (offset : Nat) : ¬ FaultAt text offset := by
  intro hfault
  obtain ⟨before, after, htext, -, hafter⟩ := faultAt_iff.1 hfault
  rw [htext] at h
  exact hafter h.introducesEscape

/-- There is no fault in a text that is decoded. -/
theorem not_faultAt_of_decode {encoded text : String} (h : decode encoded = .ok text) (offset : Nat) :
    ¬ FaultAt encoded offset :=
  Writes.not_faultAt (decode_eq_ok_iff.1 h) offset

/-! ## Refused texts -/

theorem decode_eq_malformedEscape_iff {text : String} {offset : Nat} :
    decode text = .error (.malformedEscape offset) ↔
      FaultAt text offset ∧ ∀ other, FaultAt text other → offset ≤ other := by
  rcases writes_or_fault (Utf8.encode text) with
    ⟨plain, hwrites⟩ | ⟨before, after, plain, htext, hwrites, hafter⟩
  · constructor
    · intro h
      rw [decode_of_writes hwrites] at h
      cases hplain : Utf8.decode? plain with
      | none =>
          rw [hplain] at h
          cases h
      | some other =>
          rw [hplain] at h
          cases h
    · rintro ⟨hfault, -⟩
      exact absurd hfault (hwrites.not_faultAt offset)
  · have hfault : FaultAt text before.length := faultAt_iff.2 ⟨before, after, htext, rfl, hafter⟩
    have hfirst : ∀ other, FaultAt text other → before.length ≤ other :=
      fun other => hwrites.length_le_of_faultAt htext
    constructor
    · intro h
      rw [decode_of_fault htext hwrites hafter] at h
      cases h
      exact ⟨hfault, hfirst⟩
    · rintro ⟨hoffset, hleast⟩
      have hsame : before.length = offset := Nat.le_antisymm (hfirst _ hoffset) (hleast _ hfault)
      rw [decode_of_fault htext hwrites hafter, hsame]

theorem exists_decode_eq_malformedEscape_iff {text : String} :
    (∃ offset, decode text = .error (.malformedEscape offset)) ↔ ∃ offset, FaultAt text offset := by
  constructor
  · rintro ⟨offset, h⟩
    exact ⟨offset, (decode_eq_malformedEscape_iff.1 h).1⟩
  · rintro ⟨offset, hfault⟩
    rcases writes_or_fault (Utf8.encode text) with
      ⟨plain, hwrites⟩ | ⟨before, after, plain, htext, hwrites, hafter⟩
    · exact absurd hfault (hwrites.not_faultAt offset)
    · exact ⟨before.length, decode_of_fault htext hwrites hafter⟩

theorem decode_eq_invalidUtf8_iff {text : String} :
    decode text = .error .invalidUtf8 ↔
      (∀ offset, ¬ FaultAt text offset) ∧
        ∃ plain, Writes (fun _ => False) (Utf8.encode text) plain ∧
          ∀ other : String, Utf8.encode other ≠ plain := by
  constructor
  · intro h
    have hclear : ∀ offset, ¬ FaultAt text offset := by
      intro offset hfault
      obtain ⟨least, hleast⟩ := exists_decode_eq_malformedEscape_iff.2 ⟨offset, hfault⟩
      rw [h] at hleast
      cases hleast
    rcases writes_or_fault (Utf8.encode text) with
      ⟨plain, hwrites⟩ | ⟨before, after, plain, htext, hwrites, hafter⟩
    · refine ⟨hclear, plain, hwrites, ?_⟩
      rintro other rfl
      rw [decode_of_writes hwrites, Utf8.decode?_encode] at h
      cases h
    · exact absurd (faultAt_iff.2 ⟨before, after, htext, rfl, hafter⟩) (hclear before.length)
  · rintro ⟨-, plain, hwrites, hplain⟩
    rw [decode_of_writes hwrites]
    cases hdecode : Utf8.decode? plain with
    | none => rfl
    | some other => exact absurd (Utf8.decode?_eq_some_iff.1 hdecode).symm (hplain other)

/-- **What is refused is refused for its first fault.** Decoding ends in a malformed escape exactly if
there is a `%` that two hexadecimal digits do not follow, and names the place of the first; it ends
in bytes that are not UTF-8 exactly if there is none and the bytes that the text writes are those of
no text. -/
theorem decode_reports_first_fault (text : String) :
    (∀ offset, decode text = .error (.malformedEscape offset) ↔
      FaultAt text offset ∧ ∀ other, FaultAt text other → offset ≤ other) ∧
    ((∃ offset, decode text = .error (.malformedEscape offset)) ↔ ∃ offset, FaultAt text offset) ∧
    (decode text = .error .invalidUtf8 ↔
      (∀ offset, ¬ FaultAt text offset) ∧
        ∃ plain, Writes (fun _ => False) (Utf8.encode text) plain ∧
          ∀ other : String, Utf8.encode other ≠ plain) :=
  ⟨fun _ => decode_eq_malformedEscape_iff, exists_decode_eq_malformedEscape_iff,
    decode_eq_invalidUtf8_iff⟩

/-- A text that ends inside an escape behind an escape of a byte that is not UTF-8, and the text
without that end. -/
theorem decode_reports_first_fault_of_truncated_escape :
    FaultAt "é%FF%4" 5 ∧ (∀ other, FaultAt "é%FF%4" other → 5 ≤ other) ∧
      decode "é%FF" = .error .invalidUtf8 ∧ ∀ offset, ¬ FaultAt "é%FF" offset := by
  obtain ⟨hmalformed, -, -⟩ := decode_reports_first_fault "é%FF%4"
  obtain ⟨-, -, hinvalid⟩ := decode_reports_first_fault "é%FF"
  have hdecode : decode "é%FF%4" = .error (.malformedEscape 5) := by decide +kernel
  have hdecode' : decode "é%FF" = .error .invalidUtf8 := by decide +kernel
  obtain ⟨hfault, hleast⟩ := (hmalformed 5).1 hdecode
  exact ⟨hfault, hleast, hdecode', (hinvalid.1 hdecode').1⟩

end NativeBootstrap.Percent
