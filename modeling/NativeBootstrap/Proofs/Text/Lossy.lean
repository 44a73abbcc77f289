import Mathlib.Algebra.Group.Nat.Defs
import Mathlib.Data.List.Infix
import NativeBootstrap.Proofs.Text.Ascii

/-!
# What a lossy reading shows

Bytes are read lossily by cutting them, from the front, into the bytes of characters and maximal
ill-formed subparts. `Reads` says so without the machine that does it: wherever the bytes go on with
those of a character, that character is shown; wherever they do not, the longest part that begins a
character is taken, or one byte if there is none, and one U+FFFD is shown for it. There is exactly one
way to read bytes so (`Reads.unique`), and it is that of the machine (`reads_iff`).

What carries the machine is `Opened.Sound`: the characters that begin with the bytes taken so far are
those whose value, without the bits still owed, lies between two bounds. A lead byte sets the bounds
(`IsLead.covers_iff`) and each byte that is admitted narrows them to one value
(`Opened.Sound.extend_cases`).
-/

set_option autoImplicit false

namespace NativeBootstrap.Utf8

/-! ## Characters and maximal subparts -/

/-- Whether some character is written with these bytes first. -/
def BeginsCharacter (bytes : Bytes) : Prop := ∃ c : Char, bytes <+: String.utf8EncodeChar c

/-- Whether bytes, followed by others, are a maximal ill-formed subpart: no character is written there,
and they are the longest part there that begins a character, or a single byte if there is none. -/
structure IsMaximalSubpart (part rest : Bytes) : Prop where
  ne_nil : part ≠ []
  no_character : ∀ c : Char, ¬ String.utf8EncodeChar c <+: part ++ rest
  begins_or_single : BeginsCharacter part ∨ part.length = 1
  maximal : ∀ longer, longer <+: part ++ rest → BeginsCharacter longer →
    longer.length ≤ part.length

/-- What bytes show when they are read lossily. -/
inductive Reads : Bytes → List Char → Prop where
  | nil : Reads [] []
  | char (c : Char) {rest : Bytes} {shown : List Char} (h : Reads rest shown) :
      Reads (String.utf8EncodeChar c ++ rest) (c :: shown)
  | broken {part rest : Bytes} {shown : List Char} (hpart : IsMaximalSubpart part rest)
      (h : Reads rest shown) : Reads (part ++ rest) ('\uFFFD' :: shown)

/-! ## Where a subpart is maximal -/

/-- What goes on behind a part of some bytes takes the byte behind that part. -/
theorem exists_next_of_prefix {part rest longer : Bytes} (h : longer <+: part ++ rest)
    (hlength : part.length < longer.length) :
    ∃ b more, rest = b :: more ∧ part ++ [b] <+: longer := by
  have hpart : part <+: longer :=
    List.prefix_of_prefix_length_le (List.prefix_append part rest) h (Nat.le_of_lt hlength)
  obtain ⟨behind, rfl⟩ := hpart
  obtain ⟨b, more, rfl⟩ : ∃ b more, behind = b :: more := by
    apply List.exists_cons_of_ne_nil
    rintro rfl
    simp at hlength
  rw [List.prefix_append_right_inj] at h
  obtain ⟨after, rfl⟩ := h
  exact ⟨b, more ++ after, rfl, by simp⟩

namespace IsMaximalSubpart

variable {part rest : Bytes}

/-- What begins a character is maximal if it is none yet and cannot go on with the next byte. -/
theorem of_begun (hne : part ≠ []) (hbegins : BeginsCharacter part)
    (hproper : ∀ c : Char, ¬ String.utf8EncodeChar c <+: part)
    (hstop : ∀ b more, rest = b :: more → ¬ BeginsCharacter (part ++ [b])) :
    IsMaximalSubpart part rest := by
  have hmaximal : ∀ longer, longer <+: part ++ rest → BeginsCharacter longer →
      longer.length ≤ part.length := by
    rintro longer hlonger ⟨c, hc⟩
    by_contra hlength
    obtain ⟨b, more, hrest, hnext⟩ := exists_next_of_prefix hlonger (Nat.lt_of_not_le hlength)
    exact hstop b more hrest ⟨c, hnext.trans hc⟩
  refine ⟨hne, ?_, Or.inl hbegins, hmaximal⟩
  intro c hc
  have hlength := hmaximal _ hc ⟨c, List.prefix_refl _⟩
  exact hproper c (List.prefix_of_prefix_length_le hc (List.prefix_append part rest) hlength)

/-- A byte that begins no character is maximal by itself. -/
theorem of_single {b : UInt8} (h : ¬ BeginsCharacter [b]) : IsMaximalSubpart [b] rest := by
  have hmaximal : ∀ longer, longer <+: [b] ++ rest → BeginsCharacter longer → longer = [] := by
    rintro longer hlonger ⟨c, hc⟩
    by_contra hne
    obtain ⟨first, more, rfl⟩ := List.exists_cons_of_ne_nil hne
    obtain ⟨rfl, -⟩ := List.cons_prefix_cons.1 hlonger
    exact h ⟨c, (List.prefix_append [first] more).trans hc⟩
  refine ⟨List.cons_ne_nil b [], ?_, Or.inr rfl, ?_⟩
  · intro c hc
    exact String.utf8EncodeChar_ne_nil (hmaximal _ hc ⟨c, List.prefix_refl _⟩)
  · intro longer hlonger hbegins
    rw [hmaximal longer hlonger hbegins]
    exact Nat.zero_le _

/-- Two maximal subparts at one place are the same. -/
theorem length_le {part' rest' : Bytes} (h : IsMaximalSubpart part rest)
    (h' : IsMaximalSubpart part' rest') (hbytes : part ++ rest = part' ++ rest') :
    part.length ≤ part'.length := by
  rcases h.begins_or_single with hbegins | hsingle
  · exact h'.maximal part (hbytes ▸ List.prefix_append part rest) hbegins
  · rw [hsingle]
    exact List.length_pos_iff.2 h'.ne_nil

end IsMaximalSubpart

/-! ## One reading -/

/-- Bytes are read in one way only. -/
theorem Reads.unique {bytes : Bytes} {shown shown' : List Char} (h : Reads bytes shown)
    (h' : Reads bytes shown') : shown = shown' := by
  induction h generalizing shown' with
  | nil =>
      generalize hbytes : ([] : Bytes) = bytes at h'
      cases h' with
      | nil => rfl
      | char c h' => exact absurd (List.append_eq_nil_iff.1 hbytes.symm).1 String.utf8EncodeChar_ne_nil
      | broken hpart h' => exact absurd (List.append_eq_nil_iff.1 hbytes.symm).1 hpart.ne_nil
  | @char c rest shown h ih =>
      generalize hbytes : String.utf8EncodeChar c ++ rest = bytes at h'
      cases h' with
      | nil => exact absurd (List.append_eq_nil_iff.1 hbytes).1 String.utf8EncodeChar_ne_nil
      | char d h' =>
          obtain ⟨rfl, rfl⟩ := utf8EncodeChar_append_inj hbytes
          rw [ih h']
      | broken hpart h' =>
          exact absurd (hbytes ▸ List.prefix_append _ _) (hpart.no_character c)
  | @broken part rest shown hpart h ih =>
      generalize hbytes : part ++ rest = bytes at h'
      cases h' with
      | nil => exact absurd (List.append_eq_nil_iff.1 hbytes).1 hpart.ne_nil
      | char d h' =>
          exact absurd (hbytes ▸ List.prefix_append _ _) (hpart.no_character d)
      | broken hpart' h' =>
          have hlength := Nat.le_antisymm (hpart.length_le hpart' hbytes)
            (hpart'.length_le hpart hbytes.symm)
          obtain ⟨rfl, rfl⟩ := List.append_inj hbytes hlength
          rw [ih h']

/-- A text is shown as it is. -/
theorem reads_encode (text : String) : Reads (encode text) text.toList := by
  rw [encode_eq_flatMap]
  induction text.toList with
  | nil => exact .nil
  | cons c cs ih => exact .char c ih

/-! ## The bytes of a character, by its value -/

/-- How many bytes follow the first one of a character of this value. -/
def following (value : Nat) : Nat :=
  if value ≤ 0x7F then 0 else if value ≤ 0x7FF then 1 else if value ≤ 0xFFFF then 2 else 3

/-- The first byte of a character of this value. -/
def lead (value : Nat) : Nat :=
  if value ≤ 0x7F then value
  else if value ≤ 0x7FF then 0xC0 + value / 64
  else if value ≤ 0xFFFF then 0xE0 + value / 4096
  else 0xF0 + value / 262144

/-- The last bytes of a character of this value, six bits in each. -/
def continuation : Nat → Nat → Bytes
  | 0, _ => []
  | count + 1, value => UInt8.ofNat (0x80 + value / 64 ^ count % 64) :: continuation count value

theorem toNat_valid (c : Char) : c.toNat < 0xD800 ∨ 0xDFFF < c.toNat ∧ c.toNat < 0x110000 := c.valid

theorem toNat_ofNat {value : Nat} (h : value.isValidChar) : (Char.ofNat value).toNat = value := by
  unfold Char.ofNat
  rw [dif_pos h]
  rfl

theorem utf8EncodeChar_eq (c : Char) :
    String.utf8EncodeChar c =
      UInt8.ofNat (lead c.toNat) :: continuation (following c.toNat) c.toNat := by
  have hvalid := toNat_valid c
  have hvalue : c.val.toNat = c.toNat := rfl
  unfold String.utf8EncodeChar lead following
  simp only [hvalue]
  generalize c.toNat = value at hvalid
  by_cases hone : value ≤ 0x7F
  · simp [hone, continuation]
  by_cases htwo : value ≤ 0x7FF
  · have hfirst : value / 64 % 32 + 192 = 0xC0 + value / 64 := by omega
    have hsecond : value % 64 + 128 = 0x80 + value % 64 := by omega
    simp [hone, htwo, continuation, hfirst, hsecond]
  by_cases hthree : value ≤ 0xFFFF
  · have hfirst : value / 4096 % 16 + 224 = 0xE0 + value / 4096 := by omega
    have hsecond : value / 64 % 64 + 128 = 0x80 + value / 64 % 64 := by omega
    have hthird : value % 64 + 128 = 0x80 + value % 64 := by omega
    simp [hone, htwo, hthree, continuation, hfirst, hsecond, hthird]
  · have hfirst : value / 262144 % 8 + 240 = 0xF0 + value / 262144 := by omega
    have hsecond : value / 4096 % 64 + 128 = 0x80 + value / 4096 % 64 := by omega
    have hthird : value / 64 % 64 + 128 = 0x80 + value / 64 % 64 := by omega
    have hfourth : value % 64 + 128 = 0x80 + value % 64 := by omega
    simp [hone, htwo, hthree, continuation, hfirst, hsecond, hthird, hfourth]

/-- The four lengths of a character, each with its range of values and its first byte. -/
theorem length_cases (value : Nat) :
    (value ≤ 0x7F ∧ following value = 0 ∧ lead value = value) ∨
    (0x80 ≤ value ∧ value ≤ 0x7FF ∧ following value = 1 ∧ lead value = 0xC0 + value / 64) ∨
    (0x800 ≤ value ∧ value ≤ 0xFFFF ∧ following value = 2 ∧ lead value = 0xE0 + value / 4096) ∨
    (0x10000 ≤ value ∧ following value = 3 ∧ lead value = 0xF0 + value / 262144) := by
  unfold following lead
  split
  · omega
  · split
    · omega
    · split <;> omega

/-- A byte begins a character if it is the first one for its value. -/
theorem single_prefix_iff {b : UInt8} {c : Char} :
    [b] <+: String.utf8EncodeChar c ↔ lead c.toNat = b.toNat := by
  have hvalid := toNat_valid c
  have hlength := length_cases c.toNat
  rw [utf8EncodeChar_eq, List.cons_prefix_cons, ← UInt8.toNat_inj, UInt8.toNat_ofNat']
  simp only [List.nil_prefix, and_true, Nat.reducePow]
  omega

/-! ## The machine -/

namespace Opened

/-- The least value that the bits of an open character can have with the next byte. -/
def least (o : Opened) : Nat := o.value * 64 + (o.low.toNat - 0x80)

/-- The greatest such value. -/
def greatest (o : Opened) : Nat := o.value * 64 + (o.high.toNat - 0x80)

/-- Whether a character's value, without the bits of the bytes owed behind the next one, lies between
the bounds of an open character. -/
def Covers (o : Opened) (value : Nat) : Prop :=
  o.least ≤ value / 64 ^ (o.owed - 1) ∧ value / 64 ^ (o.owed - 1) ≤ o.greatest

/-- Whether an open character stands for the characters that begin with the bytes taken: they are
those within its bounds, and each goes on with the last bytes for its value. -/
structure Sound (o : Opened) : Prop where
  ne_nil : o.taken ≠ []
  owed_pos : 0 < o.owed
  le_low : 0x80 ≤ o.low.toNat
  low_le_high : o.low.toNat ≤ o.high.toNat
  high_le : o.high.toNat ≤ 0xBF
  prefix_iff : ∀ c : Char, o.taken <+: String.utf8EncodeChar c ↔ o.Covers c.toNat
  encode_eq : ∀ c : Char, o.taken <+: String.utf8EncodeChar c →
    String.utf8EncodeChar c = o.taken ++ continuation o.owed c.toNat
  valid : ∀ value, o.Covers value → value.isValidChar

end Opened

/-- A bound that one lead byte narrows. -/
theorem narrowed_cases (b special narrow wide : UInt8) :
    b.toNat = special.toNat ∧ (if b = special then narrow else wide).toNat = narrow.toNat ∨
      b.toNat ≠ special.toNat ∧ (if b = special then narrow else wide).toNat = wide.toNat := by
  by_cases hb : b = special
  · exact Or.inl ⟨congrArg UInt8.toNat hb, by rw [if_pos hb]⟩
  · exact Or.inr ⟨mt UInt8.toNat_inj.1 hb, by rw [if_neg hb]⟩

/-- Whether a byte is the first one of characters with this many bytes behind it, of which the next has
to lie between these bounds. The bits of the value stand in it above the base. -/
def IsLead (b : UInt8) (count base : Nat) (low high : UInt8) : Prop :=
  (0xC2 ≤ b.toNat ∧ b.toNat < 0xE0 ∧ count = 1 ∧ base = 0xC0 ∧
    low.toNat = 0x80 ∧ high.toNat = 0xBF) ∨
  (0xE0 ≤ b.toNat ∧ b.toNat < 0xF0 ∧ count = 2 ∧ base = 0xE0 ∧
    (b.toNat = 0xE0 ∧ low.toNat = 0xA0 ∨ b.toNat ≠ 0xE0 ∧ low.toNat = 0x80) ∧
    (b.toNat = 0xED ∧ high.toNat = 0x9F ∨ b.toNat ≠ 0xED ∧ high.toNat = 0xBF)) ∨
  (0xF0 ≤ b.toNat ∧ b.toNat < 0xF5 ∧ count = 3 ∧ base = 0xF0 ∧
    (b.toNat = 0xF0 ∧ low.toNat = 0x90 ∨ b.toNat ≠ 0xF0 ∧ low.toNat = 0x80) ∧
    (b.toNat = 0xF4 ∧ high.toNat = 0x8F ∨ b.toNat ≠ 0xF4 ∧ high.toNat = 0xBF))

namespace IsLead

variable {b low high : UInt8} {count base : Nat}

/-- The bounds leave the values of characters that have this byte first, and no others. -/
theorem covers_iff (h : IsLead b count base low high) (value : Nat) :
    Opened.Covers ⟨[b], count, low, high, b.toNat - base⟩ value ↔
      value.isValidChar ∧ lead value = b.toNat := by
  have hlength := length_cases value
  unfold Opened.Covers Opened.least Opened.greatest Nat.isValidChar
  rcases h with ⟨hfirst, hlast, rfl, rfl, hlow, hhigh⟩ | ⟨hfirst, hlast, rfl, rfl, hlow, hhigh⟩ |
    ⟨hfirst, hlast, rfl, rfl, hlow, hhigh⟩ <;>
  · simp only [Nat.reduceSub, Nat.reducePow]
    omega

theorem bounds (h : IsLead b count base low high) :
    0 < count ∧ 0x80 ≤ low.toNat ∧ low.toNat ≤ high.toNat ∧ high.toNat ≤ 0xBF := by
  rcases h with h | h | h <;> omega

theorem following_eq (h : IsLead b count base low high) {c : Char} (hc : lead c.toNat = b.toNat) :
    following c.toNat = count := by
  have hlength := length_cases c.toNat
  have hvalid := toNat_valid c
  rcases h with h | h | h <;> omega

/-- A lead byte opens a sound character. -/
theorem sound (h : IsLead b count base low high) :
    Opened.Sound ⟨[b], count, low, high, b.toNat - base⟩ where
  ne_nil := List.cons_ne_nil b []
  owed_pos := h.bounds.1
  le_low := h.bounds.2.1
  low_le_high := h.bounds.2.2.1
  high_le := h.bounds.2.2.2
  prefix_iff c := by
    rw [h.covers_iff, single_prefix_iff]
    exact (and_iff_right c.valid).symm
  encode_eq c hc := by
    have hfirst := single_prefix_iff.1 hc
    have hbyte : UInt8.ofNat (lead c.toNat) = b := by rw [hfirst, UInt8.ofNat_toNat]
    rw [utf8EncodeChar_eq, hbyte, h.following_eq hfirst]
    rfl
  valid value hvalue := ((h.covers_iff value).1 hvalue).1

end IsLead

/-- What a byte does between characters: it is a character, it is ill-formed by itself, or it opens a
character. -/
theorem start_cases (b : UInt8) :
    (∃ c, start b = (some (.char c [b]), none) ∧ String.utf8EncodeChar c = [b]) ∨
    (start b = (some (.broken [b]), none) ∧ ¬ BeginsCharacter [b]) ∨
    ∃ o, start b = (none, some o) ∧ o.taken = [b] ∧ o.Sound := by
  have hb : b.toNat < 0x100 := b.toNat_lt
  -- A byte is ill-formed by itself if no value has it as its first one.
  have hbroken : (0x80 ≤ b.toNat ∧ b.toNat < 0xC2 ∨ 0xF5 ≤ b.toNat) → ¬ BeginsCharacter [b] := by
    rintro hrange ⟨c, hc⟩
    have hlength := length_cases c.toNat
    have hvalid := toNat_valid c
    have hlead := single_prefix_iff.1 hc
    omega
  unfold start
  simp only [UInt8.lt_iff_toNat_lt, UInt8.reduceToNat]
  split
  · rename_i hone
    have hvalue : (Char.ofNat b.toNat).toNat = b.toNat := toNat_ofNat (Or.inl (by omega))
    refine Or.inl ⟨Char.ofNat b.toNat, rfl, ?_⟩
    rw [utf8EncodeChar_of_lt (by omega), code, hvalue, UInt8.ofNat_toNat]
  split
  · exact Or.inr (Or.inl ⟨rfl, hbroken (by omega)⟩)
  split
  · exact Or.inr (Or.inr ⟨_, rfl, rfl,
      IsLead.sound (Or.inl ⟨by omega, by omega, rfl, rfl, rfl, rfl⟩)⟩)
  split
  · exact Or.inr (Or.inr ⟨_, rfl, rfl, IsLead.sound (Or.inr (Or.inl ⟨by omega, by omega, rfl, rfl,
      narrowed_cases b 0xE0 0xA0 0x80, narrowed_cases b 0xED 0x9F 0xBF⟩))⟩)
  split
  · exact Or.inr (Or.inr ⟨_, rfl, rfl, IsLead.sound (Or.inr (Or.inr ⟨by omega, by omega, rfl, rfl,
      narrowed_cases b 0xF0 0x90 0x80, narrowed_cases b 0xF4 0x8F 0xBF⟩))⟩)
  · exact Or.inr (Or.inl ⟨rfl, hbroken (by omega)⟩)

/-! ## The next byte -/

namespace Opened

variable {o : Opened}

theorem admits_iff {b : UInt8} :
    o.admits b = true ↔ o.low.toNat ≤ b.toNat ∧ b.toNat ≤ o.high.toNat := by
  unfold admits
  rw [Bool.and_eq_true, decide_eq_true_iff, decide_eq_true_iff, UInt8.le_iff_toNat_le,
    UInt8.le_iff_toNat_le]

namespace Sound

/-- A character goes on with a byte exactly if that is admitted and holds the next bits of its
value. -/
theorem next_prefix_iff (h : o.Sound) {b : UInt8} {c : Char} :
    o.taken ++ [b] <+: String.utf8EncodeChar c ↔
      o.admits b = true ∧ c.toNat / 64 ^ (o.owed - 1) = o.value * 64 + (b.toNat - 0x80) := by
  obtain ⟨count, hcount⟩ := Nat.exists_eq_add_one.2 h.owed_pos
  have hlow := h.le_low
  have hle := h.low_le_high
  have hhigh := h.high_le
  -- The byte behind those taken holds the last six of the bits in question.
  have hnext : o.taken <+: String.utf8EncodeChar c →
      (o.taken ++ [b] <+: String.utf8EncodeChar c ↔
        b.toNat = 0x80 + c.toNat / 64 ^ count % 64) := by
    intro hc
    rw [h.encode_eq c hc, hcount, continuation, List.prefix_append_right_inj,
      List.cons_prefix_cons, ← UInt8.toNat_inj, UInt8.toNat_ofNat']
    simp only [List.nil_prefix, and_true, Nat.reducePow]
    omega
  have hcovers := h.prefix_iff c
  unfold Covers least greatest at hcovers
  rw [hcount, Nat.add_sub_cancel] at hcovers ⊢
  rw [admits_iff]
  generalize c.toNat / 64 ^ count = bits at hnext hcovers
  constructor
  · intro hb
    have hc := (List.prefix_append o.taken [b]).trans hb
    have hbits := (hnext hc).1 hb
    have hbounds := hcovers.1 hc
    omega
  · rintro ⟨hadmitted, hbits⟩
    have hc := hcovers.2 (by omega)
    exact (hnext hc).2 (by omega)

/-- Some character begins with the bytes taken. -/
theorem beginsCharacter (h : o.Sound) : BeginsCharacter o.taken := by
  have hlow := h.low_le_high
  have hcovers : o.Covers (o.least * 64 ^ (o.owed - 1)) := by
    unfold Covers
    rw [Nat.mul_div_cancel _ (Nat.pow_pos (by decide))]
    refine ⟨Nat.le_refl _, ?_⟩
    unfold least greatest
    omega
  refine ⟨Char.ofNat (o.least * 64 ^ (o.owed - 1)), ?_⟩
  rw [h.prefix_iff, toNat_ofNat (h.valid _ hcovers)]
  exact hcovers

/-- No character is written with the bytes taken alone, or with some of them. -/
theorem not_prefix_taken (h : o.Sound) (c : Char) : ¬ String.utf8EncodeChar c <+: o.taken := by
  rintro hc
  obtain ⟨d, hd⟩ := h.beginsCharacter
  obtain ⟨more, hmore⟩ := hc.trans hd
  obtain ⟨rfl, -⟩ := utf8EncodeChar_append_inj (hmore.trans (List.append_nil _).symm)
  obtain ⟨count, hcount⟩ := Nat.exists_eq_add_one.2 h.owed_pos
  have hlength := hc.length_le
  rw [h.encode_eq c hd, hcount, continuation, List.length_append, List.length_cons] at hlength
  omega

/-- What is taken is a maximal subpart where no byte follows that is admitted. -/
theorem isMaximalSubpart (h : o.Sound) {rest : Bytes}
    (hstop : ∀ b more, rest = b :: more → o.admits b = false) :
    IsMaximalSubpart o.taken rest := by
  apply IsMaximalSubpart.of_begun h.ne_nil h.beginsCharacter h.not_prefix_taken
  rintro b more hrest ⟨c, hc⟩
  have hadmitted := (h.next_prefix_iff.1 hc).1
  rw [hstop b more hrest] at hadmitted
  cases hadmitted

/-- An admitted byte leaves one byte less owed, and the characters that go on with it. -/
theorem of_admits (h : o.Sound) {b : UInt8} (hb : o.admits b = true) {count : Nat}
    (hcount : o.owed = count + 2) :
    Sound ⟨o.taken ++ [b], count + 1, 0x80, 0xBF, o.value * 64 + (b.toNat - 0x80)⟩ := by
  have hdiv : ∀ value, value / 64 ^ (o.owed - 1) = value / 64 ^ count / 64 := by
    intro value
    rw [hcount, Nat.div_div_eq_div_mul]
    rfl
  have hcovers : ∀ value,
      Covers ⟨o.taken ++ [b], count + 1, 0x80, 0xBF, o.value * 64 + (b.toNat - 0x80)⟩ value ↔
        value / 64 ^ (o.owed - 1) = o.value * 64 + (b.toNat - 0x80) := by
    intro value
    rw [hdiv]
    unfold Covers least greatest
    simp only [Nat.add_sub_cancel, UInt8.reduceToNat]
    omega
  have hbounds : (0x80 : UInt8).toNat ≤ (0xBF : UInt8).toNat := by decide
  refine ⟨by simp, Nat.succ_pos count, Nat.le_refl _, hbounds, Nat.le_refl _, ?_, ?_, ?_⟩
  · intro c
    rw [h.next_prefix_iff, hcovers]
    exact and_iff_right hb
  · intro c hc
    have henc := h.encode_eq c ((List.prefix_append o.taken [b]).trans hc)
    rw [hcount, continuation] at henc
    rw [henc, List.prefix_append_right_inj, List.cons_prefix_cons] at hc
    rw [henc, ← hc.1, List.append_assoc]
    rfl
  · intro value hvalue
    apply h.valid
    rw [hcovers] at hvalue
    have hadmitted := admits_iff.1 hb
    have hlow := h.le_low
    unfold Covers least greatest
    omega

/-- The last byte completes a character. -/
theorem encode_of_admits (h : o.Sound) {b : UInt8} (hb : o.admits b = true) (howed : o.owed = 1) :
    String.utf8EncodeChar (Char.ofNat (o.value * 64 + (b.toNat - 0x80))) = o.taken ++ [b] := by
  have hadmitted := admits_iff.1 hb
  have hlow := h.le_low
  have hcovers : o.Covers (o.value * 64 + (b.toNat - 0x80)) := by
    unfold Covers least greatest
    rw [howed, Nat.sub_self, Nat.pow_zero, Nat.div_one]
    omega
  have hvalue := toNat_ofNat (h.valid _ hcovers)
  have hbegins : o.taken ++ [b] <+:
      String.utf8EncodeChar (Char.ofNat (o.value * 64 + (b.toNat - 0x80))) := by
    rw [h.next_prefix_iff, hvalue, howed, Nat.sub_self, Nat.pow_zero, Nat.div_one]
    exact ⟨hb, rfl⟩
  have hlength := congrArg List.length
    (h.encode_eq _ ((List.prefix_append o.taken [b]).trans hbegins))
  rw [howed, List.length_append] at hlength
  refine (hbegins.eq_of_length ?_).symm
  rw [hlength, List.length_append]
  rfl

/-- What an admitted byte does: it completes a character, or leaves a sound one open. -/
theorem extend_cases (h : o.Sound) {b : UInt8} (hb : o.admits b = true) :
    (∃ c, o.extend b = (some (.char c (o.taken ++ [b])), none) ∧
      String.utf8EncodeChar c = o.taken ++ [b]) ∨
    ∃ next, o.extend b = (none, some next) ∧ next.taken = o.taken ++ [b] ∧ next.Sound := by
  have hpos := h.owed_pos
  unfold extend
  split
  · rename_i hle
    exact Or.inl ⟨_, rfl, h.encode_of_admits hb (by omega)⟩
  · rename_i hle
    obtain ⟨count, hcount⟩ : ∃ count, o.owed = count + 2 := ⟨o.owed - 2, by omega⟩
    refine Or.inr ⟨_, rfl, rfl, ?_⟩
    rw [hcount]
    exact h.of_admits hb hcount

end Sound

end Opened

/-! ## The whole reading -/

/-- The segments are read as they are shown, with no character open and with a sound one. -/
theorem reads_segmentsFrom (bytes : Bytes) :
    Reads bytes ((segmentsFrom none bytes).map Segment.shown) ∧
      ∀ o : Opened, o.Sound →
        Reads (o.taken ++ bytes) ((segmentsFrom (some o) bytes).map Segment.shown) := by
  induction bytes with
  | nil =>
      refine ⟨.nil, ?_⟩
      intro o ho
      exact .broken (ho.isMaximalSubpart nofun) .nil
  | cons b rest ih =>
      obtain ⟨hnone, hsome⟩ := ih
      have hbetween : Reads (b :: rest) ((segmentsFrom none (b :: rest)).map Segment.shown) := by
        rcases start_cases b with ⟨c, hstart, hc⟩ | ⟨hstart, hbroken⟩ | ⟨o, hstart, htaken, ho⟩
        · have hread := Reads.char c hnone
          rw [hc] at hread
          rw [segmentsFrom, hstart]
          exact hread
        · rw [segmentsFrom, hstart]
          exact .broken (.of_single hbroken) hnone
        · have hread := hsome o ho
          rw [htaken] at hread
          rw [segmentsFrom, hstart]
          exact hread
      refine ⟨hbetween, ?_⟩
      intro o ho
      cases hb : o.admits b with
      | true =>
          rcases ho.extend_cases hb with ⟨c, hextend, hc⟩ | ⟨next, hextend, htaken, hnext⟩
          · have hread := Reads.char c hnone
            rw [hc, List.append_assoc] at hread
            rw [segmentsFrom, if_pos hb, hextend]
            exact hread
          · have hread := hsome next hnext
            rw [htaken, List.append_assoc] at hread
            rw [segmentsFrom, if_pos hb, hextend]
            exact hread
      | false =>
          -- The byte ends the subpart, and is read as if it came between characters.
          rw [segmentsFrom, if_neg (by simp [hb])]
          refine .broken (ho.isMaximalSubpart ?_) hbetween
          intro b' more hcons
          obtain ⟨rfl, -⟩ := List.cons.inj hcons
          exact hb

/-- **The lossy reading is the one reading of the bytes.** -/
theorem reads_iff {bytes : Bytes} {text : String} : Reads bytes text.toList ↔ text = lossy bytes := by
  have hread : Reads bytes (lossy bytes).toList := by
    rw [lossy, String.toList_ofList]
    exact (reads_segmentsFrom bytes).1
  constructor
  · intro h
    exact String.toList_inj.1 (h.unique hread)
  · rintro rfl
    exact hread

theorem lossy_encode (text : String) : lossy (encode text) = text :=
  (reads_iff.1 (reads_encode text)).symm

end NativeBootstrap.Utf8
