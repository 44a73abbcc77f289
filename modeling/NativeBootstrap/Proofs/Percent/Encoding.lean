import Mathlib.Control.Monad.Basic
import NativeBootstrap.Proofs.Percent.Unescape
import NativeBootstrap.Proofs.Text.Ascii

/-!
# Percent-encodings of a text

A text has many percent-encodings: each of its bytes may stand as itself, unless it is `%`, or as an
escape, whose digits may be in either letter case. `Writes` is this relation on bytes. It may exempt
some bytes from being escaped, as an encoding of a path exempts its separators.

Every byte string either writes something or holds a `%` that introduces no escape, with nothing
wrong before it (`writes_or_fault`). In the first case decoding gives what is written
(`decode_of_writes`), and in the second it names the place of that `%` (`decode_of_fault`); what
decoding does is read off these three everywhere else. A character that stands for itself cuts a text
into two that are decoded alone (`decode_around_literal_eq_ok_iff`). The main statement is
`decode_inverts_encoding`.
-/

set_option autoImplicit false

namespace NativeBootstrap.Percent

/-! ## Escapes -/

/-- The digits in order of their values, with capital letters. -/
def capitalDigits : List Char :=
  ['0', '1', '2', '3', '4', '5', '6', '7', '8', '9', 'A', 'B', 'C', 'D', 'E', 'F']

/-- The digits in order of their values, with small letters. -/
def smallDigits : List Char :=
  ['0', '1', '2', '3', '4', '5', '6', '7', '8', '9', 'a', 'b', 'c', 'd', 'e', 'f']

/-- Whether a byte is the digit of a value, in either letter case. -/
def IsDigitOf (digit : UInt8) (value : Nat) : Prop :=
  (capitalDigits.map Utf8.code)[value]? = some digit ∨ (smallDigits.map Utf8.code)[value]? = some digit

instance (digit : UInt8) (value : Nat) : Decidable (IsDigitOf digit value) :=
  inferInstanceAs (Decidable (_ ∨ _))

/-- Whether two digits spell a byte, the upper half first. -/
def Spells (high low byte : UInt8) : Prop :=
  IsDigitOf high (byte.toNat / 16) ∧ IsDigitOf low (byte.toNat % 16)

instance (high low byte : UInt8) : Decidable (Spells high low byte) :=
  inferInstanceAs (Decidable (_ ∧ _))

/-- Whether the bytes behind a `%` make an escape of it. -/
def IntroducesEscape (after : Bytes) : Prop :=
  ∃ high low byte rest, after = high :: low :: rest ∧ Spells high low byte

theorem IsDigitOf.lt {digit : UInt8} {value : Nat} (h : IsDigitOf digit value) : value < 16 := by
  rcases h with h | h
  · exact (List.getElem?_eq_some_iff.1 h).1
  · exact (List.getElem?_eq_some_iff.1 h).1

theorem hexValue?_of_isDigitOf {digit : UInt8} {value : Nat} (h : IsDigitOf digit value) :
    hexValue? digit = some (UInt8.ofNat value) := by
  have hall : ∀ v < 16, ((capitalDigits.map Utf8.code)[v]?.toList ++
      (smallDigits.map Utf8.code)[v]?.toList).all
        (fun d => hexValue? d == some (UInt8.ofNat v)) = true := by
    decide
  apply beq_iff_eq.1
  apply List.all_eq_true.1 (hall value h.lt)
  rcases h with h | h
  · simp [h]
  · simp [h]

/-- Where a list of digits goes through codes in their order, a code is found at the value that comes
of it by a shift. -/
theorem getElem?_of_consecutive {digits : List UInt8} {first low count : Nat} {digit value : UInt8}
    (hall : ∀ v < count, digits[first + v]? = some (UInt8.ofNat (low + v))) (hshift : first ≤ low)
    (hlow : low ≤ digit.toNat) (hhigh : digit.toNat < low + count)
    (hvalue : digit - UInt8.ofNat (low - first) = value) : digits[value.toNat]? = some digit := by
  have hlt := digit.toNat_lt
  have hnat : value.toNat = first + (digit.toNat - low) := by
    rw [← hvalue, UInt8.toNat_sub, UInt8.toNat_ofNat']
    omega
  rw [hnat, hall (digit.toNat - low) (by omega), Nat.add_sub_cancel' hlow, UInt8.ofNat_toNat]

theorem isDigitOf_of_hexValue? {digit value : UInt8} (h : hexValue? digit = some value) :
    IsDigitOf digit value.toNat := by
  have hnumeral : ∀ v < 10,
      (capitalDigits.map Utf8.code)[0 + v]? = some (UInt8.ofNat (0x30 + v)) := by decide
  have hcapital : ∀ v < 6,
      (capitalDigits.map Utf8.code)[10 + v]? = some (UInt8.ofNat (0x41 + v)) := by decide
  have hsmall : ∀ v < 6,
      (smallDigits.map Utf8.code)[10 + v]? = some (UInt8.ofNat (0x61 + v)) := by decide
  simp only [hexValue?, Bool.and_eq_true, decide_eq_true_eq, UInt8.le_iff_toNat_le,
    UInt8.reduceToNat] at h
  split at h
  · rename_i hrange
    exact Or.inl (getElem?_of_consecutive hnumeral (by decide) hrange.1 (by omega)
      (Option.some.inj h))
  split at h
  · rename_i hrange
    exact Or.inl (getElem?_of_consecutive hcapital (by decide) hrange.1 (by omega)
      (Option.some.inj h))
  split at h
  · rename_i hrange
    exact Or.inr (getElem?_of_consecutive hsmall (by decide) hrange.1 (by omega)
      (Option.some.inj h))
  · cases h

theorem not_isDigitOf {byte : UInt8} (h : hexValue? byte = none) (value : Nat) :
    ¬ IsDigitOf byte value := by
  intro hdigit
  rw [hexValue?_of_isDigitOf hdigit] at h
  cases h

theorem escaped?_of_spells {high low byte : UInt8} (h : Spells high low byte) :
    escaped? high low = some byte := by
  obtain ⟨hhigh, hlow⟩ := h
  simp only [escaped?, hexValue?_of_isDigitOf hhigh, hexValue?_of_isDigitOf hlow,
    Option.some.injEq]
  apply UInt8.toNat_inj.1
  have hbyte := byte.toNat_lt
  simp only [UInt8.toNat_add, UInt8.toNat_mul, UInt8.toNat_ofNat', Nat.reducePow,
    UInt8.reduceToNat]
  omega

/-- Two digits spell one byte. -/
theorem Spells.unique {high low byte byte' : UInt8} (h : Spells high low byte)
    (h' : Spells high low byte') : byte = byte' := by
  have hsame := (escaped?_of_spells h).symm.trans (escaped?_of_spells h')
  exact Option.some.inj hsame

theorem spells_of_escaped? {high low byte : UInt8} (h : escaped? high low = some byte) :
    Spells high low byte := by
  unfold escaped? at h
  split at h
  · rename_i h' l' hhigh hlow
    have hhigh' := isDigitOf_of_hexValue? hhigh
    have hlow' := isDigitOf_of_hexValue? hlow
    have hbyte : byte.toNat = h'.toNat * 16 + l'.toNat := by
      have hlt := hhigh'.lt
      have hlt' := hlow'.lt
      rw [← Option.some.inj h]
      simp only [UInt8.toNat_add, UInt8.toNat_mul, Nat.reducePow, UInt8.reduceToNat]
      omega
    have hlt := hlow'.lt
    refine ⟨?_, ?_⟩
    · have hhalf : byte.toNat / 16 = h'.toNat := by omega
      rwa [hhalf]
    · have hhalf : byte.toNat % 16 = l'.toNat := by omega
      rwa [hhalf]
  · cases h

/-- Two bytes make an escape of a `%` before them if they have values as digits. -/
theorem introducesEscape_iff_isSome {high low : UInt8} {rest : Bytes} :
    IntroducesEscape (high :: low :: rest) ↔ (escaped? high low).isSome = true := by
  rw [Option.isSome_iff_exists]
  constructor
  · rintro ⟨_, _, byte, _, hcut, hspells⟩
    cases hcut
    exact ⟨byte, escaped?_of_spells hspells⟩
  · rintro ⟨byte, hbyte⟩
    exact ⟨high, low, byte, rest, rfl, spells_of_escaped? hbyte⟩

/-! ## The scan -/

theorem Scan.firstFault?_eq (s : Scan) :
    s.firstFault? =
      match s.step with
      | .clear => none
      | .fault offset => some offset
      | .next t => t.firstFault? := by
  rw [Scan.firstFault?]
  split <;> rename_i hstep <;> rw [hstep]

theorem Scan.firstFault?_nil (passed : Bytes) : Scan.firstFault? ⟨passed, []⟩ = none := by
  rw [Scan.firstFault?_eq]
  rfl

/-- A scan passes over a byte that is not `%`. -/
theorem Scan.firstFault?_of_ne {byte : UInt8} (h : byte ≠ sign) (passed ahead : Bytes) :
    Scan.firstFault? ⟨passed, byte :: ahead⟩ = Scan.firstFault? ⟨passed ++ [byte], ahead⟩ := by
  have hbyte : (byte != sign) = true := bne_iff_ne.2 h
  have hstep : Scan.step ⟨passed, byte :: ahead⟩ = Scan.step ⟨passed ++ [byte], ahead⟩ := by
    simp only [Scan.step, List.takeWhile_cons, List.dropWhile_cons, hbyte, ↓reduceIte,
      List.length_append, List.length_cons, List.length_nil, List.append_assoc,
      List.cons_append, List.nil_append, Nat.add_assoc, Nat.add_comm 1]
  rw [Scan.firstFault?_eq, Scan.firstFault?_eq, hstep]

/-- A scan passes over an escape. -/
theorem Scan.firstFault?_of_escaped {high low byte : UInt8} (h : escaped? high low = some byte)
    (passed ahead : Bytes) :
    Scan.firstFault? ⟨passed, sign :: high :: low :: ahead⟩ =
      Scan.firstFault? ⟨passed ++ [sign, high, low], ahead⟩ := by
  rw [Scan.firstFault?_eq]
  simp [Scan.step, h]

/-- A scan stops at a `%` that introduces no escape. -/
theorem Scan.firstFault?_of_fault {after : Bytes} (h : ¬ IntroducesEscape after) (passed : Bytes) :
    Scan.firstFault? ⟨passed, sign :: after⟩ = some passed.length := by
  have hstep : Scan.step ⟨passed, sign :: after⟩ = .fault passed.length := by
    rcases after with _ | ⟨high, _ | ⟨low, rest⟩⟩
    · simp [Scan.step]
    · simp [Scan.step]
    · rw [introducesEscape_iff_isSome] at h
      simp [Scan.step, h]
  rw [Scan.firstFault?_eq, hstep]

/-! ## What a byte string writes -/

/-- The bytes `encoded` write the bytes `plain`: each in its turn as itself, which `%` is not, or as
an escape, which a byte to be kept is not. -/
inductive Writes (kept : UInt8 → Prop) : Bytes → Bytes → Prop where
  | nil : Writes kept [] []
  | literal {byte : UInt8} {encoded plain : Bytes} :
      byte ≠ sign → Writes kept encoded plain → Writes kept (byte :: encoded) (byte :: plain)
  | escape {byte high low : UInt8} {encoded plain : Bytes} :
      ¬ kept byte → Spells high low byte → Writes kept encoded plain →
      Writes kept (sign :: high :: low :: encoded) (byte :: plain)

/-- A percent-encoding of a text in which the bytes to be kept stand as themselves. -/
def IsEncodingKeeping (kept : UInt8 → Prop) (encoded text : String) : Prop :=
  Writes kept (Utf8.encode encoded) (Utf8.encode text)

/-- A percent-encoding of a text. -/
def IsEncoding (encoded text : String) : Prop := IsEncodingKeeping (fun _ => False) encoded text

section Writes

variable {kept : UInt8 → Prop}

theorem Writes.weaken {kept' : UInt8 → Prop} {encoded plain : Bytes}
    (hkept : ∀ byte, kept' byte → kept byte) (h : Writes kept encoded plain) :
    Writes kept' encoded plain := by
  induction h with
  | nil => exact .nil
  | literal hbyte _ ih => exact .literal hbyte ih
  | escape hbyte hspells _ ih => exact .escape (fun hb => hbyte (hkept _ hb)) hspells ih

theorem Writes.append {encoded plain encoded' plain' : Bytes} (h : Writes kept encoded plain)
    (h' : Writes kept encoded' plain') : Writes kept (encoded ++ encoded') (plain ++ plain') := by
  induction h with
  | nil => exact h'
  | literal hbyte _ ih => exact .literal hbyte ih
  | escape hbyte hspells _ ih => exact .escape hbyte hspells ih

/-- Bytes behind those that write something write by themselves. -/
theorem Writes.append_iff {front front' back plain : Bytes} (h : Writes kept front front') :
    Writes kept (front ++ back) plain ↔ ∃ back', plain = front' ++ back' ∧ Writes kept back back' := by
  constructor
  · intro hwhole
    induction h generalizing plain with
    | nil => exact ⟨plain, rfl, hwhole⟩
    | @literal byte encoded plain hbyte _ ih =>
        rw [List.cons_append] at hwhole
        generalize hmore : encoded ++ back = more at hwhole
        cases hwhole with
        | literal _ hrest =>
            obtain ⟨back', rfl, hback⟩ := ih (hmore ▸ hrest)
            exact ⟨back', rfl, hback⟩
        | escape => exact absurd rfl hbyte
    | escape _ hspells _ ih =>
        rw [List.cons_append, List.cons_append, List.cons_append] at hwhole
        cases hwhole with
        | literal hsign => exact absurd rfl hsign
        | escape _ hspells' hrest =>
            obtain ⟨back', rfl, hback⟩ := ih hrest
            exact ⟨back', by rw [hspells.unique hspells', List.cons_append], hback⟩
  · rintro ⟨back', rfl, hback⟩
    exact h.append hback

/-- Bytes without `%` write themselves. -/
theorem writes_self {bytes : Bytes} (h : sign ∉ bytes) : Writes kept bytes bytes := by
  induction bytes with
  | nil => exact .nil
  | cons byte bytes ih =>
      obtain ⟨hbyte, hbytes⟩ := List.ne_and_not_mem_of_not_mem_cons h
      exact .literal hbyte.symm (ih hbytes)

/-- What is written can be cut anywhere. -/
theorem Writes.exists_of_append {encoded front back : Bytes} (h : Writes kept encoded (front ++ back)) :
    ∃ front' back', encoded = front' ++ back' ∧ Writes kept front' front ∧
      Writes kept back' back := by
  induction front generalizing encoded with
  | nil => exact ⟨[], encoded, rfl, .nil, h⟩
  | cons byte front ih =>
      rw [List.cons_append] at h
      cases h with
      | literal hbyte h =>
          obtain ⟨front', back', rfl, hfront, hback⟩ := ih h
          exact ⟨byte :: front', back', rfl, .literal hbyte hfront, hback⟩
      | @escape _ high low _ _ hbyte hspells h =>
          obtain ⟨front', back', rfl, hfront, hback⟩ := ih h
          exact ⟨sign :: high :: low :: front', back', rfl, .escape hbyte hspells hfront, hback⟩

/-- What writes bytes can be cut before any byte that is not a digit. -/
theorem Writes.exists_of_append_cons {byte : UInt8} (hdigit : ∀ value, ¬ IsDigitOf byte value)
    {front back plain : Bytes} (h : Writes kept (front ++ byte :: back) plain) :
    ∃ front' back', plain = front' ++ back' ∧ Writes kept front front' ∧
      Writes kept (byte :: back) back' := by
  generalize hencoded : front ++ byte :: back = encoded at h
  induction h generalizing front with
  | nil => simp at hencoded
  | @literal b encoded plain hb h ih =>
      cases front with
      | nil =>
          rw [List.nil_append] at hencoded
          exact ⟨[], b :: plain, rfl, .nil, hencoded ▸ .literal hb h⟩
      | cons a front =>
          obtain ⟨rfl, hrest⟩ := List.cons.inj hencoded
          obtain ⟨front', back', rfl, hfront, hback⟩ := ih hrest
          exact ⟨_, back', rfl, .literal hb hfront, hback⟩
  | @escape b high low encoded plain hb hspells h ih =>
      -- The cut is before the escape or behind it, because a digit stands at the others.
      rcases front with _ | ⟨a, _ | ⟨a', _ | ⟨a'', front⟩⟩⟩
      · rw [List.nil_append] at hencoded
        exact ⟨[], b :: plain, rfl, .nil, hencoded ▸ .escape hb hspells h⟩
      · simp only [List.cons_append, List.nil_append, List.cons.injEq] at hencoded
        exact absurd (hencoded.2.1 ▸ hspells.1) (hdigit _)
      · simp only [List.cons_append, List.nil_append, List.cons.injEq] at hencoded
        exact absurd (hencoded.2.2.1 ▸ hspells.2) (hdigit _)
      · simp only [List.cons_append, List.cons.injEq] at hencoded
        obtain ⟨rfl, rfl, rfl, hrest⟩ := hencoded
        obtain ⟨front', back', rfl, hfront, hback⟩ := ih hrest
        exact ⟨_, back', rfl, .escape hb hspells hfront, hback⟩

/-- A byte that is neither `%` nor a digit is written as itself only, wherever it stands. -/
theorem writes_append_cons_iff {byte : UInt8} (hbyte : byte ≠ sign)
    (hdigit : ∀ value, ¬ IsDigitOf byte value) {front back plain : Bytes} :
    Writes kept (front ++ byte :: back) plain ↔
      ∃ front' back', plain = front' ++ byte :: back' ∧ Writes kept front front' ∧
        Writes kept back back' := by
  constructor
  · intro h
    obtain ⟨front', rest, rfl, hfront, hrest⟩ := h.exists_of_append_cons hdigit
    cases hrest with
    | literal _ hback => exact ⟨front', _, rfl, hfront, hback⟩
    | escape => exact absurd rfl hbyte
  · rintro ⟨front', back', rfl, hfront, hback⟩
    exact hfront.append (.literal hbyte hback)

/-- A byte to be kept divides what writes bytes as it divides these. -/
theorem Writes.exists_of_kept {byte : UInt8} (hkept : kept byte) {encoded front back : Bytes}
    (h : Writes kept encoded (front ++ byte :: back)) :
    ∃ front' back', encoded = front' ++ byte :: back' ∧ Writes kept front' front ∧
      Writes kept back' back := by
  obtain ⟨front', rest, rfl, hfront, hrest⟩ := h.exists_of_append
  cases hrest with
  | literal _ hback => exact ⟨front', _, rfl, hfront, hback⟩
  | escape hescaped => exact absurd hkept hescaped

/-- Behind any `%` in bytes that write something there is an escape. -/
theorem Writes.introducesEscape {front back plain : Bytes}
    (h : Writes kept (front ++ sign :: back) plain) : IntroducesEscape back := by
  obtain ⟨front', rest, -, -, hrest⟩ := h.exists_of_append_cons (not_isDigitOf rfl)
  cases hrest with
  | literal hsign => exact absurd rfl hsign
  | escape _ hspells => exact ⟨_, _, _, _, rfl, hspells⟩

/-! ## What a scan and a decoding make of it -/

theorem Writes.unescape_eq {encoded plain : Bytes} (h : Writes kept encoded plain) :
    unescape encoded = plain := by
  induction h with
  | nil => rfl
  | literal hbyte _ ih => rw [unescape_cons_of_ne hbyte, ih]
  | escape _ hspells _ ih => simp only [unescape, ↓reduceIte, escaped?_of_spells hspells, ih]

/-- Bytes without `%` write only themselves. -/
theorem Writes.eq_of_not_mem {encoded plain : Bytes} (h : Writes kept encoded plain)
    (hsign : sign ∉ encoded) : plain = encoded := by
  have hself : Writes kept encoded encoded := writes_self hsign
  rw [← h.unescape_eq, hself.unescape_eq]

/-- A scan passes over bytes that write something. -/
theorem Writes.firstFault?_append {encoded plain : Bytes} (h : Writes kept encoded plain)
    (passed ahead : Bytes) :
    Scan.firstFault? ⟨passed, encoded ++ ahead⟩ = Scan.firstFault? ⟨passed ++ encoded, ahead⟩ := by
  induction h generalizing passed with
  | nil => rw [List.nil_append, List.append_nil]
  | literal hbyte _ ih =>
      rw [List.cons_append, Scan.firstFault?_of_ne hbyte, ih, List.append_assoc]
      rfl
  | escape _ hspells _ ih =>
      rw [List.cons_append, List.cons_append, List.cons_append,
        Scan.firstFault?_of_escaped (escaped?_of_spells hspells), ih, List.append_assoc]
      rfl

/-- A text whose bytes write something is decoded to the text that they write, if there is one. -/
theorem decode_of_writes {encoded : String} {plain : Bytes}
    (h : Writes kept (Utf8.encode encoded) plain) :
    decode encoded = (Utf8.decode? plain).elim (.error .invalidUtf8) .ok := by
  have hscan : (scan (Utf8.encode encoded)).firstFault? = none := by
    have happend := h.firstFault?_append [] []
    rw [List.append_nil, Scan.firstFault?_nil] at happend
    exact happend
  simp only [decode, hscan, h.unescape_eq]
  cases Utf8.decode? plain <;> rfl

/-- A text whose bytes write something up to a `%` that introduces no escape is not decoded. -/
theorem decode_of_fault {encoded : String} {before after plain : Bytes}
    (hencoded : Utf8.encode encoded = before ++ sign :: after) (h : Writes kept before plain)
    (hafter : ¬ IntroducesEscape after) :
    decode encoded = .error (.malformedEscape before.length) := by
  have hscan : (scan (Utf8.encode encoded)).firstFault? = some before.length := by
    rw [scan, hencoded, h.firstFault?_append, List.nil_append]
    exact Scan.firstFault?_of_fault hafter before
  simp only [decode, hscan]

end Writes

/-- A byte string writes something, or it holds a `%` that introduces no escape, and what stands
before that writes something. -/
theorem writes_or_fault (bytes : Bytes) :
    (∃ plain, Writes (fun _ => False) bytes plain) ∨
      ∃ before after plain, bytes = before ++ sign :: after ∧
        Writes (fun _ => False) before plain ∧ ¬ IntroducesEscape after := by
  -- By the length, because an escape takes three bytes off at once.
  induction hlength : bytes.length using Nat.strongRecOn generalizing bytes with
  | ind length ih =>
      cases bytes with
      | nil => exact Or.inl ⟨[], .nil⟩
      | cons byte rest =>
          by_cases hbyte : byte = sign
          · subst hbyte
            by_cases hrest : IntroducesEscape rest
            · obtain ⟨high, low, byte, rest, rfl, hspells⟩ := hrest
              have hlt : rest.length < length := by
                rw [← hlength]
                simp only [List.length_cons]
                omega
              rcases ih rest.length hlt rest rfl with
                ⟨plain, h⟩ | ⟨before, after, plain, rfl, h, hafter⟩
              · exact Or.inl ⟨byte :: plain, .escape not_false hspells h⟩
              · exact Or.inr ⟨sign :: high :: low :: before, after, byte :: plain, rfl,
                  .escape not_false hspells h, hafter⟩
            · exact Or.inr ⟨[], rest, [], rfl, .nil, hrest⟩
          · have hlt : rest.length < length := by
              rw [← hlength]
              exact Nat.lt_succ_self _
            rcases ih rest.length hlt rest rfl with
              ⟨plain, h⟩ | ⟨before, after, plain, rfl, h, hafter⟩
            · exact Or.inl ⟨byte :: plain, .literal hbyte h⟩
            · exact Or.inr ⟨byte :: before, after, byte :: plain, rfl, .literal hbyte h, hafter⟩

/-- A text is decoded to those texts of which it is a percent-encoding. -/
theorem decode_eq_ok_iff {encoded text : String} :
    decode encoded = .ok text ↔ IsEncoding encoded text := by
  constructor
  · intro h
    rcases writes_or_fault (Utf8.encode encoded) with
      ⟨plain, hwrites⟩ | ⟨before, after, plain, hencoded, hwrites, hafter⟩
    · have htext := encode_of_decode_eq_ok h
      rw [hwrites.unescape_eq] at htext
      rw [IsEncoding, IsEncodingKeeping, htext]
      exact hwrites
    · rw [decode_of_fault hencoded hwrites hafter] at h
      cases h
  · intro h
    rw [decode_of_writes h, Utf8.decode?_encode, Option.elim_some]

theorem sign_mem_encode_iff {text : String} : sign ∈ Utf8.encode text ↔ '%' ∈ text.toList := by
  have hcode : sign = Utf8.code '%' := by decide
  rw [hcode, Utf8.code_mem_encode_iff (by decide)]

/-- A text without `%` is decoded to itself. -/
theorem decode_self {text : String} (h : '%' ∉ text.toList) : decode text = .ok text :=
  decode_eq_ok_iff.2 (writes_self (mt sign_mem_encode_iff.1 h))

/-! ## Characters that stand for themselves -/

theorem sign_not_mem_utf8EncodeChar {c : Char} (hc : c ≠ '%') : sign ∉ String.utf8EncodeChar c := by
  rw [← Utf8.encode_singleton, sign_mem_encode_iff, String.toList_singleton, List.mem_singleton]
  exact hc.symm

/-- A character that is not `%` stands for itself behind bytes that write something, and what is on
either side of it is decoded by itself. -/
theorem decode_around_literal_eq_ok_iff {before after text : String} {c : Char} {plain : Bytes}
    (hbefore : Writes (fun _ => False) (Utf8.encode before) plain) (hc : c ≠ '%') :
    decode (before ++ .singleton c ++ after) = .ok text ↔
      ∃ front back, decode before = .ok front ∧ decode after = .ok back ∧
        text = front ++ .singleton c ++ back := by
  have hself : Writes (fun _ => False) (String.utf8EncodeChar c) (String.utf8EncodeChar c) :=
    writes_self (sign_not_mem_utf8EncodeChar hc)
  have hcut : ∀ s t : String, Utf8.encode (s ++ .singleton c ++ t) =
      Utf8.encode s ++ (String.utf8EncodeChar c ++ Utf8.encode t) := by
    intro s t
    rw [Utf8.encode_append, Utf8.encode_append, Utf8.encode_singleton, List.append_assoc]
  simp only [decode_eq_ok_iff, IsEncoding, IsEncodingKeeping, hcut]
  constructor
  · intro h
    obtain ⟨rest, htext, hrest⟩ := hbefore.append_iff.1 h
    obtain ⟨last, rfl, hlast⟩ := hself.append_iff.1 hrest
    obtain ⟨front, back, -, rfl, rfl⟩ := Utf8.exists_of_encode_eq_append_char htext
    exact ⟨.ofList front, .ofList back, hbefore, hlast,
      Utf8.encode_injective (htext.trans (hcut _ _).symm)⟩
  · rintro ⟨front, back, hfront, hback, rfl⟩
    rw [hcut]
    exact hfront.append (hself.append hback)

/-- An ASCII character that is neither `%` nor a digit stands for itself, whatever is around it. -/
theorem decode_around_separator_eq_ok_iff {before after text : String} {c : Char}
    (hascii : c.toNat < 0x80) (hc : c ≠ '%') (hdigit : ∀ value, ¬ IsDigitOf (Utf8.code c) value) :
    decode (before ++ .singleton c ++ after) = .ok text ↔
      ∃ front back, decode before = .ok front ∧ decode after = .ok back ∧
        text = front ++ .singleton c ++ back := by
  constructor
  · intro h
    have hwrites := decode_eq_ok_iff.1 h
    have hcut : Utf8.encode (before ++ .singleton c ++ after) =
        Utf8.encode before ++ Utf8.code c :: Utf8.encode after := by
      rw [Utf8.encode_append, Utf8.encode_append, Utf8.encode_singleton,
        Utf8.utf8EncodeChar_of_lt hascii, List.append_assoc, List.singleton_append]
    rw [IsEncoding, IsEncodingKeeping, hcut] at hwrites
    obtain ⟨front, -, -, hfront, -⟩ := hwrites.exists_of_append_cons hdigit
    exact (decode_around_literal_eq_ok_iff hfront hc).1 h
  · rintro ⟨front, back, hfront, hback, rfl⟩
    exact (decode_around_literal_eq_ok_iff (decode_eq_ok_iff.1 hfront) hc).2
      ⟨front, back, hfront, hback, rfl⟩

/-! ## The encoding that escapes all it can -/

/-- Whether a character is never escaped: letters, digits and four marks of ASCII. -/
def isUnreserved (c : Char) : Bool :=
  ('0' ≤ c && c ≤ '9') || ('A' ≤ c && c ≤ 'Z') || ('a' ≤ c && c ≤ 'z') ||
    ['-', '.', '_', '~'].contains c

/-- How a byte is written: an unreserved character stands as itself, all else is an escape with
capital digits. -/
def written (byte : UInt8) : List Char :=
  if isUnreserved (.ofUInt8 byte) then [.ofUInt8 byte]
  else ['%', capitalDigits.getD (byte.toNat / 16) '0', capitalDigits.getD (byte.toNat % 16) '0']

/-- A text with all but its unreserved characters escaped. -/
def encode (text : String) : String := .ofList ((Utf8.encode text).flatMap written)

theorem isUnreserved_lt {c : Char} (h : isUnreserved c = true) : c.toNat < 0x80 := by
  have hmarks : ∀ d ∈ ['-', '.', '_', '~'], d.toNat < 0x80 := by simp
  have hbelow : ∀ d : Char, c ≤ d → d.toNat < 0x80 → c.toNat < 0x80 :=
    fun _ hle hlt => Nat.lt_of_le_of_lt (UInt32.le_iff_toNat_le.1 (Char.le_def.1 hle)) hlt
  simp only [isUnreserved, Bool.or_eq_true, Bool.and_eq_true, decide_eq_true_eq,
    List.contains_iff_mem] at h
  rcases h with ((h | h) | h) | h
  · exact hbelow '9' h.2 (by decide)
  · exact hbelow 'Z' h.2 (by decide)
  · exact hbelow 'z' h.2 (by decide)
  · exact hmarks c h

theorem writes_written (byte : UInt8) :
    (∀ c ∈ written byte, c.toNat < 0x80) ∧
      Writes (fun _ => False) ((written byte).map Utf8.code) [byte] := by
  have hlt := byte.toNat_lt
  have hdigit : ∀ value < 16, (capitalDigits.getD value '0').toNat < 0x80 ∧
      IsDigitOf (Utf8.code (capitalDigits.getD value '0')) value := by decide
  unfold written
  split
  · rename_i hunreserved
    have hcode : Utf8.code (.ofUInt8 byte) = byte := by
      show UInt8.ofNat byte.toUInt32.toNat = byte
      rw [UInt8.toNat_toUInt32, UInt8.ofNat_toNat]
    have hsign : byte ≠ sign := by
      rintro rfl
      exact absurd hunreserved (by decide)
    refine ⟨by simpa using isUnreserved_lt hunreserved, ?_⟩
    rw [List.map_singleton, hcode]
    exact .literal hsign .nil
  · obtain ⟨hhigh, hhigh'⟩ := hdigit (byte.toNat / 16) (by omega)
    obtain ⟨hlow, hlow'⟩ := hdigit (byte.toNat % 16) (by omega)
    refine ⟨?_, .escape not_false ⟨hhigh', hlow'⟩ .nil⟩
    intro c hc
    simp only [List.mem_cons, List.not_mem_nil, or_false] at hc
    rcases hc with rfl | rfl | rfl
    · decide
    · exact hhigh
    · exact hlow

theorem isEncoding_encode (text : String) : IsEncoding (encode text) text := by
  have hascii : ∀ c ∈ (Utf8.encode text).flatMap written, c.toNat < 0x80 := by
    intro c hc
    obtain ⟨byte, -, hbyte⟩ := List.mem_flatMap.1 hc
    exact (writes_written byte).1 c hbyte
  show Writes _ (Utf8.encode (encode text)) (Utf8.encode text)
  rw [encode, Utf8.encode_ofList_of_lt hascii]
  induction Utf8.encode text with
  | nil => exact .nil
  | cons byte bytes ih =>
      rw [List.flatMap_cons, List.map_append]
      exact (writes_written byte).2.append ih

/-! ## Main statement -/

/-- A plus sign stands for itself, and what is on either side of it is decoded by itself. -/
theorem decode_plus_eq_ok_iff {before after text : String} :
    decode (before ++ "+" ++ after) = .ok text ↔
      ∃ front back, decode before = .ok front ∧ decode after = .ok back ∧
        text = front ++ "+" ++ back :=
  decode_around_separator_eq_ok_iff (c := '+') (by decide) (by decide) (not_isDigitOf rfl)

/-- **Decoding is the inverse of percent-encoding.** A text is decoded to another exactly if it is a
percent-encoding of it; in particular the encoding that escapes all it can is undone, a plus sign
stands for itself wherever it stands, and no text is a percent-encoding of two. -/
theorem decode_inverts_encoding :
    (∀ encoded text : String, decode encoded = .ok text ↔ IsEncoding encoded text) ∧
    (∀ text : String, decode (encode text) = .ok text) ∧
    (∀ before after text : String, decode (before ++ "+" ++ after) = .ok text ↔
      ∃ front back, decode before = .ok front ∧ decode after = .ok back ∧
        text = front ++ "+" ++ back) ∧
    ∀ encoded text other : String, IsEncoding encoded text → IsEncoding encoded other →
      text = other := by
  refine ⟨fun _ _ => decode_eq_ok_iff, ?_, fun _ _ _ => decode_plus_eq_ok_iff, ?_⟩
  · intro text
    exact decode_eq_ok_iff.2 (isEncoding_encode text)
  · intro encoded text other htext hother
    rw [← decode_eq_ok_iff] at htext hother
    rw [htext] at hother
    exact Except.ok.inj hother

/-- An encoding with escapes in either letter case, and the one that escapes all it can. -/
theorem decode_inverts_encoding_of_mixed_case :
    IsEncoding "%41+%e4%B8%Ad" "A+中" ∧ decode "%41+%e4%B8%Ad" = .ok "A+中" ∧
      encode "A+中" = "A%2B%E4%B8%AD" ∧ decode (encode "A+中") = .ok "A+中" ∧
      ∀ other, IsEncoding "%41+%e4%B8%Ad" other → "A+中" = other := by
  obtain ⟨hiff, hencode, -, hunique⟩ := decode_inverts_encoding
  have hdecode : decode "%41+%e4%B8%Ad" = .ok "A+中" := by decide +kernel
  have hencoding := (hiff _ _).1 hdecode
  exact ⟨hencoding, hdecode, by decide +kernel, hencode _, fun other => hunique _ _ other hencoding⟩

end NativeBootstrap.Percent
