/-!
# Bytes and text

Paths, command line arguments and answers of native code are byte strings; messages and plans are
text. This module holds the three passages between them.

* `encode` writes text as bytes, `decode?` reads bytes as text and refuses what is not UTF-8. The
  two are inverse to each other: `decode?_encode`, `decode?_eq_some_iff`.
* `lossy` reads any bytes. A machine with at most one open character (`Opened`) reads one byte a
  step and cuts the input into characters and maximal ill-formed subparts (`segments`); nothing is
  lost in the cut (`flatMap_bytes_segments`). Each ill-formed subpart is shown as one U+FFFD.
-/

set_option autoImplicit false

namespace NativeBootstrap

/-- A byte string. -/
abbrev Bytes := List UInt8

namespace Utf8

/-! ## Strict reading -/

/-- The UTF-8 bytes of a text. -/
def encode (text : String) : Bytes := text.toByteArray.data.toList

/-- The text whose UTF-8 bytes these are, if there is one. -/
def decode? (bytes : Bytes) : Option String := String.fromUTF8? bytes.toByteArray

theorem toByteArray_encode (text : String) : (encode text).toByteArray = text.toByteArray := by
  apply ByteArray.ext
  simp [encode, List.data_toByteArray]

theorem encode_injective {s t : String} (h : encode s = encode t) : s = t := by
  have h' := congrArg List.toByteArray h
  rw [toByteArray_encode, toByteArray_encode] at h'
  exact String.toByteArray_inj.1 h'

@[simp] theorem decode?_encode (text : String) : decode? (encode text) = some text := by
  have h : (encode text).toByteArray.IsValidUTF8 := by
    rw [toByteArray_encode]
    exact text.isValidUTF8
  simp only [decode?, String.fromUTF8?, h, ↓reduceDIte, Option.some.injEq]
  exact String.toByteArray_inj.1 (toByteArray_encode text)

/-- Each text has one byte form, and only that form is read back. -/
theorem decode?_eq_some_iff {bytes : Bytes} {text : String} :
    decode? bytes = some text ↔ bytes = encode text := by
  constructor
  · intro h
    simp only [decode?, String.fromUTF8?] at h
    split at h
    · rename_i hv
      have ht : text.toByteArray = bytes.toByteArray := by
        rw [← Option.some.inj h]
        rfl
      simp [encode, ht, List.data_toByteArray]
    · simp at h
  · rintro rfl
    exact decode?_encode text

@[simp] theorem encode_append (s t : String) : encode (s ++ t) = encode s ++ encode t := by
  simp [encode]

/-! ## Lossy reading -/

/-- A piece of a byte string: a well-formed character, or a maximal ill-formed subpart. -/
inductive Segment where
  | char (c : Char) (bytes : Bytes)
  | broken (bytes : Bytes)
  deriving DecidableEq, Repr

/-- The bytes a segment stands for. -/
def Segment.bytes : Segment → Bytes
  | .char _ bytes => bytes
  | .broken bytes => bytes

/-- A segment as a reader sees it: an ill-formed one is a single replacement character. -/
def Segment.shown : Segment → Char
  | .char c _ => c
  | .broken _ => '\uFFFD'

/-- A character that has begun: the bytes taken so far, the number of bytes still owed, the range
the next byte has to lie in, and the value of the bits taken. -/
structure Opened where
  taken : Bytes
  owed : Nat
  low : UInt8
  high : UInt8
  value : Nat
  deriving DecidableEq, Repr

/-- What a byte does between characters: an ASCII byte is a character, a lead byte opens one, any
other byte is ill-formed by itself. The ranges of the second byte shut out overlong forms,
surrogates and values above U+10FFFF. -/
def start (b : UInt8) : Option Segment × Option Opened :=
  if b < 0x80 then (some (.char (Char.ofNat b.toNat) [b]), none)
  -- A continuation byte, or a lead byte of overlong forms only.
  else if b < 0xC2 then (some (.broken [b]), none)
  else if b < 0xE0 then (none, some ⟨[b], 1, 0x80, 0xBF, b.toNat - 0xC0⟩)
  else if b < 0xF0 then
    -- E0 must not be overlong, and ED must not be a surrogate.
    (none, some ⟨[b], 2, if b = 0xE0 then 0xA0 else 0x80, if b = 0xED then 0x9F else 0xBF,
      b.toNat - 0xE0⟩)
  else if b < 0xF5 then
    -- F0 must not be overlong, and F4 must not pass U+10FFFF.
    (none, some ⟨[b], 3, if b = 0xF0 then 0x90 else 0x80, if b = 0xF4 then 0x8F else 0xBF,
      b.toNat - 0xF0⟩)
  else (some (.broken [b]), none)

/-- Whether a byte continues the open character. -/
def Opened.admits (o : Opened) (b : UInt8) : Bool := o.low ≤ b && b ≤ o.high

/-- What a byte that continues the open character does: it completes the character or leaves it
open with one byte less owed. -/
def Opened.extend (o : Opened) (b : UInt8) : Option Segment × Option Opened :=
  if o.owed ≤ 1 then (some (.char (Char.ofNat (o.value * 64 + (b.toNat - 0x80))) (o.taken ++ [b])), none)
  else (none, some ⟨o.taken ++ [b], o.owed - 1, 0x80, 0xBF, o.value * 64 + (b.toNat - 0x80)⟩)

/-- The segments of a byte string, read with a character open or none. A byte that does not continue
the open character ends an ill-formed subpart and is then read as if between characters. -/
def segmentsFrom : Option Opened → Bytes → List Segment
  | none, [] => []
  | some o, [] => [.broken o.taken]
  | none, b :: rest => (start b).1.toList ++ segmentsFrom (start b).2 rest
  | some o, b :: rest =>
    if o.admits b then (o.extend b).1.toList ++ segmentsFrom (o.extend b).2 rest
    else .broken o.taken :: ((start b).1.toList ++ segmentsFrom (start b).2 rest)

/-- The segments of a byte string. -/
def segments (bytes : Bytes) : List Segment := segmentsFrom none bytes

/-- Any byte string as text, with one replacement character for each maximal ill-formed subpart. -/
def lossy (bytes : Bytes) : String := String.ofList ((segments bytes).map Segment.shown)

private theorem bytes_start (b : UInt8) :
    (start b).1.toList.flatMap Segment.bytes ++ ((start b).2.elim [] Opened.taken) = [b] := by
  unfold start
  split
  · rfl
  split
  · rfl
  split
  · rfl
  split
  · rfl
  split <;> rfl

private theorem bytes_extend (o : Opened) (b : UInt8) :
    (o.extend b).1.toList.flatMap Segment.bytes ++ ((o.extend b).2.elim [] Opened.taken)
      = o.taken ++ [b] := by
  unfold Opened.extend
  split <;> simp [Segment.bytes]

private theorem flatMap_bytes_segmentsFrom (bytes : Bytes) (opened : Option Opened) :
    (segmentsFrom opened bytes).flatMap Segment.bytes
      = opened.elim [] Opened.taken ++ bytes := by
  induction bytes generalizing opened with
  | nil => cases opened <;> simp [segmentsFrom, Segment.bytes]
  | cons b rest ih =>
    have hs := congrArg (· ++ rest) (bytes_start b)
    simp only [List.append_assoc, List.singleton_append] at hs
    cases opened with
    | none => simp [segmentsFrom, ih, hs]
    | some o =>
      have he := congrArg (· ++ rest) (bytes_extend o b)
      simp only [List.append_assoc, List.singleton_append] at he
      by_cases ha : o.admits b
      · simp [segmentsFrom, ha, ih, he]
      · simp [segmentsFrom, ha, ih, hs, Segment.bytes]

/-- The cut into segments loses no byte and adds none. -/
theorem flatMap_bytes_segments (bytes : Bytes) :
    (segments bytes).flatMap Segment.bytes = bytes := by
  simpa [segments] using flatMap_bytes_segmentsFrom bytes none

end Utf8

end NativeBootstrap
