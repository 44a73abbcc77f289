import NativeBootstrap.Text.Utf8

/-!
# Percent escapes

An escape is `%` and two hexadecimal digits, in either letter case, for one byte. Decoding is
strict: a scan walks from escape to escape and stops at the first `%` that introduces none
(`Scan.firstFault?`); then each escape becomes its byte (`unescape`) and the bytes have to be UTF-8
(`decode`). A malformed escape anywhere wins over bytes that are not UTF-8. A plus sign is an
ordinary character.

`Scan.step` moves a scan over literal bytes and one complete escape; `Scan.ahead_length_lt` says
that it moves by three bytes or more, which is why a scan ends.
-/

set_option autoImplicit false

namespace NativeBootstrap.Percent

/-- The byte `%`. -/
def sign : UInt8 := 0x25

/-- The value of an ASCII hexadecimal digit. -/
def hexValue? (b : UInt8) : Option UInt8 :=
  if 0x30 ≤ b && b ≤ 0x39 then some (b - 0x30)
  else if 0x41 ≤ b && b ≤ 0x46 then some (b - 0x37)
  else if 0x61 ≤ b && b ≤ 0x66 then some (b - 0x57)
  else none

/-- The byte that two hexadecimal digits stand for. -/
def escaped? (high low : UInt8) : Option UInt8 :=
  match hexValue? high, hexValue? low with
  | some h, some l => some (h * 16 + l)
  | _, _ => none

/-! ## The scan -/

/-- A scan under way: the bytes it has passed and the bytes ahead of it. -/
structure Scan where
  passed : Bytes
  ahead : Bytes
  deriving DecidableEq, Repr

/-- What one step of a scan finds: no escape ahead, a `%` at this offset that introduces none, or
the scan that stands behind the next escape. -/
inductive Scan.Finding where
  | clear
  | fault (offset : Nat)
  | next (scan : Scan)
  deriving DecidableEq, Repr

/-- One step: over the literal bytes up to the next `%`, and over the escape there. -/
def Scan.step (s : Scan) : Scan.Finding :=
  let literal := s.ahead.takeWhile (· != sign)
  match s.ahead.dropWhile (· != sign) with
  | [] => .clear
  | percent :: high :: low :: rest =>
    if (escaped? high low).isSome then
      .next ⟨s.passed ++ literal ++ [percent, high, low], rest⟩
    else .fault (s.passed.length + literal.length)
  | _ => .fault (s.passed.length + literal.length)

theorem Scan.ahead_length_lt {s t : Scan} (h : s.step = .next t) :
    t.ahead.length + 3 ≤ s.ahead.length := by
  have hlen : (s.ahead.takeWhile (· != sign)).length + (s.ahead.dropWhile (· != sign)).length
      = s.ahead.length := by
    rw [← List.length_append, List.takeWhile_append_dropWhile]
  unfold Scan.step at h
  split at h
  · cases h
  · rename_i percent high low rest heq
    split at h
    · cases h
      rw [heq] at hlen
      simp only [List.length_cons] at hlen ⊢
      omega
    · cases h
  · cases h

/-- The offset of the first `%` ahead that introduces no escape. -/
def Scan.firstFault? (s : Scan) : Option Nat :=
  match _found : s.step with
  | .clear => none
  | .fault offset => some offset
  | .next t => t.firstFault?
termination_by s.ahead.length
decreasing_by
  have := Scan.ahead_length_lt _found
  omega

/-- The scan of a byte string from its start. -/
def scan (bytes : Bytes) : Scan := ⟨[], bytes⟩

/-! ## Decoding -/

/-- Each escape replaced by its byte, left to right in one pass; all else stays. -/
def unescape : Bytes → Bytes
  | [] => []
  | [a] => [a]
  | [a, b] => [a, b]
  | a :: high :: low :: rest =>
    match if a = sign then escaped? high low else none with
    | some byte => byte :: unescape rest
    | none => a :: unescape (high :: low :: rest)

/-- Why a text cannot be decoded. -/
inductive Fault where
  /-- The `%` at this byte is not followed by two hexadecimal digits. -/
  | malformedEscape (offset : Nat)
  /-- The decoded bytes are not UTF-8. -/
  | invalidUtf8
  deriving DecidableEq, Repr

/-- The wording of a fault. -/
def Fault.message : Fault → String
  | .malformedEscape offset => "malformed percent escape at byte " ++ toString offset
  | .invalidUtf8 => "percent-decoded bytes are not valid UTF-8"

/-- The text that a percent-encoded text stands for. -/
def decode (encoded : String) : Except Fault String :=
  match (scan (Utf8.encode encoded)).firstFault? with
  | some offset => .error (.malformedEscape offset)
  | none =>
    match Utf8.decode? (unescape (Utf8.encode encoded)) with
    | some text => .ok text
    | none => .error .invalidUtf8

end NativeBootstrap.Percent
