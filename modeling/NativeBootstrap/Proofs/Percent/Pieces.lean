import Mathlib.Data.List.Forall2
import NativeBootstrap.Proofs.Percent.Encoding

/-!
# Decoding piece by piece

What is decoded is decoded for itself: behind a text that is decoded, any other is decoded, or
refused, as if it stood alone, and only the place of a malformed escape moves (`decode_append`). No
escape and no character reaches over the cut, because the first text already ends with its last
escape complete and its last character whole.

A `/` between two components is such a cut wherever the whole is decoded, whatever the components
are (`decode_path_eq_ok_iff`). The main statement is `decode_goes_piece_by_piece`.
-/

set_option autoImplicit false

namespace NativeBootstrap.Percent

/-- The fault of a text in a longer one, where it stands behind this many bytes. -/
def Fault.behind (bytes : Nat) : Fault → Fault
  | .malformedEscape offset => .malformedEscape (offset + bytes)
  | .invalidUtf8 => .invalidUtf8

/-- Behind a text that is decoded, another has the text or the fault that it has alone. -/
theorem decode_append {front text : String} (h : decode front = .ok text) (back : String) :
    decode (front ++ back) =
      ((decode back).map (text ++ ·)).mapError (Fault.behind front.utf8ByteSize) := by
  have hfront : Writes (fun _ => False) (Utf8.encode front) (Utf8.encode text) :=
    decode_eq_ok_iff.1 h
  rcases writes_or_fault (Utf8.encode back) with
    ⟨plain, hback⟩ | ⟨before, after, plain, hback, hwrites, hafter⟩
  · have hwhole := hfront.append hback
    rw [← Utf8.encode_append] at hwhole
    rw [decode_of_writes hwhole, decode_of_writes hback, Utf8.decode?_encode_append]
    cases Utf8.decode? plain with
    | none => rfl
    | some rest => rfl
  · have hwhole : Utf8.encode (front ++ back) = (Utf8.encode front ++ before) ++ sign :: after := by
      rw [Utf8.encode_append, hback, List.append_assoc]
    have hlength : (Utf8.encode front ++ before).length = before.length + front.utf8ByteSize := by
      rw [List.length_append, Utf8.length_encode, Nat.add_comm]
    rw [decode_of_fault hwhole (hfront.append hwrites) hafter, decode_of_fault hback hwrites hafter,
      hlength]
    rfl

/-- A text without `%` at the front is not touched, whatever comes behind it. -/
theorem decode_append_of_not_mem {front encoded text : String} (hfront : '%' ∉ front.toList)
    (h : decode encoded = .ok text) : decode (front ++ encoded) = .ok (front ++ text) := by
  rw [decode_append (decode_self hfront), h]
  rfl

/-- A path is decoded to the path of its decoded components. -/
theorem decode_path_eq_ok_iff {components : List String} {text : String} :
    decode ("/".intercalate components) = .ok text ↔
      ∃ texts, List.Forall₂ (fun component part => decode component = .ok part) components texts ∧
        text = "/".intercalate texts := by
  induction components generalizing text with
  | nil =>
      rw [String.intercalate_nil, decode_self (by decide), Except.ok.injEq]
      constructor
      · rintro rfl
        exact ⟨[], .nil, String.intercalate_nil.symm⟩
      · rintro ⟨texts, hall, rfl⟩
        cases hall
        exact String.intercalate_nil.symm
  | cons component components ih =>
      cases components with
      | nil =>
          rw [String.intercalate_singleton]
          constructor
          · intro h
            exact ⟨[text], .cons h .nil, String.intercalate_singleton.symm⟩
          · rintro ⟨texts, hall, rfl⟩
            obtain ⟨part, rest, hpart, hrest, rfl⟩ := List.forall₂_cons_left_iff.1 hall
            cases hrest
            rwa [String.intercalate_singleton]
      | cons next components =>
          have hcut : ∀ part whole : String, part ++ "/" ++ whole = part ++ .singleton '/' ++ whole :=
            fun _ _ => rfl
          rw [String.intercalate_cons_cons, hcut,
            decode_around_separator_eq_ok_iff (by decide) (by decide) (not_isDigitOf rfl)]
          constructor
          · rintro ⟨front, back, hfront, hback, rfl⟩
            obtain ⟨texts, hall, rfl⟩ := ih.1 hback
            obtain ⟨part, rest, -, -, rfl⟩ := List.forall₂_cons_left_iff.1 hall
            exact ⟨front :: part :: rest, .cons hfront hall,
              by rw [String.intercalate_cons_cons, hcut]⟩
          · rintro ⟨texts, hall, rfl⟩
            obtain ⟨front, rest, hfront, hrest, rfl⟩ := List.forall₂_cons_left_iff.1 hall
            obtain ⟨part, rest, -, -, rfl⟩ := List.forall₂_cons_left_iff.1 hrest
            exact ⟨front, _, hfront, ih.2 ⟨_, hrest, rfl⟩,
              by rw [String.intercalate_cons_cons, hcut]⟩

/-- **Decoding goes piece by piece.** Behind a text that is decoded another is decoded to the text it
has alone, is refused at the place it has alone and as many bytes further back as the first is long,
or is refused for bytes that are not UTF-8 if it is so alone. So the components of a path are decoded
one by one to the components of the decoded path. -/
theorem decode_goes_piece_by_piece :
    (∀ front back text : String, decode front = .ok text →
      (∀ rest, decode back = .ok rest → decode (front ++ back) = .ok (text ++ rest)) ∧
      (∀ offset, decode back = .error (.malformedEscape offset) →
        decode (front ++ back) = .error (.malformedEscape (offset + front.utf8ByteSize))) ∧
      (decode back = .error .invalidUtf8 → decode (front ++ back) = .error .invalidUtf8)) ∧
    ∀ (components : List String) (text : String),
      decode ("/".intercalate components) = .ok text ↔
        ∃ texts, List.Forall₂ (fun component part => decode component = .ok part) components texts ∧
          text = "/".intercalate texts := by
  refine ⟨?_, fun _ _ => decode_path_eq_ok_iff⟩
  intro front back text h
  refine ⟨?_, ?_, ?_⟩
  · intro rest hback
    rw [decode_append h, hback]
    rfl
  · intro offset hback
    rw [decode_append h, hback]
    rfl
  · intro hback
    rw [decode_append h, hback]
    rfl

/-- Behind an escaped separator: a text, the beginning of an escape, and half a character. -/
theorem decode_goes_piece_by_piece_of_escaped_separator :
    decode "é%2f" = .ok "é/" ∧
      (decode "%E4%B8%AD" = .ok "中" ∧ decode ("é%2f" ++ "%E4%B8%AD") = .ok ("é/" ++ "中")) ∧
      (decode "a%4" = .error (.malformedEscape 1) ∧
        decode ("é%2f" ++ "a%4") = .error (.malformedEscape (1 + "é%2f".utf8ByteSize))) ∧
      (decode "%E4%B8" = .error .invalidUtf8 ∧
        decode ("é%2f" ++ "%E4%B8") = .error .invalidUtf8) ∧
      ∃ texts, List.Forall₂ (fun component part => decode component = .ok part)
        ["opt", "100%25", "%2E%2e"] texts ∧ "opt/100%/.." = "/".intercalate texts := by
  obtain ⟨hpieces, hcomponents⟩ := decode_goes_piece_by_piece
  have hfront : decode "é%2f" = .ok "é/" := by decide +kernel
  have hback : decode "%E4%B8%AD" = .ok "中" := by decide +kernel
  have hmalformed : decode "a%4" = .error (.malformedEscape 1) := by decide +kernel
  have hinvalid : decode "%E4%B8" = .error .invalidUtf8 := by decide +kernel
  have hpath : decode ("/".intercalate ["opt", "100%25", "%2E%2e"]) = .ok "opt/100%/.." := by
    decide +kernel
  exact ⟨hfront, ⟨hback, (hpieces _ _ _ hfront).1 _ hback⟩,
    ⟨hmalformed, (hpieces _ _ _ hfront).2.1 _ hmalformed⟩,
    ⟨hinvalid, (hpieces _ _ _ hfront).2.2 hinvalid⟩, (hcomponents _ _).1 hpath⟩

end NativeBootstrap.Percent
