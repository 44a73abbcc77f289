import NativeBootstrap.Text.Percent

/-!
# Unescaping, byte by byte

`unescape` reads a byte string from the left. A byte that is not `%` stands for itself, whatever
follows it (`unescape_cons_of_ne`). A decoded text has the bytes that unescaping gives
(`encode_of_decode_eq_ok`).
-/

set_option autoImplicit false

namespace NativeBootstrap.Percent

/-- A byte that is not `%` stands for itself. -/
theorem unescape_cons_of_ne {a : UInt8} (h : a ≠ sign) (rest : Bytes) :
    unescape (a :: rest) = a :: unescape rest := by
  rcases rest with _ | ⟨high, _ | ⟨low, rest⟩⟩
  · rfl
  · rfl
  · simp only [unescape, h, ↓reduceIte]

/-- The bytes of a decoded text are those of the encoded text with its escapes replaced. -/
theorem encode_of_decode_eq_ok {encoded text : String} (h : decode encoded = .ok text) :
    Utf8.encode text = unescape (Utf8.encode encoded) := by
  unfold decode at h
  split at h
  · cases h
  · split at h
    · rename_i t ht
      cases h
      exact (Utf8.decode?_eq_some_iff.1 ht).symm
    · cases h

end NativeBootstrap.Percent
