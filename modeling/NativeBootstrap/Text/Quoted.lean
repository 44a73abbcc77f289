import NativeBootstrap.Text.Visible

/-!
# Text in double quotes

The form in which a message shows a text it was given: in double quotes, with a backslash before a
double quote and a backslash, short names for four control characters, and the code point in
hexadecimal for every other character that has no visible form of its own. A single quote stands as
it is.
-/

set_option autoImplicit false

namespace NativeBootstrap.Quoted

/-- A code point written as a backslash, `u` and lower-case hexadecimal digits in braces. -/
def codePoint (c : Char) : List Char :=
  "\\u\x7b".toList ++ Nat.toDigits 16 c.toNat ++ ['\x7d']

/-- One character of the quoted text. -/
def character (c : Char) : List Char :=
  match c with
  | '\x00' => ['\\', '0']
  | '\t' => ['\\', 't']
  | '\n' => ['\\', 'n']
  | '\r' => ['\\', 'r']
  | '"' => ['\\', '"']
  | '\\' => ['\\', '\\']
  | _ => if Text.isShown c then [c] else codePoint c

/-- The text in quotes. -/
def quote (text : String) : String :=
  String.ofList ('"' :: text.toList.flatMap character ++ ['"'])

end NativeBootstrap.Quoted
