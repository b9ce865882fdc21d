import JsonSchema.Unicode.Property

/-!
# Quoted text in messages

Names inside messages are written between quotes. A quote, a backslash and the common
controls have an escape of their own; any other character that would not be visible
as a character of its own is written by its code point.
-/

namespace JsonSchema.Text

/-- The characters that extend the one before them. -/
def extending : CharSet := Unicode.propertySet "graphemeextend"

/-- The written form of one character inside quotes. -/
def quotedChar (c : Char) : List Char :=
  match c with
  | '"' => ['\\', '"']
  | '\\' => ['\\', '\\']
  | '\n' => ['\\', 'n']
  | '\r' => ['\\', 'r']
  | '\t' => ['\\', 't']
  | '\x00' => ['\\', '0']
  | c =>
    if c.toNat < 0x7f ∧ 0x20 ≤ c.toNat then [c]
    else if extending.contains c || Unicode.unprintable.contains c then
      ['\\', 'u', '\x7b'] ++ Nat.toDigits 16 c.toNat ++ ['\x7d']
    else [c]

/-- A text between quotes. -/
def quoted (text : String) : String :=
  String.ofList ('"' :: (text.toList.flatMap quotedChar ++ ['"']))

end JsonSchema.Text
