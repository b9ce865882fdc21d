/-!
# UTF-8 and percent encoding

* `Utf8.decode?`: the characters of a byte sequence, if it is valid UTF-8.
* `Percent.encode`: the characters of a set as their bytes in `%XX` form.
* `Percent.decode?`: every `%XX` replaced by its byte; `none` when a run of them is
  not valid UTF-8. Any other percent sign stands for itself.
-/

namespace JsonSchema

namespace Utf8

/-- Whether a byte continues a character. -/
def isContinuation (b : Nat) : Bool := 0x80 ≤ b && b < 0xC0

/-- The characters of valid UTF-8: no overlong forms, no surrogates, nothing beyond
    the last code point. -/
def decode? : List Nat → Option (List Char)
  | [] => some []
  | a :: rest =>
    if a < 0x80 then (decode? rest).map (Char.ofNat a :: ·)
    else
      match rest with
      | b :: rest =>
        if 0xC2 ≤ a ∧ a < 0xE0 ∧ isContinuation b then
          (decode? rest).map (Char.ofNat ((a - 0xC0) * 64 + (b - 0x80)) :: ·)
        else
          match rest with
          | c :: rest =>
            let three := (a - 0xE0) * 4096 + (b - 0x80) * 64 + (c - 0x80)
            if 0xE0 ≤ a ∧ a < 0xF0 ∧ isContinuation b ∧ isContinuation c ∧ 0x800 ≤ three ∧
                ¬(0xD800 ≤ three ∧ three ≤ 0xDFFF) then
              (decode? rest).map (Char.ofNat three :: ·)
            else
              match rest with
              | d :: rest =>
                let four := (a - 0xF0) * 262144 + (b - 0x80) * 4096 + (c - 0x80) * 64 + (d - 0x80)
                if 0xF0 ≤ a ∧ isContinuation b ∧ isContinuation c ∧ isContinuation d ∧
                    0x10000 ≤ four ∧ four < 0x110000 then
                  (decode? rest).map (Char.ofNat four :: ·)
                else none
              | [] => none
          | [] => none
      | [] => none

/-- The bytes of a character. -/
def encodeChar (c : Char) : List Nat := (String.utf8EncodeChar c).map UInt8.toNat

/-- The bytes of a text. -/
def encode (cs : List Char) : List Nat := cs.flatMap encodeChar

end Utf8

namespace Percent

/-- An upper-case hexadecimal digit. -/
def hexDigit (n : Nat) : Char := (Nat.digitChar n).toUpper

/-- A byte in `%XX` form. -/
def encodeByte (b : Nat) : List Char := ['%', hexDigit (b / 16), hexDigit (b % 16)]

/-- A text with the characters of a set in `%XX` form, byte by byte. -/
def encode (mustEncode : Char → Bool) (cs : List Char) : List Char :=
  cs.flatMap fun c => if mustEncode c then (Utf8.encodeChar c).flatMap encodeByte else [c]

/-- The value of a hexadecimal digit. -/
def hexValue? (c : Char) : Option Nat :=
  if '0' ≤ c ∧ c ≤ '9' then some (c.toNat - '0'.toNat)
  else if 'a' ≤ c ∧ c ≤ 'f' then some (c.toNat - 'a'.toNat + 10)
  else if 'A' ≤ c ∧ c ≤ 'F' then some (c.toNat - 'A'.toNat + 10)
  else none

/-- The byte that two hexadecimal digits denote. -/
def byte? (high low : Char) : Option Nat :=
  match hexValue? high, hexValue? low with
  | some h, some l => some (h * 16 + l)
  | _, _ => none

/-- Decodes a text, where `run` holds the bytes of the triplets just read, latest
    first. A run ends before the next character that is no triplet. -/
def decodeFrom (run : List Nat) : List Char → Option (List Char)
  | [] => Utf8.decode? run.reverse
  | '%' :: h :: l :: rest =>
    match byte? h l with
    | some b => decodeFrom (b :: run) rest
    | none => do
      let before ← Utf8.decode? run.reverse
      let after ← decodeFrom [] (h :: l :: rest)
      return before ++ '%' :: after
  | c :: rest => do
    let before ← Utf8.decode? run.reverse
    let after ← decodeFrom [] rest
    return before ++ c :: after

/-- Decodes a text. -/
def decode? (cs : List Char) : Option (List Char) := decodeFrom [] cs

end Percent

end JsonSchema
