import JsonSchema.Json.Value

/-!
# Reading JSON text

A recursive-descent reader over the characters of a text. Arrays and objects nest at
most 127 deep, control characters must be escaped, escapes of surrogates come in
pairs, and of two members with one name the later counts.

* `Json.parse?`: the value a text denotes, if it is well formed.
-/

namespace JsonSchema.Json

/-- Nesting that a text may not reach. -/
def depthLimit : Nat := 128

/-- The blanks between tokens. -/
def isBlank (c : Char) : Bool := c == ' ' || c == '\n' || c == '\t' || c == '\r'

/-- The text without leading blanks. -/
def skipBlanks (cs : List Char) : List Char := cs.dropWhile isBlank

/-- The rest behind an expected text. -/
def expect? : List Char → List Char → Option (List Char)
  | [], rest => some rest
  | e :: es, c :: cs => if e = c then expect? es cs else none
  | _ :: _, [] => none

/-- The value of a hexadecimal digit. -/
def hexDigit? (c : Char) : Option Nat :=
  if '0' ≤ c ∧ c ≤ '9' then some (c.toNat - '0'.toNat)
  else if 'a' ≤ c ∧ c ≤ 'f' then some (c.toNat - 'a'.toNat + 10)
  else if 'A' ≤ c ∧ c ≤ 'F' then some (c.toNat - 'A'.toNat + 10)
  else none

/-- A number of four hexadecimal digits. -/
def hexQuad? : List Char → Option (Nat × List Char)
  | a :: b :: c :: d :: rest => do
    let a ← hexDigit? a
    let b ← hexDigit? b
    let c ← hexDigit? c
    let d ← hexDigit? d
    return (((a * 16 + b) * 16 + c) * 16 + d, rest)
  | _ => none

/-- The character of the escape that follows a backslash. -/
def escaped? : List Char → Option (Char × List Char)
  | '"' :: rest => some ('"', rest)
  | '\\' :: rest => some ('\\', rest)
  | '/' :: rest => some ('/', rest)
  | 'b' :: rest => some ('\x08', rest)
  | 'f' :: rest => some ('\x0c', rest)
  | 'n' :: rest => some ('\n', rest)
  | 'r' :: rest => some ('\r', rest)
  | 't' :: rest => some ('\t', rest)
  | 'u' :: rest => do
    let (high, rest) ← hexQuad? rest
    if 0xDC00 ≤ high ∧ high ≤ 0xDFFF then none
    else if 0xD800 ≤ high ∧ high ≤ 0xDBFF then
      let rest ← expect? ['\\', 'u'] rest
      let (low, rest) ← hexQuad? rest
      if 0xDC00 ≤ low ∧ low ≤ 0xDFFF then
        some (Char.ofNat (0x10000 + (high - 0xD800) * 0x400 + (low - 0xDC00)), rest)
      else none
    else some (Char.ofNat high, rest)
  | _ => none

/-- The characters up to the closing quote, and the rest behind it. `fuel` bounds the
    number of characters. -/
def stringBody? (fuel : Nat) (acc : List Char) (cs : List Char) : Option (String × List Char) :=
  match fuel, cs with
  | fuel + 1, c :: rest =>
    if c = '"' then some (String.ofList acc.reverse, rest)
    else if c = '\\' then
      match escaped? rest with
      | some (e, rest) => stringBody? fuel (e :: acc) rest
      | none => none
    else if c.toNat < 0x20 then none
    else stringBody? fuel (c :: acc) rest
  | _, _ => none

/-- The leading decimal digits, as numbers, and the rest. -/
def digits (cs : List Char) : List Nat × List Char :=
  ((cs.takeWhile Char.isDigit).map fun c => c.toNat - '0'.toNat, cs.dropWhile Char.isDigit)

/-- The natural number that digits denote. -/
def ofDigits (ds : List Nat) : Nat := ds.foldl (fun n d => n * 10 + d) 0

/-- A fraction, if a point follows; there must be a digit behind the point. -/
def fraction? (cs : List Char) : Option (Option (List Nat) × List Char) :=
  match cs with
  | '.' :: rest =>
    match digits rest with
    | ([], _) => none
    | (ds, rest) => some (some ds, rest)
  | _ => some (none, cs)

/-- An exponent, if a mark follows; there must be a digit behind mark and sign. -/
def exponent? (cs : List Char) : Option (Option Int × List Char) :=
  let signed : List Char → Bool × List Char
    | '-' :: rest => (true, rest)
    | '+' :: rest => (false, rest)
    | rest => (false, rest)
  let read (rest : List Char) : Option (Option Int × List Char) :=
    let (negative, rest) := signed rest
    match digits rest with
    | ([], _) => none
    | (ds, rest) => some (some (if negative then -(ofDigits ds : Int) else ofDigits ds), rest)
  match cs with
  | 'e' :: rest => read rest
  | 'E' :: rest => read rest
  | _ => some (none, cs)

/-- A number: sign, digits without a superfluous zero, fraction, exponent. -/
def number? (cs : List Char) : Option (Number × List Char) := do
  let (negative, cs) := match cs with
    | '-' :: rest => (true, rest)
    | _ => (false, cs)
  let (whole, cs) := digits cs
  match whole with
  | [] => none
  | 0 :: _ :: _ => none
  | _ =>
    let (fraction, cs) ← fraction? cs
    let (exponent, cs) ← exponent? cs
    let n ← Number.ofLiteral? negative whole fraction exponent
    return (n, cs)

mutual

/-- A value without blanks in front. `fuel` bounds the number of tokens, `depth` the
    nesting still allowed. -/
def value? (fuel depth : Nat) (cs : List Char) : Option (Value × List Char) :=
  match fuel with
  | 0 => none
  | fuel + 1 =>
    match cs with
    | 'n' :: rest => (expect? ['u', 'l', 'l'] rest).map fun rest => (.null, rest)
    | 't' :: rest => (expect? ['r', 'u', 'e'] rest).map fun rest => (.bool true, rest)
    | 'f' :: rest => (expect? ['a', 'l', 's', 'e'] rest).map fun rest => (.bool false, rest)
    | '"' :: rest => (stringBody? (rest.length + 1) [] rest).map fun (s, rest) => (.string s, rest)
    | '[' :: rest =>
      if depth ≤ 1 then none else
        match skipBlanks rest with
        | ']' :: rest => some (.array [], rest)
        | rest => items? fuel (depth - 1) [] rest
    | '\x7b' :: rest =>
      if depth ≤ 1 then none else
        match skipBlanks rest with
        | '\x7d' :: rest => some (.object [], rest)
        | rest => members? fuel (depth - 1) [] rest
    | cs => (number? cs).map fun (n, rest) => (.number n, rest)

/-- The remaining items of an array, of which at least one must follow. -/
def items? (fuel depth : Nat) (acc : List Value) (cs : List Char) :
    Option (Value × List Char) :=
  match fuel with
  | 0 => none
  | fuel + 1 =>
    match value? fuel depth cs with
    | none => none
    | some (item, rest) =>
      match skipBlanks rest with
      | ',' :: rest => items? fuel depth (item :: acc) (skipBlanks rest)
      | ']' :: rest => some (.array (item :: acc).reverse, rest)
      | _ => none

/-- The remaining members of an object, of which at least one must follow. -/
def members? (fuel depth : Nat) (acc : Members) (cs : List Char) :
    Option (Value × List Char) :=
  match fuel with
  | 0 => none
  | fuel + 1 =>
    match cs with
    | '"' :: rest =>
      match stringBody? (rest.length + 1) [] rest with
      | none => none
      | some (name, rest) =>
        match skipBlanks rest with
        | ':' :: rest =>
          match value? fuel depth (skipBlanks rest) with
          | none => none
          | some (value, rest) =>
            match skipBlanks rest with
            | ',' :: rest => members? fuel depth ((name, value) :: acc) (skipBlanks rest)
            | '\x7d' :: rest => some (.ofMembers ((name, value) :: acc).reverse, rest)
            | _ => none
        | _ => none
    | _ => none

end

/-- The value that a whole text denotes. Every token takes a character, so the length
    of the text is fuel enough. -/
def parse? (text : String) : Option Value :=
  let cs := skipBlanks text.toList
  match value? (2 * cs.length + 2) depthLimit cs with
  | some (value, rest) => if (skipBlanks rest).isEmpty then some value else none
  | none => none

end JsonSchema.Json
