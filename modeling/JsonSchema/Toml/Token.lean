import JsonSchema.Json.Reader
import JsonSchema.Setting

/-!
# TOML tokens

What stands on the lines of a TOML document: blanks and comments, keys, texts, numbers
and times. Each reader gives what it read and the rest of the document.

* `Toml.lineEnd?`, `Toml.filler?`: what may stand between tokens.
* `Toml.key?`: a key, which may be a path of names.
* `Toml.text?`: a text in any of its four forms.
* `Toml.time?`: a date, a time or both.
* `Toml.number?`: an integer or a real number.
-/

namespace JsonSchema.Toml

/-! ## Blanks and comments -/

/-- The blanks inside a line. -/
def isBlank (c : Char) : Bool := c == ' ' || c == '\t'

/-- The characters of comments and texts on one line. -/
def isVisible (c : Char) : Bool := c == '\t' || (0x20 ≤ c.toNat && c.toNat != 0x7F)

/-- The text without leading blanks. -/
def skipBlanks (cs : List Char) : List Char := cs.dropWhile isBlank

/-- The rest behind a line break. -/
def lineBreak? : List Char → Option (List Char)
  | '\n' :: rest => some rest
  | '\r' :: '\n' :: rest => some rest
  | _ => none

/-- The rest behind the end of a line, where a comment may stand. -/
def lineEnd? (cs : List Char) : Option (List Char) :=
  let rest := match skipBlanks cs with
    | '#' :: rest => rest.dropWhile isVisible
    | rest => rest
  if rest.isEmpty then some [] else lineBreak? rest

/-- The rest behind blanks, line breaks and comments. -/
def filler? (inComment : Bool) : List Char → Option (List Char)
  | [] => some []
  | '\n' :: rest => filler? false rest
  | '\r' :: '\n' :: rest => filler? false rest
  | c :: rest =>
    if inComment then if isVisible c then filler? true rest else none
    else if isBlank c then filler? false rest
    else if c = '#' then filler? true rest
    else some (c :: rest)

/-! ## Texts -/

/-- A number of as many hexadecimal digits as said. -/
def hexNumber? : Nat → Nat → List Char → Option (Nat × List Char)
  | 0, n, rest => some (n, rest)
  | count + 1, n, c :: rest => do hexNumber? count (n * 16 + (← Json.hexDigit? c)) rest
  | _ + 1, _, [] => none

/-- The character with a code point. -/
def codePoint? (digits : Nat) (cs : List Char) : Option (Char × List Char) := do
  let (n, rest) ← hexNumber? digits 0 cs
  if n < 0xD800 ∨ (0xDFFF < n ∧ n < 0x110000) then some (Char.ofNat n, rest) else none

/-- The character of the escape that follows a backslash. -/
def escaped? : List Char → Option (Char × List Char)
  | 'b' :: rest => some ('\x08', rest)
  | 't' :: rest => some ('\t', rest)
  | 'n' :: rest => some ('\n', rest)
  | 'f' :: rest => some ('\x0c', rest)
  | 'r' :: rest => some ('\r', rest)
  | '"' :: rest => some ('"', rest)
  | '\\' :: rest => some ('\\', rest)
  | 'u' :: rest => codePoint? 4 rest
  | 'U' :: rest => codePoint? 8 rest
  | _ => none

/-- The characters up to a closing double quote. `fuel` bounds their number. -/
def basicBody? : Nat → List Char → List Char → Option (String × List Char)
  | fuel + 1, acc, c :: rest =>
    if c = '"' then some (String.ofList acc.reverse, rest)
    else if c = '\\' then
      match escaped? rest with
      | some (e, rest) => basicBody? fuel (e :: acc) rest
      | none => none
    else if isVisible c then basicBody? fuel (c :: acc) rest
    else none
  | _, _, _ => none

/-- The characters up to a closing single quote. -/
def literalBody? (cs : List Char) : Option (String × List Char) :=
  match cs.dropWhile fun c => isVisible c && c != '\'' with
  | '\'' :: rest => some (String.ofList (cs.takeWhile fun c => isVisible c && c != '\''), rest)
  | _ => none

/-- The rest behind the line breaks and blanks that a backslash at the end of a line
    leaves out; `none` if the line does not end there. -/
def continuation? (cs : List Char) : Option (List Char) :=
  (lineBreak? (skipBlanks cs)).map fun rest =>
    rest.dropWhile fun c => isBlank c || c == '\n' || c == '\r'

/-- The characters up to three closing quotes. Up to two more quotes directly before
    these belong to the text. `fuel` bounds their number. -/
def linesBody? (quote : Char) : Nat → List Char → List Char → Option (String × List Char)
  | fuel + 1, acc, cs =>
    let run := (cs.takeWhile (· == quote)).length
    if 3 ≤ run then
      let kept := min run 5 - 3
      some (String.ofList (List.replicate kept quote ++ acc).reverse, cs.drop (kept + 3))
    else if 0 < run then linesBody? quote fuel (List.replicate run quote ++ acc) (cs.drop run)
    else
      match lineBreak? cs, cs with
      | some rest, _ => linesBody? quote fuel ('\n' :: acc) rest
      | none, c :: rest =>
        if c = '\\' && quote = '"' then
          match continuation? rest, escaped? rest with
          | some rest, _ => linesBody? quote fuel acc rest
          | none, some (e, rest) => linesBody? quote fuel (e :: acc) rest
          | none, none => none
        else if isVisible c then linesBody? quote fuel (c :: acc) rest
        else none
      | none, [] => none
  | 0, _, _ => none

/-- A text on lines of its own. A line break right behind the quotes is left out. -/
def lines? (quote : Char) (cs : List Char) : Option (String × List Char) :=
  linesBody? quote (cs.length + 1) [] ((lineBreak? cs).getD cs)

/-- A text between quotes on one line. -/
def lineText? : List Char → Option (String × List Char)
  | '"' :: rest => basicBody? (rest.length + 1) [] rest
  | '\'' :: rest => literalBody? rest
  | _ => none

/-- A text in any of its forms. -/
def text? : List Char → Option (String × List Char)
  | '"' :: '"' :: '"' :: rest => lines? '"' rest
  | '\'' :: '\'' :: '\'' :: rest => lines? '\'' rest
  | cs => lineText? cs

/-! ## Keys -/

/-- The characters of names without quotes. -/
def isBare (c : Char) : Bool := c.isAlphanum || c == '_' || c == '-'

/-- One name of a key. -/
def name? (cs : List Char) : Option (String × List Char) :=
  match cs.takeWhile isBare with
  | [] => lineText? cs
  | bare => some (String.ofList bare, cs.dropWhile isBare)

/-- A key: names with points between them. `fuel` bounds their number. -/
def names? : Nat → List Char → Option (List String × List Char)
  | 0, _ => none
  | fuel + 1, cs => do
    let (name, rest) ← name? (skipBlanks cs)
    match skipBlanks rest with
    | '.' :: rest =>
      let (names, rest) ← names? fuel rest
      return (name :: names, rest)
    | rest => return ([name], rest)

/-- A key: names with points between them. -/
def key? (cs : List Char) : Option (List String × List Char) := names? (cs.length + 1) cs

/-! ## Times -/

/-- A number of exactly as many decimal digits as said, between bounds. -/
def fixed? (digits low high : Nat) (cs : List Char) : Option (Nat × List Char) :=
  let front := cs.take digits
  if front.length = digits ∧ front.all Char.isDigit then
    let n := Json.ofDigits (front.map fun c => c.toNat - '0'.toNat)
    if low ≤ n ∧ n ≤ high then some (n, cs.drop digits) else none
  else none

/-- Whether a year has a day more than usual. -/
def isLeap (year : Nat) : Bool := year % 4 = 0 && (year % 100 ≠ 0 || year % 400 = 0)

/-- The days of a month. -/
def daysOf (year month : Nat) : Nat :=
  if month = 2 then if isLeap year then 29 else 28
  else if [4, 6, 9, 11].contains month then 30
  else 31

/-- A number in at least as many digits as said. -/
def padded (digits n : Nat) : String :=
  let text := Nat.toDigits 10 n
  String.ofList (List.replicate (digits - text.length) '0' ++ text)

/-- A date, in its usual form. -/
def date? (cs : List Char) : Option (String × List Char) := do
  let (year, cs) ← fixed? 4 0 9999 cs
  let (month, cs) ← fixed? 2 1 12 (← Json.expect? ['-'] cs)
  let (day, cs) ← fixed? 2 1 (daysOf year month) (← Json.expect? ['-'] cs)
  return (padded 4 year ++ "-" ++ padded 2 month ++ "-" ++ padded 2 day, cs)

/-- The fraction of a second, to the nanosecond, without zeros at its end. -/
def secondFraction? : List Char → Option (String × List Char)
  | '.' :: cs =>
    let digits := cs.takeWhile Char.isDigit
    if digits.isEmpty then none
    else
      let kept := ((digits.take 9).reverse.dropWhile (· == '0')).reverse
      some (if kept.isEmpty then "" else String.ofList ('.' :: kept), cs.dropWhile Char.isDigit)
  | cs => some ("", cs)

/-- A time of day, in its usual form. -/
def clock? (cs : List Char) : Option (String × List Char) := do
  let (hour, cs) ← fixed? 2 0 23 cs
  let (minute, cs) ← fixed? 2 0 59 (← Json.expect? [':'] cs)
  let (second, cs) ← fixed? 2 0 60 (← Json.expect? [':'] cs)
  let (fraction, cs) ← secondFraction? cs
  return (padded 2 hour ++ ":" ++ padded 2 minute ++ ":" ++ padded 2 second ++ fraction, cs)

/-- The distance of a time from the common one, if it is said. -/
def offset? : List Char → Option (String × List Char)
  | 'Z' :: rest => some ("Z", rest)
  | 'z' :: rest => some ("Z", rest)
  | c :: rest =>
    if c = '+' ∨ c = '-' then do
      let (hours, rest) ← fixed? 2 0 23 rest
      let (minutes, rest) ← fixed? 2 0 59 (← Json.expect? [':'] rest)
      let sign := if c = '-' ∧ 0 < hours * 60 + minutes then "-" else "+"
      return (sign ++ padded 2 hours ++ ":" ++ padded 2 minutes, rest)
    else some ("", c :: rest)
  | [] => some ("", [])

/-- A date, a time or both, in the usual form. -/
def time? (cs : List Char) : Option (String × List Char) :=
  match date? cs with
  | none => clock? cs
  | some (date, rest) =>
    let clock := match rest with
      | mark :: rest => if mark = 'T' ∨ mark = 't' ∨ mark = ' ' then clock? rest else none
      | [] => none
    match clock with
    | none => some (date, rest)
    | some (clock, rest) =>
      (offset? rest).map fun (offset, rest) => (date ++ "T" ++ clock ++ offset, rest)

/-! ## Numbers -/

/-- The digits of a number in some base. A low line may stand between two digits. -/
def digits? (digit? : Char → Option Nat) : List Char → Option (List Nat × List Char)
  | [] => none
  | c :: '_' :: rest => do
    let d ← digit? c
    let (ds, rest) ← digits? digit? rest
    return (d :: ds, rest)
  | c :: rest => do
    let d ← digit? c
    match digits? digit? rest with
    | some (ds, rest) => return (d :: ds, rest)
    | none => return ([d], rest)

/-- The value of a digit in a base of at most sixteen. -/
def digitIn? (base : Nat) (c : Char) : Option Nat :=
  (Json.hexDigit? c).filter (· < base)

/-- An integer that fits 64 bits with a sign. -/
def integer? (negative : Bool) (base : Nat) (digits : List Nat) : Option Setting :=
  let magnitude := digits.foldl (fun n d => n * base + d) 0
  let n : Int := if negative then -magnitude else magnitude
  if -(Nat.pow 2 63) ≤ n ∧ n < Nat.pow 2 63 then some (.integer n) else none

/-- A fraction, if a point follows. -/
def fraction? : List Char → Option (Option (List Nat) × List Char)
  | '.' :: rest => (digits? (digitIn? 10) rest).map fun (ds, rest) => (some ds, rest)
  | cs => some (none, cs)

/-- An exponent, if a mark follows. -/
def exponent? : List Char → Option (Option Int × List Char)
  | c :: rest =>
    if c = 'e' ∨ c = 'E' then
      let (negative, rest) := match rest with
        | '-' :: rest => (true, rest)
        | '+' :: rest => (false, rest)
        | rest => (false, rest)
      (digits? (digitIn? 10) rest).map fun (ds, rest) =>
        let n : Int := Json.ofDigits ds
        (some (if negative then -n else n), rest)
    else some (none, c :: rest)
  | [] => some (none, [])

/-- A decimal number behind its sign. No zero stands in front of another digit, and a
    number that is too great is refused. -/
def decimal? (negative : Bool) (cs : List Char) : Option (Setting × List Char) := do
  let (whole, cs) ← digits? (digitIn? 10) cs
  if 1 < whole.length ∧ whole.head? = some 0 then none
  else
    let (fraction, cs) ← fraction? cs
    let (exponent, cs) ← exponent? cs
    match fraction, exponent with
    | none, none => return (← integer? negative 10 whole, cs)
    | _, _ =>
      let places := fraction.getD []
      match Real.ofDecimal negative (Json.ofDigits (whole ++ places))
          (exponent.getD 0 - places.length) with
      | .infinite false => none
      | value => return (.real value, cs)

/-- A real number that has a name. -/
def namedReal? (negative : Bool) : List Char → Option (Setting × List Char)
  | 'i' :: 'n' :: 'f' :: rest => some (.real (.infinite negative), rest)
  | 'n' :: 'a' :: 'n' :: rest => some (.real .undefined, rest)
  | _ => none

/-- An integer or a real number. -/
def number? : List Char → Option (Setting × List Char)
  | '0' :: 'x' :: rest => based? 16 rest
  | '0' :: 'o' :: rest => based? 8 rest
  | '0' :: 'b' :: rest => based? 2 rest
  | '+' :: rest => namedReal? false rest <|> decimal? false rest
  | '-' :: rest => namedReal? true rest <|> decimal? true rest
  | rest => namedReal? false rest <|> decimal? false rest
where
  /-- An integer in a base other than ten. -/
  based? (base : Nat) (cs : List Char) : Option (Setting × List Char) := do
    let (digits, rest) ← digits? (digitIn? base) cs
    return (← integer? false base digits, rest)

end JsonSchema.Toml
