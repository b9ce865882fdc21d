/-!
# Network addresses in text

* `Address.ipv4?`: four decimal numbers below 256 without superfluous zeros.
* `Address.ipv6?`: eight groups of up to four hexadecimal digits; one run of zero
  groups may be written `::`, and the last two groups as an IPv4 address.
* `Address.ipv6Text`: the written form, with the first of the longest runs of two or
  more zero groups left out.
-/

namespace JsonSchema.Address

/-- The value of a digit below the base. -/
def digit? (base : Nat) (c : Char) : Option Nat :=
  let value :=
    if '0' ≤ c ∧ c ≤ '9' then c.toNat - '0'.toNat
    else if 'a' ≤ c ∧ c ≤ 'f' then c.toNat - 'a'.toNat + 10
    else if 'A' ≤ c ∧ c ≤ 'F' then c.toNat - 'A'.toNat + 10
    else base
  if value < base then some value else none

/-- The number that digits of a base denote. -/
def ofDigits (base : Nat) (digits : List Char) : Nat :=
  digits.foldl (fun n c => n * base + (digit? base c).getD 0) 0

/-- The longest run of digits in front, of which there must be one to `most`. -/
def number? (base most : Nat) (cs : List Char) : Option (List Char × List Char) :=
  let digits := cs.takeWhile fun c => (digit? base c).isSome
  if digits.isEmpty ∨ most < digits.length then none else some (digits, cs.drop digits.length)

/-- A number below 256 without superfluous zeros. -/
def octet? (cs : List Char) : Option (Nat × List Char) :=
  match number? 10 3 cs with
  | some (digits, rest) =>
    let n := ofDigits 10 digits
    if 255 < n ∨ (1 < digits.length ∧ digits.head? = some '0') then none else some (n, rest)
  | none => none

/-- The rest behind an expected character. -/
def expect? (c : Char) : List Char → Option (List Char)
  | d :: rest => if d = c then some rest else none
  | [] => none

/-- An IPv4 address in front of a text. -/
def leadingIpv4? (cs : List Char) : Option (List Nat × List Char) := do
  let (a, cs) ← octet? cs
  let (b, cs) ← octet? (← expect? '.' cs)
  let (c, cs) ← octet? (← expect? '.' cs)
  let (d, cs) ← octet? (← expect? '.' cs)
  return ([a, b, c, d], cs)

/-- The four numbers of an IPv4 address. -/
def ipv4? (text : List Char) : Option (List Nat) :=
  match leadingIpv4? text with
  | some (address, []) => some address
  | _ => none

/-- Groups from the front of a text, at most `room` of them, and whether the last two
    were written as an IPv4 address. `first` says that no separator is due. -/
def leadingGroups (room : Nat) (first : Bool) (cs : List Char) : List Nat × Bool × List Char :=
  match room with
  | 0 => ([], false, cs)
  | room + 1 =>
    match if first then some cs else expect? ':' cs with
    | none => ([], false, cs)
    | some behind =>
      match if 1 ≤ room then leadingIpv4? behind else none with
      | some ([a, b, c, d], rest) => ([a * 256 + b, c * 256 + d], true, rest)
      | _ =>
        match number? 16 4 behind with
        | none => ([], false, cs)
        | some (digits, rest) =>
          let (groups, embedded, rest) := leadingGroups room false rest
          (ofDigits 16 digits :: groups, embedded, rest)

/-- The eight groups of an IPv6 address. -/
def ipv6? (text : List Char) : Option (List Nat) :=
  let (head, embedded, rest) := leadingGroups 8 true text
  if head.length = 8 then (if rest.isEmpty then some head else none)
  else if embedded then none
  else
    match rest with
    | ':' :: ':' :: rest =>
      let (tail, _, rest) := leadingGroups (7 - head.length) true rest
      if rest.isEmpty then
        some (head ++ List.replicate (8 - head.length - tail.length) 0 ++ tail)
      else none
    | _ => none

/-! ## Written form -/

/-- The length of the run of zero groups at the front. -/
def zeroRun (groups : List Nat) : Nat := (groups.takeWhile (· = 0)).length

/-- The first of the longest runs of zero groups: where it starts and its length. -/
def longestZeroRun (groups : List Nat) : Nat × Nat :=
  (List.range groups.length).foldl
    (fun best i =>
      let run := zeroRun (groups.drop i)
      if best.2 < run then (i, run) else best) (0, 0)

/-- Groups with colons between them. -/
def joinGroups (groups : List Nat) : List Char :=
  List.intercalate [':'] (groups.map (Nat.toDigits 16))

/-- The written form of eight groups. -/
def ipv6Text (groups : List Nat) : List Char :=
  let (start, length) := longestZeroRun groups
  if length < 2 then joinGroups groups
  else joinGroups (groups.take start) ++ [':', ':'] ++ joinGroups (groups.drop (start + length))

end JsonSchema.Address
