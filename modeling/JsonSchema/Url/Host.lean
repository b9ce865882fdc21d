import JsonSchema.Text.Split
import JsonSchema.Url.Basic
import JsonSchema.Url.DomainName

/-!
# Reading hosts

* `Host.parse?`: the host of a URL of the web: an address in brackets, a name, or a
  name whose last part is a number and which must then be an IPv4 address.
* `Host.parseOpaque?`: the host of any other URL, kept as it is written.
-/

namespace JsonSchema.Host

/-- The ASCII characters that no host name holds. -/
def isForbidden (c : Char) : Bool :=
  c.toNat ≤ 0x20 || c.toNat == 0x7F || "%#/:<>?@[\\]^|".toList.contains c

/-- The characters that an opaque host does not hold. -/
def isForbiddenOpaque (c : Char) : Bool :=
  c == '\x00' || " \t\n\r#/:<>?@[\\]^|".toList.contains c

/-- Whether all characters are digits of a base. -/
def areDigits (base : Nat) (cs : List Char) : Bool := cs.all fun c => (Address.digit? base c).isSome

/-- A number in decimal, octal or hexadecimal notation. -/
def number? (cs : List Char) : Option Nat :=
  let (base, digits) : Nat × List Char := match cs with
    | '0' :: 'x' :: rest => (16, rest)
    | '0' :: 'X' :: rest => (16, rest)
    | '0' :: rest@(_ :: _) => (8, rest)
    | _ => (10, cs)
  if cs.isEmpty then none
  else if areDigits base digits then some (Address.ofDigits base digits)
  else none

/-- The parts of a name without the empty part behind a final dot. -/
def labels (name : List Char) : List (List Char) :=
  let parts := Text.splitOn '.' name
  if 1 < parts.length ∧ parts.getLast? = some [] then parts.dropLast else parts

/-- Whether the last part of a name is a number. -/
def endsInNumber (name : List Char) : Bool :=
  match (labels name).getLast? with
  | some last => (!last.isEmpty && areDigits 10 last) || (number? last).isSome
  | none => false

/-- The IPv4 address of up to four numbers, of which the last fills what is left. -/
def ipv4OfName? (name : List Char) : Option Host := do
  let parts := labels name
  if 4 < parts.length then none
  let numbers ← parts.mapM number?
  let last ← numbers.getLast?
  let leading := numbers.dropLast
  if Nat.pow 256 (4 - leading.length) ≤ last ∨ leading.any (255 < ·) then none
  let rest := 4 - leading.length
  some (.ipv4 (leading ++ (List.range rest).map fun i => last / Nat.pow 256 (rest - 1 - i) % 256))

/-- The ASCII form of a host name. -/
def asciiName? (name : List Char) : Option (List Char) :=
  (DomainName.toAscii? name).filter fun ascii => !ascii.any isForbidden

/-- The bytes of a text with every `%XX` replaced by its byte. -/
def percentBytes : List Char → List Nat
  | [] => []
  | '%' :: h :: l :: rest =>
    match Percent.byte? h l with
    | some b => b :: percentBytes rest
    | none => Utf8.encodeChar '%' ++ percentBytes (h :: l :: rest)
  | c :: rest => Utf8.encodeChar c ++ percentBytes rest

/-- The address between brackets. -/
def bracketed? (cs : List Char) : Option Host :=
  if cs.getLast? = some ']' then (Address.ipv6? cs.dropLast).map .ipv6 else none

/-- The host of a URL of the web. -/
def parse? (cs : List Char) : Option Host :=
  match cs with
  | '[' :: rest => bracketed? rest
  | _ => do
    let name ← asciiName? (← Utf8.decode? (percentBytes cs))
    if name.isEmpty then none
    else if endsInNumber name then ipv4OfName? name
    else some (.name name)

/-- The characters that are always written in `%XX` form. -/
def isControl (c : Char) : Bool := c.toNat < 0x20 || 0x7E < c.toNat

/-- The host of any other URL, which may be empty. -/
def parseOpaque? (cs : List Char) : Option Host :=
  match cs with
  | '[' :: rest => bracketed? rest
  | _ => if cs.any isForbiddenOpaque then none else some (.name (Percent.encode isControl cs))

end JsonSchema.Host
