/-!
# Punycode

Texts in ASCII: the ASCII characters in order, and behind a dash where the others go,
from the least code point to the greatest. The distances between places are numbers of
variable length whose digits adapt to the distances so far.

* `Punycode.encode`: a text in ASCII.
* `Punycode.decode?`: the text that was encoded.
-/

namespace JsonSchema.Punycode

/-! ## Digits -/

/-- The character of a digit: letters, then decimal digits. -/
def digitChar (d : Nat) : Char :=
  if d < 26 then Char.ofNat ('a'.toNat + d) else Char.ofNat ('0'.toNat + (d - 26))

/-- The digit that a character stands for, in either case. -/
def digit? (c : Char) : Option Nat :=
  if 'a' ≤ c ∧ c ≤ 'z' then some (c.toNat - 'a'.toNat)
  else if 'A' ≤ c ∧ c ≤ 'Z' then some (c.toNat - 'A'.toNat)
  else if '0' ≤ c ∧ c ≤ '9' then some (c.toNat - '0'.toNat + 26)
  else none

/-- The least digit that does not end a number, for the digits of a place. -/
def threshold (bias place : Nat) : Nat := max 1 (min 26 (place - bias))

theorem threshold_pos (bias place : Nat) : 1 ≤ threshold bias place := Nat.le_max_left _ _

theorem threshold_le (bias place : Nat) : threshold bias place ≤ 26 := by
  unfold threshold
  omega

/-- The places that a distance takes more than one. -/
def extraPlaces (delta : Nat) : Nat × Nat :=
  if 455 < delta then
    let (places, rest) := extraPlaces (delta / 35)
    (places + 36, rest)
  else (0, delta)
termination_by delta

/-- The bias behind a distance: `count` is how many characters there are then. -/
def adapt (delta count : Nat) (first : Bool) : Nat :=
  let delta := if first then delta / 700 else delta / 2
  let (places, rest) := extraPlaces (delta + delta / count)
  places + 36 * rest / (rest + 38)

/-! ## Encoding -/

/-- A number in digits, the least place first. -/
def encodeNumber (bias place n : Nat) : List Char :=
  let t := threshold bias place
  if n < t then [digitChar n]
  else digitChar (t + (n - t) % (36 - t)) :: encodeNumber bias (place + 36) ((n - t) / (36 - t))
termination_by n
decreasing_by
  have := threshold_pos bias place
  have := Nat.div_le_self (n - threshold bias place) (36 - threshold bias place)
  omega

/-- How far an encoding is. -/
structure Encoder where
  /-- The digits so far. -/
  written : List Char := []
  /-- The distance from the last place. -/
  delta : Nat := 0
  bias : Nat := 72
  /-- How many characters are placed. -/
  count : Nat

namespace Encoder

/-- Passes over one character, or places it if it is the one with the code point. The
    first one is placed when there are `plain` characters. -/
def step (plain point : Nat) (e : Encoder) (c : Char) : Encoder :=
  if c.toNat < point then { e with delta := e.delta + 1 }
  else if c.toNat = point then
    { written := e.written ++ encodeNumber e.bias 36 e.delta
      delta := 0
      bias := adapt e.delta (e.count + 1) (e.count = plain)
      count := e.count + 1 }
  else e

end Encoder

/-- The ASCII characters of a text. -/
def basic (cs : List Char) : List Char := cs.filter fun c => c.toNat < 0x80

/-- The code points beyond ASCII in a text, ascending and each once. -/
def points (cs : List Char) : List Nat :=
  (((cs.filter fun c => 0x80 ≤ c.toNat).map Char.toNat).mergeSort).eraseDups

/-- A text in ASCII. -/
def encode (cs : List Char) : List Char :=
  let plain := basic cs
  let (encoder, _) := (points cs).foldl
    (fun (e, next) point =>
      let e := { e with delta := e.delta + (point - next) * (e.count + 1) }
      let e := cs.foldl (Encoder.step plain.length point) e
      ({ e with delta := e.delta + 1 }, point + 1))
    (({ count := plain.length } : Encoder), 0x80)
  plain ++ (if plain.isEmpty then [] else ['-']) ++ encoder.written

/-! ## Decoding -/

/-- Reads a number: adds it to `n`, the weight of the next digit being `weight`. -/
def decodeNumber? (bias place weight n : Nat) : List Char → Option (Nat × List Char)
  | [] => none
  | c :: rest =>
    match digit? c with
    | none => none
    | some d =>
      let t := threshold bias place
      if d < t then some (n + d * weight, rest)
      else decodeNumber? bias (place + 36) (weight * (36 - t)) (n + d * weight) rest

/-- Places the characters that numbers describe. `fuel` bounds how many there are. -/
def decodeFrom? : Nat → (bias point place : Nat) → List Char → List Char → Option (List Char)
  | _, _, _, _, placed, [] => some placed
  | 0, _, _, _, _, _ :: _ => none
  | fuel + 1, bias, point, place, placed, c :: rest => do
    let (n, rest) ← decodeNumber? bias 36 1 place (c :: rest)
    let count := placed.length + 1
    let point := point + n / count
    if point.isValidChar then
      decodeFrom? fuel (adapt (n - place) count (place = 0)) point
        (n % count + 1) (placed.insertIdx (n % count) (Char.ofNat point)) rest
    else none

/-- The text that was encoded. -/
def decode? (cs : List Char) : Option (List Char) :=
  let behind := cs.reverse.takeWhile (· ≠ '-')
  let plain := (cs.reverse.dropWhile (· ≠ '-')).drop 1
  if plain.all (·.toNat < 0x80) then
    decodeFrom? cs.length 72 0x80 0 plain.reverse behind.reverse
  else none

end JsonSchema.Punycode
