/-!
# Sets of characters

A set of code points is a list of closed ranges, ascending and apart. Surrogates are
in no set, since no text holds them.

* `CharSet.ofRanges`: the set of any ranges.
* `CharSet.union`, `inter`, `complement`, `difference`: the set operations.
* `CharSet.parse`: a set from the text of a table.
-/

namespace JsonSchema

/-- Closed ranges of code points, ascending and apart. -/
structure CharSet where
  ranges : List (Nat × Nat)
deriving DecidableEq, Repr

namespace CharSet

/-- Whether a code point lies in a range. -/
def covers (n : Nat) (range : Nat × Nat) : Bool := range.1 ≤ n && n ≤ range.2

/-- Whether a code point is in the set. -/
def containsCode (s : CharSet) (n : Nat) : Bool := s.ranges.any (covers n)

/-- Whether a character is in the set. -/
def contains (s : CharSet) (c : Char) : Bool := s.containsCode c.toNat

/-- Joins ranges that overlap or touch, in a list ascending by start. -/
def join (current : Nat × Nat) : List (Nat × Nat) → List (Nat × Nat)
  | [] => [current]
  | next :: rest =>
    if next.1 ≤ current.2 + 1 then join (current.1, max current.2 next.2) rest
    else current :: join next rest

/-- The set of the given ranges, in any order; an empty range has its ends reversed. -/
def ofRanges (ranges : List (Nat × Nat)) : CharSet :=
  match (ranges.filter fun r => r.1 ≤ r.2).mergeSort (fun a b => a.1 ≤ b.1) with
  | [] => ⟨[]⟩
  | first :: rest => ⟨join first rest⟩

/-- The empty set. -/
def empty : CharSet := ⟨[]⟩

/-- The set of one character. -/
def single (c : Char) : CharSet := ⟨[(c.toNat, c.toNat)]⟩

/-- The characters from one to another. -/
def range (first last : Char) : CharSet := ofRanges [(first.toNat, last.toNat)]

/-- All characters. -/
def all : CharSet := ⟨[(0, 0xD7FF), (0xE000, 0x10FFFF)]⟩

/-- The gaps between ranges, from `start` on. -/
def gaps (start : Nat) : List (Nat × Nat) → List (Nat × Nat)
  | [] => [(start, 0x10FFFF)]
  | (first, last) :: rest =>
    if start < first then (start, first - 1) :: gaps (last + 1) rest else gaps (last + 1) rest

/-- The union of two sets. -/
def union (a b : CharSet) : CharSet := ofRanges (a.ranges ++ b.ranges)

/-- The characters that are not in the set. -/
def complement (s : CharSet) : CharSet :=
  ofRanges (gaps 0 (s.union ⟨[(0xD800, 0xDFFF)]⟩).ranges)

/-- The common characters of two sets. -/
def inter (a b : CharSet) : CharSet := (a.complement.union b.complement).complement

/-- The characters of the first set that are not in the second. -/
def difference (a b : CharSet) : CharSet := a.inter b.complement

/-- The characters in exactly one of two sets. -/
def symmetricDifference (a b : CharSet) : CharSet := (a.difference b).union (b.difference a)

/-- Whether every character of the set is ASCII. -/
def isAscii (s : CharSet) : Bool := s.ranges.all fun r => r.2 < 0x80

/-! ## Tables -/

/-- The value of a lower-case hexadecimal digit. -/
def hexValue (c : Char) : Nat :=
  if c.toNat ≤ '9'.toNat then c.toNat - '0'.toNat else c.toNat - 'a'.toNat + 10

/-- Reads ranges written as `start-end` or as a single code point, in hexadecimal,
    with blanks between them. `first` holds the start of a range whose end is being
    read. -/
def parseRanges (first : Option Nat) (current : Option Nat) : List Char → List (Nat × Nat)
  | [] =>
    match current with
    | some n => [(first.getD n, n)]
    | none => []
  | '-' :: rest => parseRanges current none rest
  | c :: rest =>
    if c == ' ' || c == '\n' then
      match current with
      | some n => (first.getD n, n) :: parseRanges none none rest
      | none => parseRanges first none rest
    else parseRanges first (some (current.getD 0 * 16 + hexValue c)) rest

/-- Reads numbers in hexadecimal with blanks between them. -/
def parseNumbers (current : Option Nat) : List Char → List Nat
  | [] => current.toList
  | c :: rest =>
    if c == ' ' || c == '\n' then current.toList ++ parseNumbers none rest
    else parseNumbers (some (current.getD 0 * 16 + hexValue c)) rest

/-- The numbers of a table. -/
def numbers (table : String) : List Nat := parseNumbers none table.toList

/-- The set that a table describes. -/
def parse (table : String) : CharSet := ⟨parseRanges none none table.toList⟩

end CharSet

end JsonSchema
