import JsonSchema.Json.Value
import JsonSchema.Text.Split
import JsonSchema.Text.Utf8

/-!
# JSON pointers

A pointer is a text of segments with a slash before each. Inside a segment `~0` stands
for a tilde and `~1` for a slash. A pointer that is read as the fragment of a reference
may also be percent-encoded.

* `Pointer.child`: a pointer with one more segment.
* `Pointer.segments?`: the segments of a pointer.
* `Value.step?`: the part of a value that a segment names.
-/

namespace JsonSchema

namespace Pointer

/-- A segment with its tildes and slashes escaped. -/
def escape (segment : List Char) : List Char :=
  segment.flatMap fun c =>
    if c = '~' then ['~', '0'] else if c = '/' then ['~', '1'] else [c]

/-- A segment without its escapes; a tilde that starts none stands for itself. -/
def unescape : List Char → List Char
  | '~' :: '1' :: rest => '/' :: unescape rest
  | '~' :: '0' :: rest => '~' :: unescape rest
  | c :: rest => c :: unescape rest
  | [] => []

/-- A pointer with one more segment. -/
def child (pointer segment : String) : String :=
  pointer ++ "/" ++ String.ofList (escape segment.toList)

/-- The segments of a pointer, which are what stands behind its slashes; `none` if
    percent-decoding does not give a text. -/
def segments? (pointer : String) : Option (List String) :=
  (Percent.decode? pointer.toList).map fun decoded =>
    ((Text.splitOn '/' decoded).drop 1).map fun part => String.ofList (unescape part)

/-- The pointer with these segments. -/
def ofSegments (segments : List String) : String := segments.foldl child ""

/-- The index that a segment denotes: decimal digits of a number below `2^64`, perhaps
    with a plus sign in front. -/
def index? (segment : String) : Option Nat :=
  let digits := match segment.toList with
    | '+' :: rest => rest
    | cs => cs
  if digits.isEmpty || !digits.all Char.isDigit then none
  else
    let n := digits.foldl (fun n c => n * 10 + (c.toNat - '0'.toNat)) 0
    if n < Nat.pow 2 64 then some n else none

end Pointer

/-- The member or item that a segment names. -/
def Value.step? (value : Value) (segment : String) : Option Value :=
  match value with
  | .object members => Members.get? members segment
  | .array items => (Pointer.index? segment).bind fun i => items[i]?
  | _ => none

end JsonSchema
