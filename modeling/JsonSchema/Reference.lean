import JsonSchema.Url.Parser

/-!
# Identifiers and references

Schemas are named by identifiers, which may be URLs or any other text, and referred
to relative to the identifier of the schema around.

* `normalizeId`: the form of an identifier under which it is stored.
* `resolveUrl`: the identifier that a reference denotes relative to a base.
* `documentPart`, `fragmentPart`: the parts of an identifier before and behind its mark.
-/

namespace JsonSchema

namespace Reference

/-- The characters without one number sign at the end. -/
def stripMark (cs : List Char) : List Char :=
  if cs.getLast? = some '#' then cs.dropLast else cs

/-- The characters before the first number sign and those behind it. -/
def splitAtMark (cs : List Char) : List Char × List Char :=
  (cs.takeWhile (· ≠ '#'), (cs.dropWhile (· ≠ '#')).drop 1)

/-- The characters up to the last slash, which is included. -/
def upToLastSlash (cs : List Char) : List Char := (cs.reverse.dropWhile (· ≠ '/')).reverse

end Reference

/-- The document part of an identifier. -/
def documentPart (reference : String) : String :=
  String.ofList (Reference.splitAtMark reference.toList).1

/-- The fragment part of an identifier. -/
def fragmentPart (reference : String) : String :=
  String.ofList (Reference.splitAtMark reference.toList).2

/-- The stored form of an identifier: a URL in its written form, any other text as it
    is, both without a number sign at the end. -/
def normalizeId (raw : String) : String :=
  let stripped := String.ofList (Reference.stripMark raw.toList)
  match Url.parse? stripped with
  | some url => String.ofList (Reference.stripMark url.characters)
  | none => stripped

/-- The text of a reference relative to a base that is no URL: nothing stands for the
    base, a fragment belongs to it, a slash in front discards it, and anything else
    takes the place of what follows its last slash. -/
def joinText (base reference : String) : String :=
  let document := documentPart base
  match reference.toList with
  | [] => document
  | '#' :: _ => document ++ reference
  | '/' :: _ => reference
  | _ => String.ofList (Reference.upToLastSlash document.toList) ++ reference

/-- The identifier that a reference denotes relative to a base. -/
def resolveUrl (base reference : String) : String :=
  match Url.parse? reference with
  | some url => normalizeId url.text
  | none =>
    match (Url.parse? base).bind (·.join? reference) with
    | some url => normalizeId url.text
    | none => normalizeId (joinText base reference)

end JsonSchema
