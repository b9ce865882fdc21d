import JsonSchema.Keyword

/-!
# The keywords of draft-07

The built-in vocabularies, in the order in which they are added. The core vocabulary is
protected: none of its keywords can be redefined or removed.
-/

namespace JsonSchema

/-- A named bundle of keywords that is added and removed as a unit. -/
structure Vocabulary where
  name : String
  keywords : List Keyword
  /-- Whether its keywords can neither be redefined nor removed. -/
  isProtected : Bool := false

namespace Draft07

/-- Identifiers, references and definitions. -/
def core : Vocabulary where
  name := "core"
  isProtected := true
  keywords :=
    [.informative "$id", .informative "$schema", .informative "$ref", .informative "$comment",
     .informative "$async", .informative "definitions" .map]

/-- Assertions about a value itself. -/
def validation : Vocabulary where
  name := "validation"
  keywords :=
    [.asserting "type" .kinds, .asserting "enum" .among, .asserting "const" .equal,
     .asserting "minimum" (.bound .minimum) (some [.number]),
     .asserting "maximum" (.bound .maximum) (some [.number]),
     .asserting "exclusiveMinimum" (.bound .exclusiveMinimum) (some [.number]),
     .asserting "exclusiveMaximum" (.bound .exclusiveMaximum) (some [.number]),
     .asserting "multipleOf" .multiple (some [.number]),
     .asserting "minLength" (.least .characters) (some [.string]),
     .asserting "maxLength" (.most .characters) (some [.string]),
     .asserting "pattern" .pattern (some [.string]),
     .asserting "minItems" (.least .items) (some [.array]),
     .asserting "maxItems" (.most .items) (some [.array]),
     .asserting "uniqueItems" .unique (some [.array]),
     .asserting "required" .required (some [.object]),
     .asserting "minProperties" (.least .properties) (some [.object]),
     .asserting "maxProperties" (.most .properties) (some [.object])]

/-- Keywords that apply subschemas to a value or its parts. -/
def applicator : Vocabulary where
  name := "applicator"
  keywords :=
    [.applying "properties" .properties .map (some [.object]),
     .applying "patternProperties" .patternProperties .map (some [.object]),
     { Keyword.applying "additionalProperties" .additionalProperties .schema (some [.object]) with
       after := ["properties", "patternProperties"] },
     .applying "propertyNames" .propertyNames .schema (some [.object]),
     .applying "dependencies" .dependencies .map (some [.object]),
     .applying "items" .items .schemaOrArray (some [.array]),
     { Keyword.applying "additionalItems" .additionalItems .schema (some [.array]) with
       after := ["items"] },
     .applying "contains" .contains .schema (some [.array]),
     .applying "allOf" .allOf .array, .applying "anyOf" .anyOf .array,
     .applying "oneOf" .oneOf .array, .applying "not" .not .schema,
     .applying "if" .conditional .schema, .informative "then" .schema,
     .informative "else" .schema]

/-- The named formats of strings. -/
def format : Vocabulary where
  name := "format"
  keywords :=
    [{ name := "format", types := some [.string], behavior := .builtin .format }]

/-- Keywords for readers. -/
def annotations : Vocabulary where
  name := "annotations"
  keywords :=
    ["title", "description", "default", "examples", "readOnly", "writeOnly",
     "contentMediaType", "contentEncoding"].map fun name => .informative name

/-- All built-in vocabularies. -/
def vocabularies : List Vocabulary := [core, validation, applicator, format, annotations]

end Draft07

end JsonSchema
