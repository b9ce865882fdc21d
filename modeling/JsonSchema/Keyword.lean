import JsonSchema.Json.Kind

/-!
# Keywords

A keyword gives a meaning to the members of one name in a schema.

* `Nesting`: where subschemas sit inside the value of a keyword.
* `Behavior`: what the keyword does; `AssertionKind` and `Applicator` list the built-in
  meanings.
* `Keyword`: a name, the data it applies to, hints for the order, and a behaviour.
-/

namespace JsonSchema

/-- Where subschemas sit inside the value of a keyword. -/
inductive Nesting where
  /-- The value is data. -/
  | none
  /-- The value is a schema. -/
  | schema
  /-- The value is an array of schemas. -/
  | array
  /-- The value is an object whose members are schemas. -/
  | map
  /-- The value is a schema or an array of schemas. -/
  | schemaOrArray
deriving DecidableEq, Repr

/-- A limit on a number. -/
inductive Bound where
  | minimum
  | maximum
  | exclusiveMinimum
  | exclusiveMaximum
deriving DecidableEq, Repr

/-- What is counted in a value. -/
inductive Measure where
  | characters
  | items
  | properties
deriving DecidableEq, Repr

/-- The meanings of keywords that look at a value without applying subschemas. -/
inductive AssertionKind where
  | kinds
  | among
  | equal
  | bound (bound : Bound)
  | multiple
  | least (measure : Measure)
  | most (measure : Measure)
  | pattern
  | unique
  | required
deriving DecidableEq, Repr

/-- The meanings of keywords that apply subschemas. -/
inductive Applicator where
  | properties
  | patternProperties
  | additionalProperties
  | propertyNames
  | dependencies
  | items
  | additionalItems
  | contains
  | allOf
  | anyOf
  | oneOf
  | not
  | conditional
deriving DecidableEq, Repr

/-- The built-in meanings. -/
inductive Builtin where
  | asserts (kind : AssertionKind)
  | applies (applicator : Applicator)
  | format
deriving DecidableEq, Repr

/-- Meanings that are put together from the parts that compiled schemas consist of. -/
inductive Extension where
  /-- Says `message` about every value, and gives `verdict`. -/
  | remark (message : String) (params : Value) (verdict : Bool)
  /-- Applies the value of the keyword to every item or member. -/
  | children
  /-- Applies the value of the keyword, and keeps only the verdict. -/
  | verdict
  /-- Applies the value of another keyword of the same schema. -/
  | sibling (keyword : String)
  /-- Says `deep` two steps below every value. -/
  | below
  /-- Refuses every value of the keyword. -/
  | refuse (message : String)
  /-- Requires of strings the format that the value of the keyword names. -/
  | format
  /-- Accepts everything and leaves a trace; `preview` also compiles the value. -/
  | probe (preview : Bool)
deriving DecidableEq

/-- What a keyword does. A test is given the value of the keyword and the data. -/
inductive Behavior where
  /-- Nothing: the keyword only informs. -/
  | informative
  /-- Applies a test, which may leave a trace. -/
  | validate (test : Value → Value → Bool) (traced : Bool)
  | builtin (meaning : Builtin)
  | extension (meaning : Extension)
  /-- Stands for the schema made of the value of the keyword and the schema around it. -/
  | expand (schema : Value → Members → Value)
  /-- Applies a test whose outcome is known only later. -/
  | async (test : Value → Value → Bool)

namespace Behavior

/-- Whether the keyword only informs. -/
def isInformative : Behavior → Bool
  | informative => true
  | _ => false

/-- Whether the outcome of the keyword is known only later. -/
def isAsync : Behavior → Bool
  | async _ => true
  | _ => false

end Behavior

/-- A keyword. -/
structure Keyword where
  name : String
  /-- The kinds of data it applies to; every kind if there is no list. -/
  types : Option (List Kind) := none
  /-- The keywords that come after it. -/
  before : List String := []
  /-- The keywords that come before it. -/
  after : List String := []
  /-- The keywords that have to stand beside it. -/
  requires : List String := []
  nesting : Nesting := .none
  /-- The schema for values of the keyword. -/
  valueSchema : Option Value := none
  behavior : Behavior := .informative

namespace Keyword

/-- A keyword that only informs. -/
def informative (name : String) (nesting : Nesting := .none) : Keyword :=
  { name := name, nesting := nesting }

/-- A keyword that looks at values of some kinds. -/
def asserting (name : String) (kind : AssertionKind) (types : Option (List Kind) := none) :
    Keyword :=
  { name := name, types := types, behavior := .builtin (.asserts kind) }

/-- A keyword that applies subschemas to values of some kinds. -/
def applying (name : String) (applicator : Applicator) (nesting : Nesting)
    (types : Option (List Kind) := none) : Keyword :=
  { name := name, types := types, nesting := nesting, behavior := .builtin (.applies applicator) }

end Keyword

end JsonSchema
