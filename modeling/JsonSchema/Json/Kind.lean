import JsonSchema.Json.Value

/-!
# Kinds of JSON values

The seven names that the `type` keyword knows. A number with an integral value is
both a number and an integer.
-/

namespace JsonSchema

/-- A kind of JSON value. -/
inductive Kind where
  | null
  | boolean
  | object
  | array
  | number
  | integer
  | string
deriving DecidableEq, Repr

namespace Kind

/-- The kinds with their names. -/
def table : List (String × Kind) :=
  [("null", .null), ("boolean", .boolean), ("object", .object), ("array", .array),
   ("number", .number), ("integer", .integer), ("string", .string)]

/-- The kind of a name. -/
def ofName? (name : String) : Option Kind := table.lookup name

/-- The name of a kind. -/
def name : Kind → String
  | .null => "null"
  | .boolean => "boolean"
  | .object => "object"
  | .array => "array"
  | .number => "number"
  | .integer => "integer"
  | .string => "string"

theorem ofName?_name (k : Kind) : ofName? k.name = some k := by cases k <;> rfl

/-- Whether a value is of the kind. -/
def holds : Kind → Value → Bool
  | .null, .null => true
  | .boolean, .bool _ => true
  | .object, .object _ => true
  | .array, .array _ => true
  | .number, .number _ => true
  | .integer, .number n => n.isIntegral
  | .string, .string _ => true
  | _, _ => false

end Kind

end JsonSchema
