import JsonSchema.Json.Value

/-!
# Violations

A violation says which keyword refused which part of the data, and why.

* `Violation`: one reason why a value is not valid.
* `Violations.text`: reasons in one line, with a name for the data.
-/

namespace JsonSchema

/-- One reason why a value is not valid. -/
structure Violation where
  /-- The keyword that refused. -/
  keyword : String
  /-- The pointer to the part of the data that was refused. -/
  dataPath : String
  /-- The place of the keyword in the schema. -/
  schemaPath : String
  /-- What the data should be. -/
  message : String
  /-- The details of the message. -/
  params : Value
deriving DecidableEq

/-- Violations in the order in which they were found. -/
abbrev Violations := List Violation

namespace Violations

/-- The violations in one line; `data` stands for the whole of the data. -/
def text (violations : Violations) (data : String) : String :=
  ", ".intercalate (violations.map fun v => data ++ v.dataPath ++ " " ++ v.message)

/-- The violations in one line, or a remark that there are none. -/
def summary (violations : Violations) : String :=
  if violations.isEmpty then "No errors" else violations.text "data"

end Violations

end JsonSchema
