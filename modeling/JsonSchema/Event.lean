import JsonSchema.Json.Value

/-!
# Traces

What keywords and loaders leave behind when they run. A trace is part of the answer of an
operation; no other answer depends on it.
-/

namespace JsonSchema

/-- Something that happened while a schema was compiled, used or loaded. -/
inductive Event where
  /-- A keyword applied its test. -/
  | tested (keyword : String) (data : Value)
  /-- A keyword was compiled, beside the members `siblings` and under the options given by
      three flags: defaults are used, types are coerced, additional members are removed.
      A preview says whether its value accepts everything, and describes it. -/
  | compiled (keyword schemaPath : String) (value : Value) (siblings : List String)
      (useDefaults coerceTypes removeAdditional : Bool) (preview : Option (Bool × String))
  /-- A compiled keyword looked at data. -/
  | ran (keyword dataPath : String) (data : Value)
  /-- The outcome of a deferred test became known. -/
  | awaited (keyword : String) (data : Value)
  /-- A document was asked for. -/
  | loading (uri : String)
deriving DecidableEq

end JsonSchema
