import JsonSchema.Assertion

/-!
# Compiled schemas

A compiled schema is a finite tree. A reference is a leaf that names an entry of the
store, so schemas that refer to each other compile to trees all the same.

* `EntryId`: the name of an entry of the store.
* `Node`: a compiled schema.
* `Check`: a compiled keyword.
-/

namespace JsonSchema

/-- The name of an entry of the store: its place, which is never given out again. -/
structure EntryId where
  index : Nat
deriving DecidableEq, Repr

/-- The written form of the name of an entry. -/
def EntryId.text (id : EntryId) : String := "#" ++ toString id.index

/-- A keyword of a compiled schema, with what it applies. -/
structure Rule (α : Type) where
  keyword : String
  /-- The place of the keyword in the schema. -/
  schemaPath : String
  /-- The kinds of data it applies to; every kind if there is no list. -/
  types : Option (List Kind)
  check : α

/-- Whether a keyword applies to a value. -/
def Rule.appliesTo {α : Type} (rule : Rule α) (data : Value) : Bool :=
  match rule.types with
  | some kinds => kinds.any (·.holds data)
  | none => true

/-- What has to be there beside a property. -/
inductive Dependency (α : Type) where
  | names (required : List String)
  | schema (schema : α)

mutual

/-- A compiled schema. -/
inductive Node where
  /-- Accepts everything, or nothing. -/
  | always (verdict : Bool)
  /-- What the entry `target` holds at the time of use. -/
  | ref (target : EntryId) (reference : String)
  /-- All of the keywords. -/
  | rules (rules : List (Rule Check))

/-- A compiled keyword. -/
inductive Check where
  | assertion (assertion : Assertion)
  /-- The schema itself: of a reference, or of a schema that a keyword stands for. -/
  | apply (schema : Node)
  | properties (schemas : List (String × Node))
  | patternProperties (schemas : List (Pattern × Node))
  /-- Of the properties that are neither named nor matched. -/
  | additionalProperties (known : List String) (patterns : List Pattern) (schema : Node)
  | propertyNames (schema : Node)
  | dependencies (dependencies : List (String × Dependency Node))
  | eachItem (schema : Node)
  | tuple (schemas : List Node)
  /-- Of the items behind the first `offset`. -/
  | additionalItems (offset : Nat) (schema : Node)
  | contains (schema : Node)
  | allOf (schemas : List Node)
  | anyOf (schemas : List Node)
  | oneOf (schemas : List Node)
  | not (schema : Node)
  /-- The second schema of what satisfies the first, and the third of all else. -/
  | conditional (condition : Node) (yes no : Option Node)
  /-- Of every item or member. -/
  | children (schema : Node)
  /-- The verdict of the schema, and nothing of what it says. -/
  | verdict (schema : Node)
  /-- A test on the data, which may leave a trace. -/
  | predicate (test : Value → Bool) (traced : Bool)
  /-- A test whose outcome is known only later. -/
  | deferred (test : Value → Bool)
  /-- Accepts everything and leaves a trace. -/
  | probe
  /-- Says something about every value, and gives a verdict. -/
  | remark (objection : Objection) (verdict : Bool)
  /-- Says something about a place below every value. -/
  | beneath (steps : List String) (message : String)

end

namespace Node

/-- The schema that accepts everything. -/
def isTrivial : Node → Bool
  | always true => true
  | _ => false

/-- A short description. -/
def describe : Node → String
  | always true => "Subschema(true)"
  | always false => "Subschema(false)"
  | ref _ reference => "Subschema($ref " ++ reference ++ ")"
  | rules rs => "Subschema(" ++ toString rs.length ++ " rules)"

end Node

end JsonSchema
