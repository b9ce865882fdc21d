import JsonSchema.Json.Value

/-!
# The meta-schema of draft-07

The schema that every schema of draft-07 satisfies.
-/

namespace JsonSchema

namespace Draft07

/-- The identifier of the meta-schema. -/
def metaId : String := "http://json-schema.org/draft-07/schema"

namespace Meta

/-- The object with these members. -/
def object (members : List (String × Value)) : Value := .ofMembers members

/-- A reference. -/
def ref (target : String) : Value := object [("$ref", .string target)]

/-- A reference to the meta-schema itself. -/
def schema : Value := ref "#"

/-- A reference to a definition of the meta-schema. -/
def definition (name : String) : Value := ref ("#/definitions/" ++ name)

/-- The schema of a kind of values. -/
def ofType (kind : String) : Value := object [("type", .string kind)]

/-- The schema of strings of a format. -/
def ofFormat (format : String) : Value :=
  object [("type", .string "string"), ("format", .string format)]

/-- The schema of values that satisfy one of several schemas. -/
def anyOf (schemas : List Value) : Value := object [("anyOf", .array schemas)]

/-- The schema of flags. -/
def flag : Value := object [("type", .string "boolean"), ("default", .bool false)]

/-- The schema of any array. -/
def anyArray : Value := object [("type", .string "array"), ("items", .bool true)]

/-- The members of the schema of objects whose members are schemas. -/
def schemaMap : List (String × Value) :=
  [("type", .string "object"), ("additionalProperties", schema), ("default", object [])]

/-- The definitions. -/
def definitions : Value :=
  object
    [("schemaArray",
      object [("type", .string "array"), ("minItems", .ofNat 1), ("items", schema)]),
     ("nonNegativeInteger", object [("type", .string "integer"), ("minimum", .ofNat 0)]),
     ("nonNegativeIntegerDefault0",
      object [("allOf", .array [definition "nonNegativeInteger", object [("default", .ofNat 0)]])]),
     ("simpleTypes",
      object
        [("enum",
          .ofStrings ["array", "boolean", "integer", "null", "number", "object", "string"])]),
     ("stringArray",
      object
        [("type", .string "array"), ("items", ofType "string"), ("uniqueItems", .bool true),
         ("default", .array [])])]

/-- The schemas of the values of keywords. -/
def properties : Value :=
  object
    [("$id", ofFormat "uri-reference"), ("$schema", ofFormat "uri"),
     ("$ref", ofFormat "uri-reference"), ("$comment", ofType "string"),
     ("title", ofType "string"), ("description", ofType "string"), ("default", .bool true),
     ("readOnly", flag), ("writeOnly", flag), ("examples", anyArray),
     ("multipleOf", object [("type", .string "number"), ("exclusiveMinimum", .ofNat 0)]),
     ("maximum", ofType "number"), ("exclusiveMaximum", ofType "number"),
     ("minimum", ofType "number"), ("exclusiveMinimum", ofType "number"),
     ("maxLength", definition "nonNegativeInteger"),
     ("minLength", definition "nonNegativeIntegerDefault0"), ("pattern", ofFormat "regex"),
     ("additionalItems", schema),
     ("items",
      object
        [("anyOf", .array [schema, definition "schemaArray"]), ("default", .bool true)]),
     ("maxItems", definition "nonNegativeInteger"),
     ("minItems", definition "nonNegativeIntegerDefault0"), ("uniqueItems", flag),
     ("contains", schema), ("maxProperties", definition "nonNegativeInteger"),
     ("minProperties", definition "nonNegativeIntegerDefault0"),
     ("required", definition "stringArray"), ("additionalProperties", schema),
     ("definitions", object schemaMap), ("properties", object schemaMap),
     ("patternProperties",
      object (("propertyNames", object [("format", .string "regex")]) :: schemaMap)),
     ("dependencies",
      object
        [("type", .string "object"),
         ("additionalProperties", anyOf [schema, definition "stringArray"])]),
     ("propertyNames", schema), ("const", .bool true), ("enum", anyArray),
     ("type",
      anyOf
        [definition "simpleTypes",
         object
           [("type", .string "array"), ("items", definition "simpleTypes"),
            ("minItems", .ofNat 1), ("uniqueItems", .bool true)]]),
     ("format", ofType "string"), ("contentMediaType", ofType "string"),
     ("contentEncoding", ofType "string"), ("if", schema), ("then", schema), ("else", schema),
     ("allOf", definition "schemaArray"), ("anyOf", definition "schemaArray"),
     ("oneOf", definition "schemaArray"), ("not", schema)]

end Meta

/-- The meta-schema. -/
def metaSchema : Value :=
  .ofMembers
    [("$schema", .string (metaId ++ "#")), ("$id", .string (metaId ++ "#")),
     ("title", .string "Core schema meta-schema"), ("definitions", Meta.definitions),
     ("type", .ofStrings ["object", "boolean"]), ("properties", Meta.properties),
     ("default", .bool true)]

end Draft07

end JsonSchema
