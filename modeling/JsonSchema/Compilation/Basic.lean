import JsonSchema.Options
import JsonSchema.Store.Resolve
import JsonSchema.Vocabulary

/-!
# Compilation

What a compilation reads, what it changes, and where in a document it stands.

* `Compiler`: keywords, formats and options.
* `Compilation`: the store together with what this compilation did to it.
* `Place`: where a schema is compiled; `Occurrence`: where a keyword is.
-/

namespace JsonSchema

/-- What a compilation reads. -/
structure Compiler where
  vocabulary : VocabularyTable
  formats : FormatTable
  options : Options

/-- The store while it is changed by a compilation. -/
structure Compilation where
  store : Store
  /-- The entries whose compilation was begun, the last one first. -/
  started : List EntryId := []
  /-- The fragments that were made, the last one first. -/
  created : List EntryId := []
  /-- The trace. -/
  events : List Event := []

/-- A step of a compilation. What it did to the store stays done when it fails. -/
abbrev CompileM := EStateM SchemaError Compilation

/-- Where a schema is compiled. -/
structure Place where
  /-- The entry whose document contains the schema. -/
  entry : EntryId
  /-- The base around the schema, without its own identifier. -/
  base : String
  /-- The place in the document, for messages. -/
  schemaPath : String
  /-- Whether the identifier of the schema counts; that of a whole document is the base
      already. -/
  applyId : Bool
  /-- Whether one of the entries being compiled is a meta-schema. -/
  underMeta : Bool

/-- A function that compiles a schema at a place. -/
abbrev SchemaCompiler := Value → Place → CompileM Node

/-- A keyword in a schema. -/
structure Occurrence where
  keyword : Keyword
  value : Value
  /-- The members of the schema. -/
  siblings : Members
  /-- The place of the schema, with the base inside it. -/
  place : Place

namespace Compilation

/-- Adds to the trace. -/
def trace (events : List Event) : CompileM Unit :=
  modify fun c => { c with events := c.events ++ events }

end Compilation

namespace Compiler

/-- The options at a place. -/
def optionsAt (compiler : Compiler) (place : Place) : Options :=
  if place.underMeta then compiler.options.forMeta else compiler.options

end Compiler

namespace Occurrence

/-- The place of the keyword, for messages. -/
def schemaPath (occurrence : Occurrence) : String :=
  Pointer.child occurrence.place.schemaPath occurrence.keyword.name

/-- Fails because of the keyword. -/
def fail {α : Type} (occurrence : Occurrence) (fault : Fault) : CompileM α :=
  throw (.compilation occurrence.keyword.name fault)

/-- Compiles a part of the value at the end of some steps. -/
def subschema (occurrence : Occurrence) (compile : SchemaCompiler) (schema : Value)
    (steps : List String) : CompileM Node :=
  compile schema
    { occurrence.place with
      schemaPath := steps.foldl Pointer.child occurrence.schemaPath, applyId := true }

/-- Compiles the value of another keyword of the schema, if it is there. -/
def sibling (occurrence : Occurrence) (compile : SchemaCompiler) (keyword : String) :
    CompileM (Option Node) :=
  match Members.get? occurrence.siblings keyword with
  | none => pure none
  | some schema => do
    let path := Pointer.child occurrence.place.schemaPath keyword
    return some (← compile schema { occurrence.place with schemaPath := path, applyId := true })

end Occurrence

end JsonSchema
