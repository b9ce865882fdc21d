import JsonSchema.Registry.Documents

/-!
# Keywords and formats of a registry

* `Registry.addKeyword`, `Registry.addVocabulary`: define keywords. A schema for the
  values of a keyword is compiled first; it stays when other documents are removed.
-/

namespace JsonSchema

namespace Registry

/-- The validator of the values of a keyword. -/
def compileValueSchema (schema : Value) : RegistryM Validator := do
  let id ← lift schema.schemaId
  let document ← copy schema
  compileEntry (← addEntry document id true true false)

/-- The validators of the values of keywords that have a schema for them. -/
def valueValidators (keywords : List Keyword) : RegistryM (List (String × Validator)) := do
  let validators ← keywords.mapM fun keyword =>
    match keyword.valueSchema with
    | some schema => return some (keyword.name, ← compileValueSchema schema)
    | none => return none
  return validators.filterMap id

/-- Changes the keywords, and then gives their values validators. -/
def defineWith (validators : List (String × Validator))
    (define : VocabularyTable → Except SchemaError VocabularyTable) : RegistryM Unit := do
  let table ← lift (define (← get).vocabulary)
  let table := validators.foldl (fun t v => t.setValueValidator v.1 v.2) table
  modify fun r => { r with vocabulary := table }

/-- Defines a keyword. -/
def addKeyword (keyword : Keyword) : RegistryM Unit := do
  defineWith (← valueValidators [keyword]) (·.addKeyword keyword)

/-- Defines the keywords of a vocabulary. -/
def addVocabulary (vocabulary : Vocabulary) : RegistryM Unit := do
  defineWith (← valueValidators vocabulary.keywords) (·.addVocabulary vocabulary)

/-- Removes a keyword, and gives its definition if there was one. -/
def removeKeyword (name : String) : RegistryM (Option Keyword) := do
  let (removed, table) ← lift ((← get).vocabulary.removeKeyword name)
  modify fun r => { r with vocabulary := table }
  return removed

/-- Removes the keywords of a vocabulary; says whether the vocabulary was known. -/
def removeVocabulary (name : String) : RegistryM Bool := do
  let (known, table) ← lift ((← get).vocabulary.removeVocabulary name)
  modify fun r => { r with vocabulary := table }
  return known

/-- Adds a format. -/
def addFormat (name : String) (format : Format) : RegistryM Unit :=
  modify fun r => { r with formats := FormatTable.insert r.formats name format }

end Registry

end JsonSchema
