import JsonSchema.Compilation.Schema
import JsonSchema.Keyword.MetaSchema
import JsonSchema.Store.Index

/-!
# Registries

A registry owns a store of schemas together with keywords, formats and options.

* `Registry`, `RegistryM`: a registry, and operations that change one.
* `Registry.compileEntry`: the validator of an entry.
* `Registry.validateSchema`: checks a document against its meta-schema.
-/

namespace JsonSchema

/-- A store of schemas with everything that is needed to use it. -/
structure Registry where
  options : Options
  vocabulary : VocabularyTable
  formats : FormatTable := FormatTable.draft07
  store : Store := {}
  /-- The meta-schema of documents that name none, unless the options name one. -/
  defaultMeta : Option String := none
  /-- The violations that the last validation found. -/
  errors : Option Violations := none
  /-- The trace. -/
  events : List Event := []
  /-- How many copies of documents the registry made itself. -/
  copies : Nat := 0

/-- An operation on a registry. What it did stays done when it fails, apart from what the
    operation itself takes back. -/
abbrev RegistryM := EStateM SchemaError Registry

/-- The identifier of a document: empty if it has none. -/
def Value.schemaId : Value → Except SchemaError String
  | .bool _ => .ok ""
  | .object members =>
    match Members.get? members "$id" with
    | none => .ok ""
    | some (.string id) => .ok (normalizeId id)
    | some _ => .error (.malformed .identifier)
  | _ => .error (.malformed .document)

/-- The identifier of the meta-schema that a document names. -/
def Value.metaSchemaId? (document : Value) : Option String :=
  ((document.member? "$schema").bind Value.asString?).map normalizeId

namespace Registry

/-- A result as an operation that changes nothing. -/
def lift {α : Type} : Except SchemaError α → RegistryM α
  | .ok a => pure a
  | .error e => throw e

/-- Changes the store. -/
def updateStore (change : Store → Store) : RegistryM Unit :=
  modify fun r => { r with store := change r.store }

/-- Adds to the trace. -/
def trace (events : List Event) : RegistryM Unit :=
  modify fun r => { r with events := r.events ++ events }

/-- A new copy of a document. -/
def copy (value : Value) : RegistryM Document := do
  let number := (← get).copies
  modify fun r => { r with copies := number + 1 }
  return { value, identity := .made number }

/-- Runs an operation; if it fails, undoes something and fails all the same. -/
def orElseUndo {α : Type} (operation : RegistryM α) (undo : RegistryM Unit) : RegistryM α :=
  tryCatch operation fun e => do
    undo
    throw e

/-! ## Compiling -/

/-- What compilations read. -/
def compiler (registry : Registry) : Compiler where
  vocabulary := registry.vocabulary
  formats := registry.formats
  options := registry.options

/-- The validator of an entry that is compiled. -/
def validator (registry : Registry) (id : EntryId) : Validator where
  entry := id
  isAsync := registry.store.isAsync id
  allErrors := registry.options.allErrors

/-- Whether an entry is compiled. -/
def isCompiled (registry : Registry) (id : EntryId) : Bool := (registry.store.slots id).isSome

/-- Compiles an entry, unless that was done before. -/
def compileEntry (id : EntryId) : RegistryM Validator := do
  let registry ← get
  unless registry.isCompiled id do
    let (result, store, events) := registry.compiler.compile id registry.store
    modify fun r => { r with store := store }
    trace events
    lift result
  return (← get).validator id

/-! ## Violations -/

/-- Keeps what a validation found, and says whether it found nothing. -/
def record (violations : Violations) : RegistryM Bool := do
  modify fun r => { r with errors := if violations.isEmpty then none else some violations }
  return violations.isEmpty

/-- What the last validation found, in one line. -/
def errorsText (registry : Registry) : String :=
  match registry.errors with
  | some violations => violations.text "data"
  | none => "No errors"

/-- Applies a validator to data. -/
def apply (validator : Validator) (data : Value) : RegistryM Violations := do
  let verdict := validator.validate (← get).store.slots data
  trace verdict.events
  return verdict.violations

/-! ## Checking documents -/

/-- Checks a document against the meta-schema of an entry. With `throw` a document that
    does not pass is refused, unless that is only to be noted. -/
def validateAgainst (metaSchema : EntryId) (document : Value) (refuse : Bool) :
    RegistryM Bool := do
  let validator ← compileEntry metaSchema
  let violations ← apply validator document
  if ← record violations then return true
  if refuse && (← get).options.validateSchema ≠ .log then throw (.invalid violations)
  return false

/-- The violation of a document whose meta-schema is not known. -/
def unknownMeta (metaId : String) : Violation where
  keyword := "$schema"
  dataPath := ""
  schemaPath := "#/$schema"
  message := "can't resolve meta-schema " ++ Text.quoted metaId
  params := .ofMembers [("metaSchema", .string metaId)]

/-- Treats a document whose meta-schema is not known as the options say. -/
def missingMeta (metaId : String) (refuse : Bool) : RegistryM Bool := do
  match (← get).options.missingMeta with
  | .permissive => return true
  | .strict =>
    let violations := [unknownMeta metaId]
    let _ ← record violations
    if refuse then throw (.invalid violations)
    return false

/-- Checks a document against the meta-schema that it names, or the one of the options,
    or the installed one. -/
def validateSchema (document : Value) (refuse : Bool) : RegistryM Bool := do
  let registry ← get
  let metaId := document.metaSchemaId? <|> registry.options.defaultMeta.map normalizeId <|>
    registry.defaultMeta
  match metaId.bind registry.store.lookup with
  | some entry => validateAgainst entry document refuse
  | none => missingMeta (metaId.getD "") refuse

end Registry

end JsonSchema
