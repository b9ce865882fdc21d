import JsonSchema.Registry.Basic

/-!
# Documents of a registry

Taking documents in, compiling them and finding them again.

* `Registry.addSchema`: takes a document in under a name.
* `Registry.compile`: the validator of a document; equal documents share one entry.
* `Registry.getSchema`: the validator of what an identifier denotes.
* `Registry.create`: a registry with the built-in keywords, formats and meta-schema.
-/

namespace JsonSchema

namespace Registry

/-- How a document is taken in. -/
structure AddOptions where
  /-- The name; the identifier of the document if there is none. -/
  key : Option String := none
  /-- Whether the document is not checked against its meta-schema. -/
  skipValidation : Bool := false
  isMeta : Bool := false

/-- Marks the document of an entry and its fragments as meta-schemas. They are compiled
    again under other options, so they are reset. -/
def promote (root : EntryId) : RegistryM Unit :=
  updateStore fun store =>
    let members := store.live.filter fun id => (store.entry? id).map (·.root) = some root
    members.foldl
      (fun store id =>
        ((store.modify id fun e => { e.reset with isMeta := true }).invalidate [id]))
      store

/-- Takes a document in that is not in the cache. A document that is its own meta-schema
    is checked when it is there, and goes again if it does not pass. -/
def insertEntry (document : Document) (key : CacheKey) (id : String) (isMeta validate register : Bool) :
    RegistryM EntryId := do
  let registry ← get
  if register && !id.isEmpty && registry.store.isTaken id then throw (.duplicate id)
  let checked := validate && registry.options.validateSchema ≠ .disabled
  let isOwnMeta := !id.isEmpty && document.value.metaSchemaId? = some id
  if checked && !isOwnMeta then
    let _ ← validateSchema document.value true
  let index ← lift (LocalIndex.ofDocument registry.vocabulary document.value id)
  let (entry, store) := (← get).store.insert fun self =>
    { id, document := document.value, localRefs := index.localRefs
      refTargets := index.refTargets, cacheKey := some key, isMeta, root := self }
  updateStore fun _ =>
    { store with
      cache := store.cache.bind key entry
      refs := if register && !id.isEmpty then store.refs.bind id entry else store.refs }
  if checked && isOwnMeta then
    let _ ← orElseUndo (validateAgainst entry document.value true) (updateStore (·.remove entry))
  return entry

/-- The entry of a document: the one in the cache, or a new one. -/
def addEntry (document : Document) (id : String) (isMeta validate register : Bool) :
    RegistryM EntryId := do
  let registry ← get
  let key := registry.options.serialize.key document
  match (registry.store.cache.find? key).bind fun entry =>
      (registry.store.entry? entry).map (entry, ·) with
  | some (entry, known) =>
    if isMeta && !known.isMeta then promote entry
    return entry
  | none => insertEntry document key id isMeta validate register

/-- Takes a document in under a name. -/
def addSchemaWith (document : Document) (options : AddOptions) : RegistryM EntryId := do
  let id ← lift document.value.schemaId
  let key := normalizeId (options.key.getD id)
  if !key.isEmpty && (← get).store.isTaken key then throw (.duplicate key)
  let entry ← addEntry document id options.isMeta (!options.skipValidation) true
  unless key.isEmpty do
    updateStore fun store => { store with schemas := store.schemas.bind key entry }
  return entry

/-- Takes a document in, after checking it against its meta-schema. -/
def addSchema (document : Document) (key : Option String) : RegistryM EntryId :=
  addSchemaWith document { key }

/-- Takes several documents in, each under its identifier. -/
def addSchemas (documents : List Document) : RegistryM (List EntryId) :=
  documents.mapM (addSchema · none)

/-- Takes a document in that others name as their meta-schema. -/
def addMetaSchema (document : Document) (key : Option String) : RegistryM EntryId :=
  addSchemaWith document { key, isMeta := true }

/-- The validator of a document, which is taken in for that. If it cannot be compiled it
    goes again, unless it was there before. -/
def compile (document : Document) : RegistryM Validator := do
  let id ← lift document.value.schemaId
  let registry ← get
  let cached := registry.store.cache.find? (registry.options.serialize.key document)
  let entry ← addEntry document id false true registry.options.addUsedSchema
  orElseUndo (compileEntry entry)
    (if cached = some entry then pure () else updateStore (·.remove entry))

/-- The validator of what an identifier denotes: a document, or a part of one. -/
def getSchema (name : String) : RegistryM (Option Validator) := do
  let key := normalizeId name
  let store := (← get).store
  match store.lookup key with
  | some entry => some <$> compileEntry entry
  | none =>
    match (store.lookup (documentPart key)).map (store.resolve · key) with
    | some (.entry entry) => some <$> compileEntry entry
    | some (.fragment root base pointer schema) =>
      let (entry, isNew, store) := store.fragment root base pointer schema
      updateStore fun _ => store
      some <$> orElseUndo (compileEntry entry)
        (if isNew then updateStore (·.remove entry) else pure ())
    | _ => return none

/-- The entry of a document by its name or identifier. -/
def schemaEntry? (registry : Registry) (name : String) : Option (EntryId × Entry) :=
  (registry.store.lookup (normalizeId name)).bind fun id =>
    (registry.store.entry? id).map (id, ·)

/-- The documents that a document refers to and that are not known, each once and in
    order. -/
def missingDocuments (document : Value) : RegistryM (List String) := do
  let registry ← get
  let id ← lift document.schemaId
  let index ← lift (LocalIndex.ofDocument registry.vocabulary document id)
  let missing := (index.refTargets.map documentPart).filter fun target =>
    !target.isEmpty && target ≠ id && !index.localRefs.binds target &&
      (registry.store.lookup target).isNone
  return missing.mergeSort.eraseDups

/-- How many documents the cache holds. -/
def cacheSize (registry : Registry) : Nat := registry.store.cache.length

/-! ## Validating -/

/-- Validates data against what an identifier denotes. -/
def validate (name : String) (data : Value) : RegistryM Bool := do
  match ← getSchema name with
  | some validator => record (← apply validator data)
  | none => throw (.missing name (documentPart name))

/-- Validates data against a document. -/
def validateValue (document : Document) (data : Value) : RegistryM Bool := do
  record (← apply (← compile document) data)

/-! ## Creating -/

/-- Takes the meta-schema of draft-07 in. -/
def installMeta : RegistryM Unit := do
  let document ← copy Draft07.metaSchema
  let _ ← addSchemaWith document { skipValidation := true, isMeta := true }
  modify fun r => { r with defaultMeta := some Draft07.metaId }

/-- A registry with the built-in keywords and formats, and with the meta-schema of
    draft-07 if the options ask for it. -/
def create (options : Options) : Registry :=
  let registry : Registry :=
    { options, vocabulary := VocabularyTable.draft07 options.overwriteKeywords }
  if options.installMeta then
    match installMeta.run registry with
    | .ok _ registry | .error _ registry => registry
  else registry

end Registry

end JsonSchema
