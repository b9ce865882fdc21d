import JsonSchema.Proofs.Registry.Operations

/-!
# Compilations of documents, given how entries are compiled

A registry that compiles a document compiles its entry, and before that the entry of its meta-schema.
Everything else that it does is the same however entries are compiled, and a document that was
compiled before is found again with no entry compiled.

* `Transaction`: a way to compile an entry.
* `Registry.compileWith`: the compilation of a document, given how entries are compiled.
* `Registry.compileWith_of_cached`: a document that was compiled before.
-/

namespace JsonSchema

/-- A way to compile an entry of a store. -/
abbrev Transaction := Compiler → EntryId → Store → Except SchemaError Unit × Store × List Event

namespace Registry

/-! ## Compilations -/

section Ways

variable (transact : Transaction)

/-- Compiles an entry in some way, unless that was done before. -/
def compileEntryWith (id : EntryId) : RegistryM Validator := do
  let registry ← get
  unless registry.isCompiled id do
    let (result, store, events) := transact registry.compiler id registry.store
    modify fun r => { r with store := store }
    trace events
    lift result
  return (← get).validator id

/-- Checks a document against the meta-schema of an entry, which is compiled in some way. -/
def validateAgainstWith (metaSchema : EntryId) (document : Value) (refuse : Bool) :
    RegistryM Bool := do
  let validator ← compileEntryWith transact metaSchema
  let violations ← apply validator document
  if ← record violations then return true
  if refuse && (← get).options.validateSchema ≠ .log then throw (.invalid violations)
  return false

/-- Checks a document against its meta-schema, which is compiled in some way. -/
def validateSchemaWith (document : Value) (refuse : Bool) : RegistryM Bool := do
  let registry ← get
  let metaId := document.metaSchemaId? <|> registry.options.defaultMeta.map normalizeId <|>
    registry.defaultMeta
  match metaId.bind registry.store.lookup with
  | some entry => validateAgainstWith transact entry document refuse
  | none => missingMeta (metaId.getD "") refuse

/-- The check of a document that is its own meta-schema, after it was given a place. -/
def checkOwnWith (entry : EntryId) (document : Value) (own : Bool) : RegistryM EntryId := do
  if own then
    let _ ← orElseUndo (validateAgainstWith transact entry document true)
      (updateStore (·.remove entry))
  return entry

/-- Gives a place to a document that may be taken in, and checks it if it is its own meta-schema. -/
def placeEntryWith (vocabulary : VocabularyTable) (document : Value) (key : CacheKey) (id : String)
    (isMeta named own : Bool) : RegistryM EntryId := do
  let index ← lift (LocalIndex.ofDocument vocabulary document id)
  let store := (← get).store
  let self : EntryId := ⟨store.entries.size⟩
  updateStore fun _ => store.insertDocument
    { id, document, localRefs := index.localRefs, refTargets := index.refTargets
      cacheKey := some key, isMeta, root := self } key named
  checkOwnWith transact self document own

/-- Takes a document in that is not in the cache; its meta-schema is compiled in some way. -/
def insertEntryWith (document : Document) (key : CacheKey) (id : String)
    (isMeta validate register : Bool) : RegistryM EntryId := do
  let registry ← get
  if register && !id.isEmpty && registry.store.isTaken id then throw (.duplicate id)
  let checked := validate && registry.options.validateSchema ≠ .disabled
  let isOwnMeta := !id.isEmpty && document.value.metaSchemaId? = some id
  if checked && !isOwnMeta then
    let _ ← validateSchemaWith transact document.value true
  placeEntryWith transact registry.vocabulary document.value key id isMeta (register && !id.isEmpty)
    (checked && isOwnMeta)

/-- The entry of a document: the one in the cache, or a new one. -/
def addEntryWith (document : Document) (id : String) (isMeta validate register : Bool) :
    RegistryM EntryId := do
  let registry ← get
  let key := registry.options.serialize.key document
  match (registry.store.cache.find? key).bind fun entry =>
      (registry.store.entry? entry).map (entry, ·) with
  | some (entry, known) =>
    if isMeta && !known.isMeta then promote entry
    return entry
  | none => insertEntryWith transact document key id isMeta validate register

/-- The validator of a document, with all entries compiled in some way. -/
def compileWith (document : Document) : RegistryM Validator := do
  let id ← lift document.value.schemaId
  let registry ← get
  let cached := registry.store.cache.find? (registry.options.serialize.key document)
  let entry ← addEntryWith transact document id false true registry.options.addUsedSchema
  orElseUndo (compileEntryWith transact entry)
    (if cached = some entry then pure () else updateStore (·.remove entry))

/-- If entries are compiled as always, so is the document. -/
theorem compileWith_compile : compileWith Compiler.compile = compile := rfl

end Ways

/-! ## Documents that were compiled before -/

variable {transact : Transaction} {id : EntryId} {r : Registry}

theorem compileEntryWith_of_compiled (compiled : r.isCompiled id = true) :
    compileEntryWith transact id r = .ok (r.validator id) r := by
  unfold compileEntryWith
  rw [RegistryM.get_bind, if_pos compiled]
  rfl

theorem compileEntryWith_of_idle (idle : ¬ r.isCompiled id = true)
    {outcome : Except SchemaError Unit} {store : Store} {events : List Event}
    (ran : transact r.compiler id r.store = (outcome, store, events)) :
    compileEntryWith transact id r = (do
      lift outcome
      return (← get).validator id : RegistryM Validator)
        { r with store, events := r.events ++ events } := by
  unfold compileEntryWith
  rw [RegistryM.get_bind, if_neg idle]
  simp only [ran]
  rfl

theorem addEntryWith_of_cached (transact : Transaction) {document : Document} {entry : EntryId}
    {e : Entry} (name : String) (validate register : Bool)
    (cached : r.store.cache.find? (r.options.serialize.key document) = some entry)
    (found : r.store.entry? entry = some e) :
    addEntryWith transact document name false validate register r = .ok entry r := by
  have some_ : ((r.store.cache.find? (r.options.serialize.key document)).bind fun entry =>
      (r.store.entry? entry).map (entry, ·)) = some (entry, e) := by
    rw [cached, Option.bind_some, found]
    rfl
  unfold addEntryWith
  rw [RegistryM.get_bind]
  simp only [some_]
  rfl

/-- Where a document is in the cache and compiled, nothing is done. -/
theorem compileWith_of_cached (transact : Transaction) {document : Document} {name : String}
    {entry : EntryId} {e : Entry} (named : document.value.schemaId = .ok name)
    (cached : r.store.cache.find? (r.options.serialize.key document) = some entry)
    (found : r.store.entry? entry = some e) (compiled : r.isCompiled entry = true) :
    compileWith transact document r = .ok (r.validator entry) r := by
  have added := addEntryWith_of_cached transact name true r.options.addUsedSchema cached
    found
  have done : compileEntryWith transact entry r = _ := compileEntryWith_of_compiled compiled
  unfold compileWith
  rw [named]
  show (addEntryWith transact document name false true r.options.addUsedSchema >>= fun _ => _) r = _
  rw [RegistryM.bind_ok added]
  show EStateM.tryCatch _ _ r = _
  rw [EStateM.tryCatch, done]

end Registry

end JsonSchema
