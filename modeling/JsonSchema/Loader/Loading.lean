import JsonSchema.Loader.Fetcher
import JsonSchema.Registry.Documents

/-!
# Compiling with a loader

A document whose references lead to unknown documents can be compiled all the same if a
loader knows them.

* `Loader`: where documents come from.
* `Loading`, `LoadM`: a registry, the shared loads and the state of the loader.
* `Loading.fetchAll`: loads several documents at once.
* `Loading.compile`: compiles a document and loads what it lacks.
-/

namespace JsonSchema

/-- Where documents come from. A load may change the state of the loader. -/
structure Loader (σ : Type) where
  load : String → σ → Except SchemaError Value × σ

/-- A registry, the shared loads, and the state of a loader. -/
structure Loading (σ : Type) where
  registry : Registry
  fetcher : Fetcher := {}
  source : σ

/-- An operation that may load documents. -/
abbrev LoadM (σ : Type) := EStateM SchemaError (Loading σ)

namespace Loading

variable {σ : Type}

/-- An operation on the registry alone. -/
def onRegistry {α : Type} (operation : RegistryM α) : LoadM σ α := fun loading =>
  match operation.run loading.registry with
  | .ok a registry => .ok a { loading with registry }
  | .error e registry => .error e { loading with registry }

/-- Requests documents in order. Gives the tickets, and those among them that start a
    load. -/
def requestAll (uris : List String) : LoadM σ (List Ticket × List Ticket) :=
  uris.foldlM
    (fun (tickets, started) uri => do
      let (ticket, starts, fetcher) := (← get).fetcher.request uri
      modify fun l => { l with fetcher }
      if starts then onRegistry (Registry.trace [.loading uri])
      return (tickets ++ [ticket], if starts then started ++ [ticket] else started))
    ([], [])

/-- Runs the load of a ticket to its end. -/
def runLoad (loader : Loader σ) (ticket : Ticket) : LoadM σ Unit :=
  modify fun l =>
    let (result, source) := loader.load ticket.uri l.source
    { l with source, fetcher := l.fetcher.complete ticket result }

/-- Collects what came of a load. A load that is still running counts as failed. -/
def collect (ticket : Ticket) : LoadM σ (Except SchemaError Document) := do
  match (← get).fetcher.collect ticket with
  | some (result, fetcher) =>
    modify fun l => { l with fetcher }
    return result
  | none => return .error (.load ticket.uri (.refused "not loaded"))

/-- Loads several documents at once: all loads begin before the first one ends. -/
def fetchAll (loader : Loader σ) (uris : List String) :
    LoadM σ (List (Except SchemaError Document)) := do
  let (tickets, started) ← requestAll uris
  started.forM (runLoad loader)
  tickets.mapM collect

/-- Loads a document. -/
def fetch (loader : Loader σ) (uri : String) : LoadM σ Document := do
  match ← fetchAll loader [uri] with
  | [.ok document] => return document
  | [.error e] => throw e
  | _ => throw (.load uri (.refused "not loaded"))

/-- Whether a document is known under a name. -/
def isKnown (name : String) : LoadM σ Bool :=
  return ((← get).registry.schemaEntry? name).isSome

/-- Takes a loaded document in under its address, and its meta-schema before it if that is
    not known either. -/
def addLoaded (loader : Loader σ) (uri : String) (document : Document) : LoadM σ Unit := do
  unless ← isKnown uri do
    if let some metaId := document.value.metaSchemaId? then
      if metaId ≠ uri && !(← isKnown metaId) then
        let metaSchema ← fetch loader metaId
        let _ ← onRegistry (Registry.addMetaSchema metaSchema (some metaId))
    let _ ← onRegistry (Registry.addSchema document (some uri))

/-- Loads what a document lacks: the documents that it refers to and that are not known,
    and `missing`, which its compilation asked for. -/
def supply (loader : Loader σ) (document : Value) (missing : String) : LoadM σ Unit := do
  let others ← onRegistry (Registry.missingDocuments document)
  let wanted := if others.contains missing then others else others ++ [missing]
  let results ← fetchAll loader wanted
  (wanted.zip results).forM fun (uri, result) => do
    match result with
    | .ok loaded => addLoaded loader uri loaded
    | .error e => throw e

/-- Compiles a document, and loads what it lacks up to `rounds` times. A reference into a
    document that is known and lacks the part is an error at once. -/
def compile (loader : Loader σ) (document : Document) : Nat → LoadM σ Validator
  | 0 => onRegistry (Registry.compile document)
  | rounds + 1 =>
    tryCatch (onRegistry (Registry.compile document)) fun e => do
      match e with
      | .missing _ missing =>
        if missing.isEmpty || (← isKnown missing) then throw e
        supply loader document.value missing
        compile loader document rounds
      | _ => throw e

end Loading

end JsonSchema
