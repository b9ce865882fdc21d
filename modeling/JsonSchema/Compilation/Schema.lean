import JsonSchema.Compilation.Builtin

/-!
# Compiling schemas

An entry is compiled together with everything it refers to. A reference to an entry whose
compilation has begun is not followed again, so recursive schemas compile. A compilation
that fails leaves the store as it was, except for the state of the entries it touched.

* `Compiler.node`: one schema, given how its parts are compiled.
* `Compiler.entry`: one entry, given how a schema is compiled.
* `Compiler.schema`: both together, down to a depth that is enough for the store.
* `Compiler.compile`: the whole compilation with its rollback.
-/

namespace JsonSchema

namespace Compiler

/-! ## References -/

/-- The entry that a reference of an entry denotes, with the absolute reference. What was
    found once is kept as long as the entry is there. -/
def resolve (source : EntryId) (base reference : String) : CompileM (EntryId × String) := do
  let absolute := resolveUrl base reference
  let store := (← get).store
  let known := ((store.entry? source).bind (·.refs.find? absolute)).filter store.isLive
  if let some target := known then return (target, absolute)
  let target ←
    match store.resolve source absolute with
    | .entry id => pure id
    | .fragment root base pointer schema => do
      let (id, isNew, store) := store.fragment root base pointer schema
      modify fun c =>
        { c with store := store, created := if isNew then id :: c.created else c.created }
      pure id
    | .missing => throw (.missing absolute (documentPart absolute))
  modify fun c => { c with store := c.store.modify source (·.remember absolute target) }
  return (target, absolute)

/-- Compiles a reference: the entry it denotes is compiled too. A synchronous document
    cannot refer to an asynchronous one. -/
def reference (entry : EntryId → Bool → CompileM Unit) (value : Value) (place : Place) :
    CompileM Node := do
  let some text := value.asString? | throw (.malformed (.referenceAt place.schemaPath))
  let (target, absolute) ← resolve place.entry place.base text
  entry target place.underMeta
  let store := (← get).store
  if store.isAsync target && !store.isAsync place.entry then
    throw (.compilation "$ref" (.asyncTarget absolute))
  return .ref target absolute

/-! ## Keywords -/

/-- Whether a keyword beside a reference would check anything. -/
def checks (compiler : Compiler) (name : String) : Bool :=
  name ≠ "$ref" &&
    ((compiler.vocabulary.get? name).map fun k => !k.behavior.isInformative).getD false

/-- Fails if a member of a schema is no keyword, where that is not allowed. -/
def refuseUnknown (compiler : Compiler) (members : Members) (place : Place) : CompileM Unit :=
  if (compiler.optionsAt place).unknownKeywords = .fail then
    match members.names.find? fun name => !compiler.vocabulary.contains name with
    | some name => throw (.compilation name (.unknown place.schemaPath))
    | none => pure ()
  else pure ()

/-- Fails if a keyword lacks another one beside it, or if its value is not valid. -/
def refuseValue (compiler : Compiler) (o : Occurrence) : CompileM Unit := do
  if let some name := o.keyword.requires.find? fun name => !o.siblings.contains name then
    o.fail (.requires name)
  if let some validator := compiler.vocabulary.valueValidators.find? o.keyword.name then
    let verdict := validator.validate (← get).store.slots o.value
    Compilation.trace verdict.events
    unless verdict.violations.isEmpty do o.fail (.invalidValue verdict.violations)

/-- The check of a keyword; none if the keyword only informs. -/
def check? (compiler : Compiler) (schema : SchemaCompiler) (o : Occurrence) :
    CompileM (Option Check) := do
  match o.keyword.behavior with
  | .informative => return none
  | .validate test traced => return some (.predicate (test o.value) traced)
  | .builtin meaning => return some (← meaning.compile compiler schema o)
  | .extension meaning => return some (← meaning.compile compiler schema o)
  | .expand template =>
    let node ← schema (template o.value o.siblings)
      { o.place with schemaPath := o.schemaPath, applyId := true }
    return some (.apply node)
  | .async test =>
    unless (← get).store.isAsync o.place.entry do o.fail .needsAsync
    return some (.deferred (test o.value))

/-- The compiled form of a keyword; none if the keyword only informs. -/
def rule? (compiler : Compiler) (schema : SchemaCompiler) (o : Occurrence) :
    CompileM (Option (Rule Check)) := do
  refuseValue compiler o
  let check? ← compiler.check? schema o
  return check?.map fun check =>
    { keyword := o.keyword.name, schemaPath := o.schemaPath, types := o.keyword.types, check }

/-- Compiles the keywords of a schema in their order of application. -/
def rules (compiler : Compiler) (schema : SchemaCompiler) (members : Members) (place : Place) :
    CompileM (List (Rule Check)) := do
  refuseUnknown compiler members place
  let occurrences := compiler.vocabulary.ordered.filterMap fun keyword =>
    if keyword.name = "$ref" then none
    else (members.get? keyword.name).map fun value =>
      ({ keyword, value, siblings := members, place } : Occurrence)
  return (← occurrences.mapM (compiler.rule? schema)).filterMap id

/-! ## Schemas -/

/-- The compiled form of a list of keywords. -/
def ofRules (rules : List (Rule Check)) : Node :=
  if rules.isEmpty then .always true else .rules rules

/-- The base inside a schema: its own identifier changes it where it counts. -/
def baseInside (members : Members) (place : Place) : CompileM String :=
  match members.get? "$id" with
  | none => pure place.base
  | some value =>
    if !place.applyId then pure place.base
    else
      match value with
      | .string id => pure (documentPart (resolveUrl place.base id))
      | _ => throw (.malformed (.identifierAt place.schemaPath))

/-- Compiles a schema. What stands beside a reference is left out, forbidden or compiled,
    as the options say. -/
def node (compiler : Compiler) (schema : SchemaCompiler) (entry : EntryId → Bool → CompileM Unit)
    (value : Value) (outside : Place) : CompileM Node := do
  match value with
  | .bool verdict => return .always verdict
  | .object members =>
    let place := { outside with base := ← baseInside members outside, applyId := true }
    match Members.get? members "$ref" with
    | none => return ofRules (← compiler.rules schema members place)
    | some text =>
      let target ← reference entry text place
      match (compiler.optionsAt place).extendRefs with
      | .ignore => return target
      | .fail =>
        if (Members.names members).any compiler.checks then
          throw (.compilation "$ref" (.besideReference place.schemaPath))
        return target
      | .apply =>
        let rule : Rule Check :=
          { keyword := "$ref", schemaPath := Pointer.child place.schemaPath "$ref"
            types := none, check := .apply target }
        return ofRules (rule :: (← compiler.rules schema members place))
  | _ => throw (.malformed (.schemaAt outside.schemaPath))

/-! ## Entries -/

/-- Compiles an entry, unless its compilation has begun. The flag says whether an entry
    that is being compiled is a meta-schema. -/
def entry (schema : SchemaCompiler) (id : EntryId) (underMeta : Bool) : CompileM Unit := do
  let some found := (← get).store.entry? id | throw (.malformed (.vanished id.text))
  unless found.progress.isStarted do
    modify fun c =>
      { c with store := c.store.modify id Entry.begin, started := id :: c.started }
    let compiled ← schema found.document
      { entry := id, base := found.id, schemaPath := "#", applyId := found.isFragment,
        underMeta := underMeta || found.isMeta }
    modify fun c => { c with store := c.store.modify id (·.finish compiled) }

/-- Compiles a schema at most `fuel` schemas deep. -/
def schema (compiler : Compiler) : Nat → SchemaCompiler
  | 0, _, place => throw (.malformed (.nestingAt place.schemaPath))
  | fuel + 1, value, place =>
    compiler.node (compiler.schema fuel) (entry (compiler.schema fuel)) value place

/-- A depth that no compilation in the store exceeds, unless keywords that stand for
    schemas nest more than ten thousand deep. Every entry is begun at most once, and there
    are at most as many entries as there are places in documents, or places declared in
    them followed by a pointer from a reference. -/
def depthOf (store : Store) : Nat :=
  let weight := (store.entries.toList.map fun slot =>
    match slot with
    | some entry => entry.document.weight + entry.localRefs.length + 1
    | none => 0).foldl (· + ·) 0
  10000 + Nat.pow (weight + 2) 6

/-! ## Transactions -/

/-- Undoes what a failed compilation did: the fragments it made go, and the entries it
    began are as before their compilation, except that `failed` is marked. -/
def rollback (failed : EntryId) (c : Compilation) : Store :=
  c.started.foldl (fun store id => store.modify id (·.giveUp (id = failed)))
    (c.created.foldl Store.remove c.store)

/-- Compiles an entry and everything it refers to, or nothing. -/
def compile (compiler : Compiler) (id : EntryId) (store : Store) :
    Except SchemaError Unit × Store × List Event :=
  match (entry (compiler.schema (depthOf store)) id false).run { store } with
  | .ok _ c => (.ok (), c.store, c.events)
  | .error e c => (.error e, rollback id c, c.events)

end Compiler

end JsonSchema
