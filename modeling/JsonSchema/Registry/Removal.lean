import JsonSchema.Registry.Documents

/-!
# Removing documents from a registry

* `RemoveTarget`: which documents are removed.
* `Registry.removeSchema`: removes them, and says how many there were.
-/

namespace JsonSchema

/-- Which documents are removed. -/
inductive RemoveTarget where
  /-- All that are no meta-schemas. -/
  | all
  /-- The one of a name or an identifier. -/
  | key (name : String)
  /-- All that are no meta-schemas and have a name or an identifier with an occurrence of
      the pattern. -/
  | pattern (pattern : Pattern)
  /-- The one with the cache key of a document, and the one with its identifier. -/
  | document (document : Document)

namespace Registry

/-- Whether an entry is a document and no meta-schema. -/
def isOrdinary (entry : Entry) : Bool := !entry.isMeta && !entry.isFragment

/-- The entries that a target names, each once. -/
def victims (registry : Registry) (target : RemoveTarget) : List EntryId :=
  let store := registry.store
  match target with
  | .all => store.live.filter fun id => ((store.entry? id).map isOrdinary).getD false
  | .key name => (store.lookup (normalizeId name)).toList
  | .pattern pattern =>
    let named := ((store.schemas ++ store.refs).filter fun b => pattern.occursIn b.1).map (·.2)
    (named.filter fun id => ((store.entry? id).map (!·.isMeta)).getD false).eraseDups
  | .document document =>
    let cached := (store.cache.find? (registry.options.serialize.key document)).toList
    let named :=
      match document.value.schemaId with
      | .ok id => if id.isEmpty then [] else (store.lookup id).toList
      | .error _ => []
    (cached ++ named).eraseDups

/-- Removes documents with their fragments. What referred to them is compiled again when
    it is next used. -/
def removeSchema (target : RemoveTarget) : RegistryM Nat := do
  let victims := (← get).victims target
  victims.foldlM
    (fun count id => do
      let isLive := (← get).store.isLive id
      updateStore (·.remove id)
      return if isLive then count + 1 else count)
    0

end Registry

end JsonSchema
