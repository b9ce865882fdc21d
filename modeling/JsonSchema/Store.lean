import JsonSchema.Store.Cache
import JsonSchema.Validation.Run

/-!
# The store of schemas

The store keeps every document that was taken in, and every part of a document that was
cut out because something refers to it. An entry is named by its place. Places are given
out in order and never again, so a name never comes to mean another entry.

* `Entry`: a document or a fragment of one, and how far its compilation is.
* `Store`: the entries and the tables that lead to them.
* `Store.remove`: removes an entry with its fragments, and resets what referred to them.
-/

namespace JsonSchema

/-- How far the compilation of an entry is. The references that were followed lead from
    their absolute form to the entries they denote. -/
inductive Progress where
  | notStarted
  | inProgress (refs : Bindings String EntryId)
  | done (node : Node) (refs : Bindings String EntryId)
  | failed

namespace Progress

/-- The references that were followed. -/
def refs : Progress → Bindings String EntryId
  | inProgress refs | done _ refs => refs
  | notStarted | failed => []

/-- The compiled schema. -/
def node? : Progress → Option Node
  | done node _ => some node
  | _ => none

/-- Whether the compilation has begun and is not over, or was successful. -/
def isStarted : Progress → Bool
  | inProgress _ | done _ _ => true
  | notStarted | failed => false

/-- The name of the state. -/
def name : Progress → String
  | notStarted => "NotStarted"
  | inProgress _ => "InProgress"
  | done _ _ => "Done"
  | failed => "Failed"

end Progress

/-- A document, or a fragment that was cut from one. -/
structure Entry where
  /-- The identifier, empty if there is none. It is the base of the references inside. -/
  id : String
  document : Value
  /-- The identifiers declared inside, with the pointers to the places. -/
  localRefs : Bindings String String := []
  /-- The absolute references made inside. -/
  refTargets : List String := []
  /-- The cache key of a document; a fragment has none. -/
  cacheKey : Option CacheKey := none
  isMeta : Bool
  /-- The entry of the document: itself, or what a fragment was cut from. -/
  root : EntryId
  /-- The pointer to a fragment; empty for a document. -/
  pointer : String := ""
  progress : Progress := .notStarted

namespace Entry

/-- Whether the entry is a fragment. -/
def isFragment (entry : Entry) : Bool := !entry.pointer.isEmpty

/-- Whether the document declares itself asynchronous. -/
def isAsync (entry : Entry) : Bool :=
  ((entry.document.member? "$async").bind Value.asBool?).getD false

/-- The references that were followed while the entry was compiled. -/
def refs (entry : Entry) : Bindings String EntryId := entry.progress.refs

/-- Whether a reference to one of `targets` was followed. -/
def refersTo (entry : Entry) (targets : List EntryId) : Bool :=
  entry.refs.any fun ref => targets.contains ref.2

/-- The entry as it is before its compilation. -/
def reset (entry : Entry) : Entry := { entry with progress := .notStarted }

/-- The entry at the beginning of its compilation. -/
def begin (entry : Entry) : Entry := { entry with progress := .inProgress [] }

/-- The entry with one more reference that was followed during its compilation. -/
def remember (entry : Entry) (reference : String) (target : EntryId) : Entry :=
  match entry.progress with
  | .inProgress refs => { entry with progress := .inProgress (refs.bind reference target) }
  | _ => entry

/-- The entry at the end of its compilation. -/
def finish (entry : Entry) (node : Node) : Entry := { entry with progress := .done node entry.refs }

/-- The entry after a compilation that failed; `marked` if it was the one asked for. -/
def giveUp (entry : Entry) (marked : Bool) : Entry :=
  { entry with progress := if marked then .failed else .notStarted }

end Entry

/-- The entries and the tables that lead to them. -/
structure Store where
  /-- The entry at each place; none at the place of an entry that was removed. -/
  entries : Array (Option Entry) := #[]
  /-- The names that documents were added under. -/
  schemas : Bindings String EntryId := []
  /-- The identifiers of documents. -/
  refs : Bindings String EntryId := []
  /-- The fragments, by document and pointer. -/
  fragments : Bindings (EntryId × String) EntryId := []
  cache : Cache := []

namespace Store

/-- The entry of a name. -/
def entry? (store : Store) (id : EntryId) : Option Entry := (store.entries[id.index]?).join

/-- Whether there is an entry of a name. -/
def isLive (store : Store) (id : EntryId) : Bool := (store.entry? id).isSome

/-- The names of the entries in the order of their places. -/
def live (store : Store) : List EntryId :=
  ((List.range store.entries.size).map EntryId.mk).filter store.isLive

/-- The compiled schemas. -/
def slots (store : Store) : SlotTable := fun id => (store.entry? id).bind (·.progress.node?)

/-- Changes an entry, if there is one of the name. -/
def modify (store : Store) (id : EntryId) (change : Entry → Entry) : Store :=
  { store with entries := store.entries.modify id.index (·.map change) }

/-- Adds an entry that is made from the name it will have. -/
def insert (store : Store) (make : EntryId → Entry) : EntryId × Store :=
  let id : EntryId := ⟨store.entries.size⟩
  (id, { store with entries := store.entries.push (some (make id)) })

/-- The entry of a document, by a name it was added under or else by its identifier. -/
def lookup (store : Store) (name : String) : Option EntryId :=
  (store.schemas.find? name <|> store.refs.find? name).filter store.isLive

/-- Whether a name or an identifier is in use. -/
def isTaken (store : Store) (name : String) : Bool :=
  store.schemas.binds name || store.refs.binds name

/-- The entry of the document that an entry belongs to. -/
def rootEntry? (store : Store) (id : EntryId) : Option Entry :=
  (store.entry? id).bind fun entry => store.entry? entry.root

/-- Whether the document that an entry belongs to is asynchronous. -/
def isAsync (store : Store) (id : EntryId) : Bool :=
  ((store.rootEntry? id).map Entry.isAsync).getD false

/-! ## Resetting -/

/-- The entries that lead to one of `targets` through at most `fuel + 1` references,
    and the targets. -/
def dependents (store : Store) : Nat → List EntryId → List EntryId
  | 0, targets => targets
  | fuel + 1, targets =>
    let next := store.live.filter fun id =>
      !targets.contains id && ((store.entry? id).map (·.refersTo targets)).getD false
    if next.isEmpty then targets else dependents store fuel (targets ++ next)

/-- Resets the given entries and every entry that leads to one of them through the
    references it followed. -/
def invalidate (store : Store) (targets : List EntryId) : Store :=
  (store.dependents store.entries.size targets).foldl (·.modify · Entry.reset) store

/-! ## Removing -/

/-- The entries that go when an entry goes: it and the fragments cut from it. -/
def family (store : Store) (id : EntryId) : List EntryId :=
  id :: ((store.fragments.filter fun f => f.1.1 = id && f.2 ≠ id).map (·.2))

/-- The store without some entries: nothing leads to them any more. -/
def without (store : Store) (gone : List EntryId) : Store where
  entries := gone.foldl (fun entries id => entries.modify id.index fun _ => none) store.entries
  schemas := store.schemas.filter (!gone.contains ·.2)
  refs := store.refs.filter (!gone.contains ·.2)
  fragments := store.fragments.filter fun f => !gone.contains f.1.1 && !gone.contains f.2
  cache := store.cache.filter (!gone.contains ·.2)

/-- Removes an entry, if there is one of the name. -/
def remove (store : Store) (id : EntryId) : Store :=
  if store.isLive id then
    let gone := store.family id
    (store.without gone).invalidate gone
  else store

/-! ## Fragments -/

/-- The entry of the part of a document at a pointer, and whether it was made just now. -/
def fragment (store : Store) (root : EntryId) (base pointer : String) (schema : Value) :
    EntryId × Bool × Store :=
  match (store.fragments.find? (root, pointer)).filter store.isLive with
  | some id => (id, false, store)
  | none =>
    let isMeta := ((store.entry? root).map (·.isMeta)).getD false
    let (id, store) := store.insert fun _ =>
      { id := base, document := schema, isMeta := isMeta, root := root, pointer := pointer }
    (id, true, { store with fragments := store.fragments.bind (root, pointer) id })

end Store

end JsonSchema
