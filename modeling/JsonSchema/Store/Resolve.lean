import JsonSchema.Pointer
import JsonSchema.Reference
import JsonSchema.Store

/-!
# Resolving references

An absolute reference denotes a document or a part of one. Identifiers that are declared
inside the document that makes the reference come before registered ones.

* `Value.follow?`: the part of a document at the end of some steps, with its base.
* `Store.resolve`: what a reference denotes.
-/

namespace JsonSchema

/-- The base of the parts of a value: an identifier of the value that is no anchor
    changes it. -/
def Value.baseOf (value : Value) (base : String) : String :=
  match value.member? "$id" with
  | some (.string id) => if id.startsWith "#" then base else documentPart (resolveUrl base id)
  | _ => base

/-- The part of a value at the end of some steps and the base there. The identifiers on
    the way count, those of the value itself and of the part do not. -/
def Value.follow? (value : Value) (base : String) : List String → Option (Value × String)
  | [] => some (value, base)
  | [segment] => (value.step? segment).map (·, base)
  | segment :: rest =>
    (value.step? segment).bind fun part => part.follow? (part.baseOf base) rest

/-- What a reference denotes. -/
inductive Resolved where
  /-- A whole document. -/
  | entry (id : EntryId)
  /-- A part of the document of `root`; `base` is the base there, without its own
      identifier. -/
  | fragment (root : EntryId) (base pointer : String) (schema : Value)
  /-- Nothing that is known. -/
  | missing

namespace Store

/-- The document that a reference from inside the document `owner` leads to, and the
    pointer to the place in it that the document part of the reference names. -/
def targetOf? (store : Store) (owner : EntryId) (entry : Entry) (document : String) :
    Option (EntryId × String) :=
  if document = entry.id then some (owner, "")
  else
    match entry.localRefs.find? document with
    | some pointer => some (owner, pointer)
    | none =>
      (store.lookup document).map fun found =>
        (((store.entry? found).map (·.root)).getD found, "")

/-- The pointer to the place that a fragment names, from the place that the document part
    of the reference names. A fragment is empty, or a pointer, or an anchor. -/
def pointerOf? (target : Entry) (start document fragment : String) : Option String :=
  if fragment.isEmpty then some start
  else if fragment.startsWith "/" then some (start ++ fragment)
  else target.localRefs.find? (document ++ "#" ++ fragment)

/-- What an absolute reference made inside an entry denotes. -/
def resolve (store : Store) (source : EntryId) (reference : String) : Resolved :=
  let document := documentPart reference
  let found? : Option Resolved := do
    let owner := (← store.entry? source).root
    let (id, start) ← store.targetOf? owner (← store.entry? owner) document
    let target ← store.entry? id
    let pointer ← pointerOf? target start document (fragmentPart reference)
    if pointer.isEmpty then return .entry id
    let (schema, base) ← target.document.follow? target.id (← Pointer.segments? pointer)
    return .fragment id base pointer schema
  found?.getD .missing

end Store

end JsonSchema
