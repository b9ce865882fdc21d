import JsonSchema.Digest.Sha256
import JsonSchema.Json.Writer
import JsonSchema.Node
import JsonSchema.Store.Bindings

/-!
# The cache of documents

A document that was seen before leads back to its entry. Documents are recognised by a
digest of their text, or by identity alone.

* `Document`: a value together with its identity.
* `KeySerializer`: how the cache key of a document is made.
* `Cache`: entries by cache key.
-/

namespace JsonSchema

/-- Which copy of a document it is. -/
inductive Identity where
  /-- A copy that the caller numbers. -/
  | given (number : Nat)
  /-- A copy that the library made. -/
  | made (number : Nat)
  /-- A copy that a load gave. -/
  | loaded (number : Nat)
deriving DecidableEq, Repr

/-- A document. Equal documents can be different copies. -/
structure Document where
  value : Value
  identity : Identity
deriving DecidableEq

/-- What a document is recognised by. -/
inductive CacheKey where
  | digest (hex : String)
  | identity (identity : Identity)
deriving DecidableEq, Repr

/-- How the cache key of a document is made. -/
inductive KeySerializer where
  /-- From the canonical text of the document. -/
  | canonical
  /-- From another text. -/
  | custom (serialize : Value → String)
  /-- From nothing but the identity. -/
  | disabled

namespace KeySerializer

/-- The cache key of a document. -/
def key (serializer : KeySerializer) (document : Document) : CacheKey :=
  match serializer with
  | canonical => .digest (Sha256.hexOfText document.value.canonicalText)
  | custom serialize => .digest (Sha256.hexOfText (serialize document.value))
  | disabled => .identity document.identity

/-- The name of a serializer. -/
def name : KeySerializer → String
  | canonical => "Canonical"
  | custom _ => "Custom(..)"
  | disabled => "Disabled"

end KeySerializer

/-- Entries by cache key. -/
abbrev Cache := Bindings CacheKey EntryId

end JsonSchema
