import JsonSchema.Error
import JsonSchema.Store.Cache

/-!
# Shared loads

Callers that want the same document share one load. A caller requests a document, waits
until the load is over, and collects what came of it. The first request for a document
starts a load; a load that failed is forgotten when a caller collects it.

* `Fetcher`: the loads and which of them new requests share.
* `Fetcher.request`, `Fetcher.complete`, `Fetcher.collect`: the steps of callers and loads.
-/

namespace JsonSchema

/-- How far a load is. -/
inductive Load where
  | running
  | loaded (document : Document)
  | failed (message : String)
deriving DecidableEq

/-- What a caller waits for: a document, and the number of the load that shall give it. -/
structure Ticket where
  uri : String
  load : Nat
deriving DecidableEq, Repr

/-- The loads so far, and for each document the load that a new request shares. -/
structure Fetcher where
  loads : Array Load := #[]
  shared : Bindings String Nat := []

namespace Fetcher

/-- Requests a document. The flag says whether that starts a load. -/
def request (fetcher : Fetcher) (uri : String) : Ticket × Bool × Fetcher :=
  match fetcher.shared.find? uri with
  | some load => ({ uri, load }, false, fetcher)
  | none =>
    let load := fetcher.loads.size
    ({ uri, load }, true,
      { loads := fetcher.loads.push .running, shared := fetcher.shared.bind uri load })

/-- Ends the load of a ticket with a document or an error. -/
def complete (fetcher : Fetcher) (ticket : Ticket) (result : Except SchemaError Value) :
    Fetcher :=
  let outcome :=
    match result with
    | .ok value => Load.loaded { value, identity := .loaded ticket.load }
    | .error e => .failed e.message
  { fetcher with loads := fetcher.loads.setIfInBounds ticket.load outcome }

/-- What came of the load of a ticket; nothing while it is running. A failure is reported
    and the load no longer shared. -/
def collect (fetcher : Fetcher) (ticket : Ticket) :
    Option (Except SchemaError Document × Fetcher) :=
  match fetcher.loads[ticket.load]? with
  | some (.loaded document) => some (.ok document, fetcher)
  | some (.failed message) =>
    some (.error (.load ticket.uri (.refused message)),
      { fetcher with shared := fetcher.shared.unbind ticket.uri })
  | _ => none

end Fetcher

end JsonSchema
