/-!
# Bindings

A finite map as a list of pairs with each key once, in the order in which the keys were
first bound.
-/

namespace JsonSchema

/-- A finite map. -/
abbrev Bindings (α β : Type) := List (α × β)

namespace Bindings

variable {α β : Type} [DecidableEq α]

/-- What a key is bound to. -/
def find? (bindings : Bindings α β) (key : α) : Option β :=
  match bindings with
  | [] => none
  | (k, value) :: rest => if k = key then some value else find? rest key

/-- Whether a key is bound. -/
def binds (bindings : Bindings α β) (key : α) : Bool := (find? bindings key).isSome

/-- Binds a key, in place of what it was bound to. -/
def bind (bindings : Bindings α β) (key : α) (value : β) : Bindings α β :=
  match bindings with
  | [] => [(key, value)]
  | (k, old) :: rest => if k = key then (k, value) :: rest else (k, old) :: bind rest key value

/-- The bindings without the one of a key. -/
def unbind (bindings : Bindings α β) (key : α) : Bindings α β := bindings.filter (·.1 ≠ key)

/-- The bindings without those to a value. -/
def unbindValue [DecidableEq β] (bindings : Bindings α β) (value : β) : Bindings α β :=
  bindings.filter (·.2 ≠ value)

end Bindings

end JsonSchema
