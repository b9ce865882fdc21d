import JsonSchema.Json.Value

/-!
# Equality of JSON data

Two values are equal as data when they have the same shape and equal scalars, where
`1` and `1.0` are the same number.

* `Value.equiv`: the test, which is what `enum`, `const` and `uniqueItems` use.
-/

namespace JsonSchema.Value

mutual

/-- Equality of data. Objects are compared by name and not by position. -/
def equiv : Value → Value → Bool
  | .number a, .number b => a.sameValue b
  | .array as, .array bs => as.length == bs.length && equivItems as bs
  | .object as, .object bs => as.length == bs.length && equivMembers as bs
  | .null, .null => true
  | .bool a, .bool b => a == b
  | .string a, .string b => a == b
  | _, _ => false

/-- Whether the items are equal, pair by pair, as far as both lists go. -/
def equivItems : List Value → List Value → Bool
  | a :: as, b :: bs => equiv a b && equivItems as bs
  | _, _ => true

/-- Whether every member has an equal one of the same name among `others`. -/
def equivMembers : List (String × Value) → Members → Bool
  | [], _ => true
  | (name, a) :: rest, others =>
    (match others.get? name with
      | some b => equiv a b
      | none => false) && equivMembers rest others

end

end JsonSchema.Value
