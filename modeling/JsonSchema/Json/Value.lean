import JsonSchema.Number

/-!
# JSON values

An object is a list of members; every function that builds one keeps the names
strictly ascending by code point, which is also the order of their UTF-8 bytes.
Walking a value therefore always walks the members of an object in that order.

* `Value`: a JSON value.
* `Members`: the list behind an object, with `get?`, `insert` and `ofList`.
* `Value.Sorted`: the names of every object inside a value are strictly ascending.
-/

namespace JsonSchema

/-- A JSON value. -/
inductive Value where
  | null
  | bool (value : Bool)
  | number (value : Number)
  | string (value : String)
  | array (items : List Value)
  | object (members : List (String × Value))

instance : Inhabited Value := ⟨.null⟩

/-- The members of an object. -/
abbrev Members := List (String × Value)

namespace Members

/-- The value of a member. -/
def get? (members : Members) (name : String) : Option Value :=
  match members with
  | [] => none
  | (key, value) :: rest => if key = name then some value else get? rest name

/-- Whether there is a member of this name. -/
def contains (members : Members) (name : String) : Bool := (members.get? name).isSome

/-- The names of the members. -/
def names (members : Members) : List String := members.map (·.1)

/-- Puts a member in its place, over a member of the same name. -/
def insert (members : Members) (name : String) (value : Value) : Members :=
  match members with
  | [] => [(name, value)]
  | (key, old) :: rest =>
    if name < key then (name, value) :: (key, old) :: rest
    else if name = key then (name, value) :: rest
    else (key, old) :: insert rest name value

/-- The members of a list in ascending order; of two with one name the later counts. -/
def ofList (members : List (String × Value)) : Members :=
  members.foldl (fun acc (name, value) => acc.insert name value) []

/-- The value of a member is in the list with its name. -/
theorem mem_of_get? {members : Members} {name : String} {value : Value}
    (h : members.get? name = some value) : (name, value) ∈ members := by
  induction members with
  | nil => simp [get?] at h
  | cons a rest ih =>
    obtain ⟨key, old⟩ := a
    by_cases e : key = name
    · simp_all [get?]
    · simp only [get?, e, ite_false] at h
      exact List.mem_cons_of_mem _ (ih h)

/-- The members without the one of this name. -/
def erase (members : Members) (name : String) : Members := members.filter (·.1 ≠ name)

end Members

namespace Value

/-- The object with these members, in any order. -/
def ofMembers (members : List (String × Value)) : Value := .object (Members.ofList members)

/-- A natural number as a value. -/
def ofNat (n : Nat) : Value := .number (.ofNat n)

/-- A list of strings as a value. -/
def ofStrings (texts : List String) : Value := .array (texts.map .string)

/-- The members of an object. -/
def asObject? : Value → Option Members
  | .object members => some members
  | _ => none

/-- The items of an array. -/
def asArray? : Value → Option (List Value)
  | .array items => some items
  | _ => none

/-- The text of a string. -/
def asString? : Value → Option String
  | .string text => some text
  | _ => none

/-- The truth value of a boolean. -/
def asBool? : Value → Option Bool
  | .bool value => some value
  | _ => none

/-- The number of a number. -/
def asNumber? : Value → Option Number
  | .number n => some n
  | _ => none

/-- A member of an object; none of any other value. -/
def member? (value : Value) (name : String) : Option Value :=
  value.asObject?.bind (·.get? name)

/-! ## Size and equality -/

mutual

/-- A measure that is smaller for every item and member, and least for a scalar. -/
def weight : Value → Nat
  | .null => 1
  | .bool _ => 1
  | .number _ => 1
  | .string _ => 1
  | .array items => 1 + itemsWeight items
  | .object members => 1 + membersWeight members

/-- The sum of the weights of the items, each counted once more. -/
def itemsWeight : List Value → Nat
  | [] => 0
  | item :: rest => 1 + weight item + itemsWeight rest

/-- The sum of the weights of the members, each counted once more. -/
def membersWeight : List (String × Value) → Nat
  | [] => 0
  | (_, value) :: rest => 1 + weight value + membersWeight rest

end

/-- An item weighs less than its array. -/
theorem weight_lt_of_mem_items {items : List Value} {item : Value} (h : item ∈ items) :
    item.weight < (array items).weight := by
  simp only [weight]
  induction items with
  | nil => simp at h
  | cons a rest ih =>
    simp only [itemsWeight]
    rcases List.mem_cons.1 h with rfl | h
    · omega
    · have := ih h
      omega

/-- A member weighs less than its object. -/
theorem weight_lt_of_mem_members {members : Members} {name : String} {value : Value}
    (h : (name, value) ∈ members) : value.weight < (object members).weight := by
  simp only [weight]
  induction members with
  | nil => simp at h
  | cons a rest ih =>
    obtain ⟨key, old⟩ := a
    simp only [membersWeight]
    rcases List.mem_cons.1 h with e | h
    · cases e
      omega
    · have := ih h
      omega

/-- Every value has weight. -/
theorem weight_pos (value : Value) : 0 < value.weight := by
  cases value <;> simp only [weight] <;> omega

mutual

/-- Structural equality. -/
def same : Value → Value → Bool
  | .null, .null => true
  | .bool a, .bool b => a == b
  | .number a, .number b => a == b
  | .string a, .string b => a == b
  | .array a, .array b => sameItems a b
  | .object a, .object b => sameMembers a b
  | _, _ => false

/-- Structural equality, item by item. -/
def sameItems : List Value → List Value → Bool
  | [], [] => true
  | a :: as, b :: bs => same a b && sameItems as bs
  | _, _ => false

/-- Structural equality, member by member. -/
def sameMembers : List (String × Value) → List (String × Value) → Bool
  | [], [] => true
  | (k, a) :: as, (l, b) :: bs => k == l && same a b && sameMembers as bs
  | _, _ => false

end

mutual

/-- `same` decides equality. -/
theorem same_iff (a b : Value) : same a b = true ↔ a = b := by
  match a, b with
  | .null, b => cases b <;> simp [same]
  | .bool _, b => cases b <;> simp [same]
  | .number _, b => cases b <;> simp [same]
  | .string _, b => cases b <;> simp [same]
  | .array as, b => cases b <;> simp [same, sameItems_iff as]
  | .object as, b => cases b <;> simp [same, sameMembers_iff as]

/-- `sameItems` decides equality. -/
theorem sameItems_iff (as bs : List Value) : sameItems as bs = true ↔ as = bs := by
  match as, bs with
  | [], [] => simp [sameItems]
  | [], _ :: _ => simp [sameItems]
  | _ :: _, [] => simp [sameItems]
  | a :: as, b :: bs => simp [sameItems, same_iff a b, sameItems_iff as bs]

/-- `sameMembers` decides equality. -/
theorem sameMembers_iff (as bs : List (String × Value)) :
    sameMembers as bs = true ↔ as = bs := by
  match as, bs with
  | [], [] => simp [sameMembers]
  | [], _ :: _ => simp [sameMembers]
  | _ :: _, [] => simp [sameMembers]
  | (k, a) :: as, (l, b) :: bs =>
    simp [sameMembers, same_iff a b, sameMembers_iff as bs]

end

instance : DecidableEq Value := fun a b =>
  if h : same a b = true then .isTrue ((same_iff a b).1 h)
  else .isFalse fun e => h ((same_iff a b).2 e)

mutual

/-- The names of every object inside the value are strictly ascending. -/
def Sorted : Value → Prop
  | .array items => SortedItems items
  | .object members => SortedMembers members ∧ (Members.names members).Pairwise (· < ·)
  | _ => True

/-- Every item is sorted. -/
def SortedItems : List Value → Prop
  | [] => True
  | item :: rest => Sorted item ∧ SortedItems rest

/-- The value of every member is sorted. -/
def SortedMembers : List (String × Value) → Prop
  | [] => True
  | (_, value) :: rest => Sorted value ∧ SortedMembers rest

end

end Value

end JsonSchema
