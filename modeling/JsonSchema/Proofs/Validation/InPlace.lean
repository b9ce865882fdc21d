import JsonSchema.Proofs.Validation.Verdicts

/-!
# Validations in place

A validation can also be done by writing to one state: the path to the part of the data at hand, the
keyword at hand, a counter of the references that were followed there, and what is said. What is said
while a schema is only tried is taken back. The counter is written to as well, and a validation ends
only if it does not follow references forever: it is bounded by a fuel, which has to be enough.

* `Course`: the state, with the calls that are open and a record of the calls that there were.
* `Course.InPlace`: what is done to it, step by step.
* `Check.inPlace`, `Node.inPlace`, `Validator.inPlace`: validations as they write to the state.
-/

namespace JsonSchema

/-! ## The state -/

/-- A compiled schema while it is applied to data. -/
structure Call where
  part : Part Node
  /-- The counter of references at the beginning. -/
  hops : Nat
  /-- Whether the schema is only tried: the data may be valid although the schema refuses it. -/
  tried : Bool

/-- The beginning or the end of a call: the open calls, the innermost one first, and the counter. -/
structure Moment where
  calls : List Call
  hops : Nat

/-- The state of a validation: the place it is at, what was said, and the calls. -/
structure Course extends Scope where
  violations : Violations := []
  deferred : List DeferredTest := []
  events : List Event := []
  /-- The calls that have begun and not ended, the innermost one first. -/
  calls : List Call := []
  /-- The beginnings and ends of calls, in their order. -/
  moments : List Moment := []

namespace Course

/-- Why a validation breaks off. -/
inductive Break where
  /-- There is no fuel left. -/
  | exhausted
  /-- The counter of references would go below zero. -/
  | underflow

/-- Something that writes to the state of a validation. -/
abbrev InPlace := EStateM Break Course

namespace InPlace

/-! ## Steps -/

/-- Says something about the data at hand. -/
def say (violation : Scope → Violation) : InPlace Unit :=
  modify fun c => { c with violations := c.violations ++ [violation c.toScope] }

/-- What the keyword at hand says about the data at hand. -/
def because (text : String) (params : List (String × Value)) (place : Scope) : Violation :=
  place.violation ⟨text, .ofMembers params⟩

/-- Refuses the data at hand, and says why. -/
def refuse (violation : Scope → Violation) : InPlace Bool := do
  say violation
  return false

/-- Says what there is to object to; without `allErrors` only the first thing. -/
def object (objections : List Objection) : InPlace Bool := do
  let c ← get
  forM (if c.allErrors then objections else objections.take 1) fun objection =>
    say (·.violation objection)
  return objections.isEmpty

/-- Leaves a trace. -/
def trace (event : Event) : InPlace Unit :=
  modify fun c => { c with events := c.events ++ [event] }

/-- Leaves a test for later. -/
def defer (test : DeferredTest) : InPlace Unit :=
  modify fun c => { c with deferred := c.deferred ++ [test] }

/-- Does something one step further into the data, where no reference was followed yet. -/
def descend {α : Type} (step : String) (body : InPlace α) : InPlace α := do
  let before := (← get).hops
  modify fun c => { c with path := step :: c.path, hops := 0 }
  let a ← body
  modify fun c => { c with path := c.path.tail, hops := before }
  return a

/-- Does something behind one more reference. -/
def follow {α : Type} (body : InPlace α) : InPlace α := do
  modify fun c => { c with hops := c.hops + 1 }
  let a ← body
  match (← get).hops with
  | 0 => throw .underflow
  | hops + 1 => modify fun c => { c with hops }
  return a

/-- Does something at a keyword. -/
def within {α : Type} (rule : Rule Check) (body : InPlace α) : InPlace α := do
  let before := (← get).current
  modify fun c => { c with current := some (rule.keyword, rule.schemaPath) }
  let a ← body
  modify fun c => { c with current := before }
  return a

/-- Does something, and takes back what it says and leaves for later if the outcome asks for it. -/
def attempt {α : Type} (back : α → Bool) (body : InPlace α) : InPlace α := do
  let before ← get
  let a ← body
  if back a then
    modify fun c =>
      { c with
        violations := c.violations.take before.violations.length
        deferred := c.deferred.take before.deferred.length }
  return a

/-- Keeps the verdict of something, and nothing of what it says. -/
def test (body : InPlace Bool) : InPlace Bool := attempt (fun _ => true) body

/-- Does something, and says something more if it refuses. -/
def orRefuse (violation : Scope → Violation) (body : InPlace Bool) : InPlace Bool := do
  if ← body then return true else refuse violation

/-- Does something, and says something if it refuses without a word. -/
def explaining (violation : Scope → Violation) (body : InPlace Bool) : InPlace Bool := do
  let before := (← get).violations.length
  let verdict ← body
  let c ← get
  if !verdict && c.violations.length == before then say violation
  return verdict

/-- Does something as a call of a schema. -/
def call (tried : Bool) (part : Part Node) (body : InPlace Bool) : InPlace Bool := do
  modify fun c => { c with calls := { part, hops := c.hops, tried } :: c.calls }
  let log : InPlace Unit :=
    modify fun c => { c with moments := c.moments ++ [{ calls := c.calls, hops := c.hops }] }
  log
  let verdict ← body
  log
  modify fun c => { c with calls := c.calls.tail }
  return verdict

/-! ## Loops -/

/-- Does something with every part; without `allErrors` the first part that refuses is the last. -/
def each {α : Type} (parts : List α) (step : α → InPlace Bool) : InPlace Bool :=
  match parts with
  | [] => return true
  | part :: rest => do
    if ← step part then each rest step
    else
      let c ← get
      if c.allErrors then
        let _ ← each rest step
        return false
      else return false

/-- Whether some part accepts; that part is the last. -/
def seek {α : Type} (parts : List α) (step : α → InPlace Bool) : InPlace Bool :=
  match parts with
  | [] => return false
  | part :: rest => do
    if ← step part then return true else seek rest step

/-- The positions of the parts that accept, from `i` on; with `n` of them there is no other. -/
def gather {α : Type} (n i : Nat) (parts : List α) (step : α → InPlace Bool) : InPlace (List Nat) :=
  match n, parts with
  | 0, _ => return []
  | _, [] => return []
  | n + 1, part :: rest => do
    if ← step part then return i :: (← gather n (i + 1) rest step)
    else gather (n + 1) (i + 1) rest step

end InPlace

end Course

/-! ## Keywords and schemas -/

open Course.InPlace

/-- A compiled keyword as it writes to the state of a validation, given how the schemas that it
    applies do. The flag that goes with a schema says whether it is only tried. -/
def Check.inPlace (apply : Bool → Part Node → Course.InPlace Bool) (check : Check) (data : Value) :
    Course.InPlace Bool :=
  let child (step : String) (schema : Node) (value : Value) : Course.InPlace Bool :=
    descend step (apply false (.below schema value))
  match check, data with
  | .assertion a, data => object (a.objections data)
  | .apply schema, data => apply false (.here schema data)
  | .properties schemas, .object members =>
    each schemas fun s =>
      match Members.get? members s.1 with
      | some value => child s.1 s.2 value
      | none => return true
  | .patternProperties schemas, .object members =>
    each schemas fun s =>
      each (members.filter fun m => s.1.occursIn m.1) fun m => child m.1 s.2 m.2
  | .additionalProperties known patterns schema, .object members =>
    each (extra known patterns members) fun m =>
      if schema.isForbidding then
        descend m.1 <| refuse <| because "should NOT have additional properties"
          [("additionalProperty", .string m.1)]
      else child m.1 schema m.2
  | .propertyNames schema, .object members =>
    each members fun m =>
      orRefuse (because ("property name '" ++ m.1 ++ "' is invalid") [("propertyName", .string m.1)])
        (apply false (.here schema (.string m.1)))
  | .dependencies ds, .object members =>
    each (ds.filter fun d => Members.contains members d.1) fun d =>
      match d.2 with
      | .names names => object (Dependency.objections d.1 names members)
      | .schema schema => apply false (.here schema (.object members))
  | .eachItem schema, .array items => each items.zipIdx fun v => child (toString v.2) schema v.1
  | .tuple schemas, .array items =>
    each (schemas.zip items).zipIdx fun v => child (toString v.2) v.1.1 v.1.2
  | .additionalItems offset schema, .array items =>
    if schema.isForbidding && offset < items.length then
      refuse <| because ("should NOT have more than " ++ toString offset ++ " items")
        [("limit", .ofNat offset)]
    else each (items.zipIdx.drop offset) fun v => child (toString v.2) schema v.1
  | .contains schema, .array items =>
    orRefuse (because "should contain a valid item" []) <|
      seek items.zipIdx fun v => descend (toString v.2) (test (apply true (.below schema v.1)))
  | .allOf schemas, data => each schemas fun schema => apply false (.here schema data)
  | .anyOf schemas, data =>
    orRefuse (because "should match some schema in anyOf" []) <|
      attempt id (seek schemas fun schema => apply true (.here schema data))
  | .oneOf schemas, data => do
    let indices ← attempt (!·.isEmpty) (gather 2 0 schemas fun schema =>
      apply true (.here schema data))
    let refuseAll (shown : Value) : Course.InPlace Bool :=
      refuse (because "should match exactly one schema in oneOf" [("passingSchemas", shown)])
    match indices with
    | [] => refuseAll .null
    | [_] => return true
    | indices => refuseAll (.array (indices.map .ofNat))
  | .not schema, data => do
    if ← test (apply true (.here schema data)) then refuse (because "should NOT be valid" [])
    else return true
  | .conditional condition yes no, data => do
    let holds ← test (apply true (.here condition data))
    let name := if holds then "then" else "else"
    match if holds then yes else no with
    | some schema =>
      orRefuse (because ("should match \"" ++ name ++ "\" schema") [("failingKeyword", .string name)])
        (apply false (.here schema data))
    | none => return true
  | .children schema, data => each data.children fun v => child v.1 schema v.2
  | .verdict schema, data => test (apply true (.here schema data))
  | .predicate run traced, data => do
    if traced then trace (.tested (← get).keyword data)
    return run data
  | .deferred run, data => do
    let c ← get
    defer { keyword := c.keyword, schemaPath := c.schemaPath, dataPath := c.dataPath
            test := run, data }
    return true
  | .probe, data => do
    let c ← get
    trace (.ran c.keyword c.dataPath data)
    return true
  | .remark objection accepted, _ => do
    say (·.violation objection)
    return accepted
  | .beneath steps message, _ =>
    steps.foldr descend <| refuse fun place =>
      place.violation ⟨message, .ofMembers [("path", .string place.dataPath)]⟩
  | _, _ => return true

/-- A reference that cannot be followed. -/
def Course.InPlace.refuseReference (text reference : String) : Course.InPlace Bool :=
  refuse fun place =>
    { keyword := "$ref"
      dataPath := place.dataPath
      schemaPath := "#"
      message := text ++ " " ++ reference
      params := .ofMembers [("ref", .string reference)] }

/-- A compiled schema as it writes to the state of a validation, with some fuel. -/
def Node.inPlace (table : SlotTable) : Nat → Bool → Part Node → Course.InPlace Bool
  | 0, _, _ => throw .exhausted
  | fuel + 1, tried, part => call tried part <|
    match part.schema with
    | .always true => return true
    | .always false => refuse fun place =>
        { keyword := "false schema"
          dataPath := place.dataPath
          schemaPath := place.schemaPath
          message := "boolean schema is false"
          params := .ofMembers [] }
    | .ref target reference => do
      if maxHops ≤ (← get).hops then
        refuseReference "maximum reference depth exceeded at" reference
      else
        match table target with
        | some schema => follow (Node.inPlace table fuel false (.follow schema part.data))
        | none => refuseReference "can't resolve reference" reference
    | .rules rs => each rs fun rule =>
        if rule.appliesTo part.data then
          within rule <| explaining
            (because ("should pass \"" ++ rule.keyword ++ "\" keyword validation")
              [("keyword", .string rule.keyword)])
            (rule.check.inPlace (Node.inPlace table fuel) part.data)
        else return true

/-- A validation as it writes to a state that has nothing in it yet. -/
def Validator.inPlace (validator : Validator) (table : SlotTable) (fuel : Nat) (data : Value) :
    EStateM.Result Course.Break Course Bool :=
  Node.inPlace table fuel false (.here (.ref validator.entry "#") data)
    { allErrors := validator.allErrors }

end JsonSchema
