import JsonSchema.Validation.Report

/-!
# Applying a compiled schema

A compiled schema is applied to data under a table that gives the schemas of the entries
it refers to. Every step goes into a smaller part of the data, or follows one of at most
`maxHops` references in a row, or goes into a smaller part of the schema; so it ends under
every table, one with reference loops included.

* `SlotTable`: the compiled schemas of entries.
* `Node.run`, `Check.run`: the report of a compiled schema and of a compiled keyword.
-/

namespace JsonSchema

/-- The compiled schemas of entries; none of an entry that is not compiled. -/
abbrev SlotTable := EntryId → Option Node

/-- How many references may be followed in a row at one place of the data. -/
def maxHops : Nat := 512

namespace Scope

/-- The report of a reference that cannot be followed. -/
def brokenReference (scope : Scope) (text reference : String) : Report :=
  .fail
    { keyword := "$ref"
      dataPath := scope.dataPath
      schemaPath := "#"
      message := text ++ " " ++ reference
      params := .ofMembers [("ref", .string reference)] }

/-- The report of the schema that accepts nothing. -/
def forbidden (scope : Scope) : Report :=
  .fail
    { keyword := "false schema"
      dataPath := scope.dataPath
      schemaPath := scope.schemaPath
      message := "boolean schema is false"
      params := .ofMembers [] }

/-- The report of the keyword at hand, in which it says something if it refuses. -/
def explain (scope : Scope) (report : Report) : Report :=
  if !report.valid && report.violations.isEmpty then
    report.refuse (scope.violation
      ⟨"should pass \"" ++ scope.keyword ++ "\" keyword validation",
        .ofMembers [("keyword", .string scope.keyword)]⟩)
  else report

end Scope

namespace Report

/-- The report of an array of which some item has to be valid, from the reports of items
    up to the first valid one. -/
def ofContains (scope : Scope) (reports : List Report) : Report :=
  if reports.any (·.valid) then .traces true reports
  else
    (traces false reports).refuse (scope.violation ⟨"should contain a valid item", .ofMembers []⟩)

/-- The report of alternatives, from the reports up to the first valid one. What refused
    alternatives say counts only if all of them refuse. -/
def ofAnyOf (scope : Scope) (reports : List Report) : Report :=
  if reports.any (·.valid) then .traces true reports
  else
    (concat reports).refuse
      (scope.violation ⟨"should match some schema in anyOf", .ofMembers []⟩)

/-- The positions of the valid reports. -/
def passing (reports : List Report) : List Nat := (reports.zipIdx.filter (·.1.valid)).map (·.2)

/-- The report of alternatives that exclude each other, from the reports up to the second
    valid one. What refused alternatives say counts only if all of them refuse. -/
def ofOneOf (scope : Scope) (reports : List Report) : Report :=
  let violation (indices : Value) : Violation :=
    scope.violation
      ⟨"should match exactly one schema in oneOf", .ofMembers [("passingSchemas", indices)]⟩
  match passing reports with
  | [] => (concat reports).refuse (violation .null)
  | [_] => traces true reports
  | indices => (traces false reports).refuse (violation (.array (indices.map .ofNat)))

/-- The report of a schema that must not hold. -/
def ofNot (scope : Scope) (report : Report) : Report :=
  if report.valid then
    report.discard.refuse (scope.violation ⟨"should NOT be valid", .ofMembers []⟩)
  else { report.discard with valid := true }

/-- The report of the branch `name` that a condition leads to. -/
def ofBranch (scope : Scope) (condition : Report) (name : String) (report : Report) : Report :=
  let joined := { condition.discard with valid := true } ++ report
  if report.valid then joined
  else
    joined.refuse (scope.violation
      ⟨"should match \"" ++ name ++ "\" schema",
        .ofMembers [("failingKeyword", .string name)]⟩)

/-- The report of the name of a property. -/
def ofName (scope : Scope) (name : String) (report : Report) : Report :=
  if report.valid then report
  else
    report.refuse (scope.violation
      ⟨"property name '" ++ name ++ "' is invalid", .ofMembers [("propertyName", .string name)]⟩)

end Report

/-- Whether a schema is the one that accepts nothing. -/
def Node.isForbidding : Node → Bool
  | always false => true
  | _ => false

/-- The parts of a value, with the steps that lead to them. -/
def Value.children : Value → List (String × Value)
  | array items => items.zipIdx.map fun (item, i) => (toString i, item)
  | object members => members
  | _ => []

namespace Dependency

/-- What is said when names that have to stand beside a property are missing. -/
def objections (property : String) (names : List String) (members : Members) :
    List Objection :=
  (names.filter (!Members.contains members ·)).map fun name =>
    ⟨"should have property " ++ name ++ " when property " ++ property ++ " is present",
      .ofMembers
        [("property", .string property), ("missingProperty", .string name),
         ("depsCount", .ofNat names.length), ("deps", .string (", ".intercalate names))]⟩

end Dependency

/-! ## Measures -/

namespace Value

theorem weight_lt_of_get? {members : Members} {name : String} {value : Value}
    (h : Members.get? members name = some value) : value.weight < (object members).weight :=
  weight_lt_of_mem_members (Members.mem_of_get? h)

theorem weight_lt_of_mem_zipIdx {items : List Value} {item : Value} {i : Nat}
    (h : (item, i) ∈ items.zipIdx) : item.weight < (array items).weight :=
  weight_lt_of_mem_items (List.fst_mem_of_mem_zipIdx h)

theorem weight_lt_of_mem_drop_zipIdx {items : List Value} {item : Value} {i offset : Nat}
    (h : (item, i) ∈ items.zipIdx.drop offset) : item.weight < (array items).weight :=
  weight_lt_of_mem_zipIdx (List.mem_of_mem_drop h)

theorem weight_lt_of_mem_zip_zipIdx {α : Type} {schemas : List α} {items : List Value} {s : α}
    {item : Value} {i : Nat} (h : ((s, item), i) ∈ (schemas.zip items).zipIdx) :
    item.weight < (array items).weight :=
  weight_lt_of_mem_items (List.of_mem_zip (List.fst_mem_of_mem_zipIdx h)).2

theorem weight_lt_of_mem_children {data part : Value} {step : String}
    (h : (step, part) ∈ data.children) : part.weight < data.weight := by
  cases data with
  | array items =>
    simp only [children, List.mem_map] at h
    obtain ⟨⟨item, i⟩, hm, e⟩ := h
    cases e
    exact weight_lt_of_mem_zipIdx hm
  | object members => exact weight_lt_of_mem_members h
  | _ => simp [children] at h

/-- The name of a member weighs less than its object. -/
theorem weight_string_lt {members : Members} {name : String} {value : Value}
    (h : (name, value) ∈ members) (text : String) :
    (string text).weight < (object members).weight :=
  Nat.lt_of_le_of_lt (show 1 ≤ value.weight from value.weight_pos) (weight_lt_of_mem_members h)

end Value

theorem sizeOf_snd_lt_of_mem {α β : Type} [SizeOf α] [SizeOf β] {pairs : List (α × β)} {a : α}
    {b : β} (h : (a, b) ∈ pairs) : sizeOf b < sizeOf pairs := by
  have := List.sizeOf_lt_of_mem h
  simp only [Prod.mk.sizeOf_spec] at this
  omega

theorem sizeOf_schema_lt_of_mem {pairs : List (String × Dependency Node)} {name : String}
    {schema : Node} (h : (name, Dependency.schema schema) ∈ pairs) :
    sizeOf schema < sizeOf pairs := by
  have := sizeOf_snd_lt_of_mem h
  simp only [Dependency.schema.sizeOf_spec] at this
  omega

theorem sizeOf_check_lt_of_mem {rules : List (Rule Check)} {rule : Rule Check}
    (h : rule ∈ rules) : sizeOf rule.check < sizeOf rules := by
  have := List.sizeOf_lt_of_mem h
  obtain ⟨k, p, t, c⟩ := rule
  simp only [Rule.mk.sizeOf_spec] at this
  simp only
  omega

/-! ## Reports of schemas and keywords -/

mutual

/-- The report of a compiled schema. -/
def Node.run (table : SlotTable) (node : Node) (data : Value) (scope : Scope) : Report :=
  match node with
  | .always true => .pass
  | .always false => scope.forbidden
  | .ref target reference =>
    if _ : scope.hops < maxHops then
      match table target with
      | some schema => Node.run table schema data scope.hop
      | none => scope.brokenReference "can't resolve reference" reference
    else scope.brokenReference "maximum reference depth exceeded at" reference
  | .rules rules =>
    .all scope.allErrors rules.attach fun ⟨rule, _⟩ =>
      if rule.appliesTo data then
        (scope.within rule).explain (Check.run table rule.check data (scope.within rule))
      else .pass
termination_by (data.weight, maxHops - scope.hops, sizeOf node)
decreasing_by
  · exact Prod.Lex.right _ (Prod.Lex.left _ _ (by simp only [Scope.hop]; omega))
  · refine Prod.Lex.right _ (Prod.Lex.right _ ?_)
    have := sizeOf_check_lt_of_mem ‹rule ∈ rules›
    simp only [Node.rules.sizeOf_spec]
    omega

/-- The report of a compiled keyword. -/
def Check.run (table : SlotTable) (check : Check) (data : Value) (scope : Scope) : Report :=
  match check with
  | .assertion assertion => .ofObjections scope (assertion.objections data)
  | .apply schema => Node.run table schema data scope
  | .properties schemas =>
    match data with
    | .object members =>
      .all scope.allErrors schemas.attach fun ⟨(name, schema), _⟩ =>
        match _h : Members.get? members name with
        | some value => Node.run table schema value (scope.below name)
        | none => .pass
    | _ => .pass
  | .patternProperties schemas =>
    match data with
    | .object members =>
      .all scope.allErrors schemas.attach fun ⟨(pattern, schema), _⟩ =>
        .all scope.allErrors (members.attach.filter fun m => pattern.occursIn m.1.1)
          fun ⟨(name, value), _⟩ => Node.run table schema value (scope.below name)
    | _ => .pass
  | .additionalProperties known patterns schema =>
    match data with
    | .object members =>
      let extra := members.attach.filter fun m =>
        !known.contains m.1.1 && !patterns.any fun p => p.occursIn m.1.1
      .all scope.allErrors extra fun ⟨(name, value), _⟩ =>
        if schema.isForbidding then
          .fail ((scope.below name).violation
            ⟨"should NOT have additional properties",
              .ofMembers [("additionalProperty", .string name)]⟩)
        else Node.run table schema value (scope.below name)
    | _ => .pass
  | .propertyNames schema =>
    match data with
    | .object members =>
      .all scope.allErrors members.attach fun ⟨(name, _), _⟩ =>
        .ofName scope name (Node.run table schema (.string name) scope)
    | _ => .pass
  | .dependencies dependencies =>
    match data with
    | .object members =>
      let present := dependencies.attach.filter fun d => Members.contains members d.1.1
      .all scope.allErrors present fun ⟨(property, dependency), _⟩ =>
        match dependency with
        | .names names => .ofObjections scope (Dependency.objections property names members)
        | .schema schema => Node.run table schema (.object members) scope
    | _ => .pass
  | .eachItem schema =>
    match data with
    | .array items =>
      .all scope.allErrors items.zipIdx.attach fun ⟨(item, i), _⟩ =>
        Node.run table schema item (scope.below (toString i))
    | _ => .pass
  | .tuple schemas =>
    match data with
    | .array items =>
      .all scope.allErrors (schemas.zip items).zipIdx.attach fun ⟨((schema, item), i), _⟩ =>
        Node.run table schema item (scope.below (toString i))
    | _ => .pass
  | .additionalItems offset schema =>
    match data with
    | .array items =>
      if schema.isForbidding && offset < items.length then
        .fail (scope.violation
          ⟨"should NOT have more than " ++ toString offset ++ " items",
            .ofMembers [("limit", .ofNat offset)]⟩)
      else
        .all scope.allErrors (items.zipIdx.drop offset).attach fun ⟨(item, i), _⟩ =>
          Node.run table schema item (scope.below (toString i))
    | _ => .pass
  | .contains schema =>
    match data with
    | .array items =>
      .ofContains scope <| Report.runUntil (·.valid) 1 items.zipIdx.attach fun ⟨(item, i), _⟩ =>
        Node.run table schema item (scope.below (toString i))
    | _ => .pass
  | .allOf schemas =>
    .all scope.allErrors schemas.attach fun ⟨schema, _⟩ => Node.run table schema data scope
  | .anyOf schemas =>
    .ofAnyOf scope <| Report.runUntil (·.valid) 1 schemas.attach fun ⟨schema, _⟩ =>
      Node.run table schema data scope
  | .oneOf schemas =>
    .ofOneOf scope <| Report.runUntil (·.valid) 2 schemas.attach fun ⟨schema, _⟩ =>
      Node.run table schema data scope
  | .not schema => .ofNot scope (Node.run table schema data scope)
  | .conditional condition yes no =>
    let test := Node.run table condition data scope
    if test.valid then
      match yes with
      | some schema => .ofBranch scope test "then" (Node.run table schema data scope)
      | none => test.discard
    else
      match no with
      | some schema => .ofBranch scope test "else" (Node.run table schema data scope)
      | none => { test.discard with valid := true }
  | .children schema =>
    .all scope.allErrors data.children.attach fun ⟨(step, part), _⟩ =>
      Node.run table schema part (scope.below step)
  | .verdict schema => (Node.run table schema data scope).discard
  | .predicate test traced =>
    { valid := test data, events := if traced then [.tested scope.keyword data] else [] }
  | .deferred test =>
    let (keyword, schemaPath) := (scope.keyword, scope.schemaPath)
    { valid := true
      deferred := [{ keyword, schemaPath, dataPath := scope.dataPath, test, data }] }
  | .probe => { valid := true, events := [.ran scope.keyword scope.dataPath data] }
  | .remark objection verdict =>
    { valid := verdict, violations := [scope.violation objection] }
  | .beneath steps message =>
    let place := steps.foldl Scope.below scope
    .fail (place.violation ⟨message, .ofMembers [("path", .string place.dataPath)]⟩)
termination_by (data.weight, maxHops - scope.hops, sizeOf check)
decreasing_by
  · exact .right _ (.right _ (by simp))
  · exact .left _ _ (Value.weight_lt_of_get? ‹_›)
  · exact .left _ _ (Value.weight_lt_of_mem_members ‹_›)
  · exact .left _ _ (Value.weight_lt_of_mem_members ‹_›)
  · exact .left _ _ (Value.weight_string_lt ‹_› _)
  · refine .right _ (.right _ ?_)
    have := sizeOf_schema_lt_of_mem ‹(_, Dependency.schema _) ∈ dependencies›
    simp only [Check.dependencies.sizeOf_spec]
    omega
  · exact .left _ _ (Value.weight_lt_of_mem_zipIdx ‹_›)
  · exact .left _ _ (Value.weight_lt_of_mem_zip_zipIdx ‹_›)
  · exact .left _ _ (Value.weight_lt_of_mem_drop_zipIdx ‹_›)
  · exact .left _ _ (Value.weight_lt_of_mem_zipIdx ‹_›)
  · exact .right _ (.right _ (by have := List.sizeOf_lt_of_mem ‹_ ∈ _›; simp; omega))
  · exact .right _ (.right _ (by have := List.sizeOf_lt_of_mem ‹_ ∈ _›; simp; omega))
  · exact .right _ (.right _ (by have := List.sizeOf_lt_of_mem ‹_ ∈ _›; simp; omega))
  · exact .right _ (.right _ (by simp))
  · exact .right _ (.right _ (by simp; omega))
  · exact .right _ (.right _ (by simp; omega))
  · exact .right _ (.right _ (by simp; omega))
  · exact .left _ _ (Value.weight_lt_of_mem_children ‹_›)
  · exact .right _ (.right _ (by simp))

end

end JsonSchema
