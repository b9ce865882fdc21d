import JsonSchema.Validation.Run

/-!
# Parts of compiled schemas

A compiled schema is applied to a part of the data, or follows one more reference, or applies
one of its parts: this is the induction behind everything that is proved of reports.

* `Check.parts`: the schemas that a keyword applies.
* `Node.Contains`: the parts of a compiled schema, at any depth.
* `Node.induction`, `Node.run_induction`: induction along the application of a compiled schema.
-/

namespace JsonSchema

/-- The schemas that a keyword applies. -/
def Check.parts : Check → List Node
  | .assertion _ | .predicate _ _ | .deferred _ | .probe | .remark _ _ | .beneath _ _ => []
  | .apply schema | .additionalProperties _ _ schema | .propertyNames schema | .eachItem schema
  | .additionalItems _ schema | .contains schema | .not schema | .children schema
  | .verdict schema => [schema]
  | .properties schemas => schemas.map (·.2)
  | .patternProperties schemas => schemas.map (·.2)
  | .dependencies ds => ds.filterMap fun d =>
      match d.2 with
      | .names _ => none
      | .schema schema => some schema
  | .tuple schemas | .allOf schemas | .anyOf schemas | .oneOf schemas => schemas
  | .conditional condition yes no => condition :: (yes.toList ++ no.toList)

theorem Check.mem_parts_dependencies {ds : List (String × Dependency Node)} {schema : Node} :
    schema ∈ (Check.dependencies ds).parts ↔
      ∃ property, (property, Dependency.schema schema) ∈ ds := by
  simp only [parts, List.mem_filterMap]
  constructor
  · rintro ⟨⟨property, d⟩, mem, h⟩
    cases d with
    | names => cases h
    | schema s =>
      cases h
      exact ⟨property, mem⟩
  · rintro ⟨property, mem⟩
    exact ⟨_, mem, rfl⟩

theorem Check.sizeOf_lt_of_mem_parts {check : Check} {part : Node} (h : part ∈ check.parts) :
    sizeOf part < sizeOf check := by
  cases check with
  | properties schemas | patternProperties schemas =>
    obtain ⟨⟨_, node⟩, mem, rfl⟩ := List.mem_map.1 h
    have := sizeOf_snd_lt_of_mem mem
    simp
    omega
  | dependencies ds =>
    obtain ⟨property, mem⟩ := Check.mem_parts_dependencies.1 h
    have := sizeOf_schema_lt_of_mem mem
    simp
    omega
  | tuple schemas | allOf schemas | anyOf schemas | oneOf schemas =>
    have := List.sizeOf_lt_of_mem (show part ∈ schemas from h)
    simp
    omega
  | conditional condition yes no =>
    cases yes <;> cases no <;> simp [parts] at h ⊢ <;> rcases h with rfl | h <;>
      first | omega | (rcases h with rfl | rfl <;> omega)
  | _ =>
    simp only [parts, List.mem_singleton, List.not_mem_nil] at h
    try subst h
    try simp
    try omega

namespace Node

/-- A compiled schema occurs in another one. -/
inductive Contains : Node → Node → Prop
  | self (node : Node) : Contains node node
  | part {rules : List (Rule Check)} {rule : Rule Check} {part node : Node} (mem : rule ∈ rules)
      (of : part ∈ rule.check.parts) (inner : Contains part node) : Contains (.rules rules) node

theorem sizeOf_lt_of_mem_parts {rules : List (Rule Check)} {rule : Rule Check}
    (mem : rule ∈ rules) {part : Node} (of : part ∈ rule.check.parts) :
    sizeOf part < sizeOf (Node.rules rules) := by
  have := sizeOf_check_lt_of_mem mem
  have := Check.sizeOf_lt_of_mem_parts of
  simp
  omega

/-- Induction along the application of a compiled schema: to the parts of the data under any
    schema, to the same data with one more reference followed, and to the same data under the
    parts of the schema. -/
theorem induction {P : Node → Value → Nat → Prop}
    (always : ∀ verdict data hops, P (.always verdict) data hops)
    (ref : ∀ target reference data hops,
      (hops < maxHops → ∀ schema, P schema data (hops + 1)) → P (.ref target reference) data hops)
    (rules : ∀ rules data hops,
      (∀ rule ∈ rules, ∀ part ∈ rule.check.parts, P part data hops) →
      (∀ part value n, Value.weight value < data.weight → P part value n) →
      P (.rules rules) data hops)
    (node : Node) (data : Value) (hops : Nat) : P node data hops := by
  cases node with
  | always verdict => exact always verdict data hops
  | ref target reference =>
    exact ref target reference data hops fun hop schema =>
      induction always ref rules schema data (hops + 1)
  | rules rs =>
    exact rules rs data hops
      (fun rule mem part of => induction always ref rules part data hops)
      fun part value n lt => induction always ref rules part value n
termination_by (data.weight, maxHops - hops, sizeOf node)
decreasing_by
  · exact .right _ (.left _ _ (by omega))
  · exact .right _ (.right _ (sizeOf_lt_of_mem_parts mem of))
  · exact .left _ _ lt

/-- The same induction at the places where a compiled schema is applied. -/
theorem run_induction {P : Node → Value → Scope → Prop}
    (always : ∀ verdict data scope, P (.always verdict) data scope)
    (ref : ∀ target reference data scope,
      (scope.hops < maxHops → ∀ schema, P schema data scope.hop) →
      P (.ref target reference) data scope)
    (rules : ∀ rules data scope,
      (∀ rule ∈ rules, ∀ part ∈ rule.check.parts, ∀ at_ : Scope, at_.hops = scope.hops →
        P part data at_) →
      (∀ part value below, Value.weight value < data.weight → P part value below) →
      P (.rules rules) data scope)
    (node : Node) (data : Value) (scope : Scope) : P node data scope := by
  refine induction (P := fun node data hops => ∀ scope : Scope, scope.hops = hops →
    P node data scope) ?_ ?_ ?_ node data scope.hops scope rfl
  · exact fun verdict data _ scope _ => always verdict data scope
  · intro target reference data hops ih scope same
    refine ref target reference data scope fun hop schema => ?_
    exact ih (same ▸ hop) schema scope.hop (congrArg (· + 1) same)
  · intro list data hops here below scope same
    refine rules list data scope (fun rule mem part of at_ hops_ => ?_) fun part value at_ lt => ?_
    · exact here rule mem part of at_ (hops_.trans same)
    · exact below part value at_.hops lt at_ rfl

end Node

end JsonSchema
