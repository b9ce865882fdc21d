import JsonSchema.Proofs.Meaning.Demand
import JsonSchema.Proofs.Validation.Equations
import JsonSchema.Proofs.Validation.Parts

/-!
# Acceptance

Whether a compiled schema accepts data, apart from everything that is said about it. The
outcomes of some keywords are known only later; where a schema is only tried, that is inside a
schema of which nothing but the verdict is kept, they are taken for granted.

* `Check.demands`: what a compiled keyword demands of the schemas it applies.
* `Rule.holds`: whether a compiled keyword holds, from the verdicts on what it applies.
* `Node.accepts`: whether a compiled schema accepts data.
* `Node.accepts_rules`: acceptance is put together from the demands of the keywords.
-/

namespace JsonSchema

/-! ## Compiled keywords -/

/-- What a dependency demands. -/
def Dependency.demand (members : Members) : Dependency Node → Demand (Part Node)
  | .names required => .settled (required.all members.contains)
  | .schema part => .all [.here part (.object members)]

/-- What a compiled keyword demands of the schemas it applies. -/
def Check.demands (check : Check) (data : Value) : List (Demand (Part Node)) :=
  match check, data with
  | .assertion a, data => [.settled (a.holds data)]
  | .apply schema, data => [.all [.here schema data]]
  | .properties schemas, .object members =>
    [.all (schemas.filterMap fun s => (Members.get? members s.1).map (.below s.2))]
  | .patternProperties schemas, .object members =>
    [.all (schemas.flatMap fun s =>
      (members.filter fun m => s.1.occursIn m.1).map fun m => .below s.2 m.2)]
  | .additionalProperties known patterns schema, .object members =>
    [.all ((extra known patterns members).map fun m => .below schema m.2)]
  | .propertyNames schema, .object members =>
    [.all (members.map fun m => .here schema (.string m.1))]
  | .dependencies ds, .object members =>
    (ds.filter fun d => Members.contains members d.1).map fun d => d.2.demand members
  | .eachItem schema, .array items => [.all (items.map (.below schema))]
  | .tuple schemas, .array items => [.all ((schemas.zip items).map fun s => .below s.1 s.2)]
  | .additionalItems offset schema, .array items =>
    [.all ((items.drop offset).map (.below schema))]
  | .contains schema, .array items => [.any (items.map (.below schema))]
  | .allOf schemas, data => [.all (schemas.map (.here · data))]
  | .anyOf schemas, data => [.any (schemas.map (.here · data))]
  | .oneOf schemas, data => [.one (schemas.map (.here · data))]
  | .not schema, data => [.refusal (.here schema data)]
  | .conditional condition yes no, data =>
    [.branch (.here condition data) (yes.map (.here · data)) (no.map (.here · data))]
  | .children schema, data => [.all (data.children.map fun v => .below schema v.2)]
  | .verdict schema, data => [.any [.here schema data]]
  | .predicate test _, data | .deferred test, data => [.settled (test data)]
  | .remark _ accepted, _ => [.settled accepted]
  | .beneath _ _, _ => [.settled false]
  | _, _ => []

namespace Check

/-- Where the parts of what a keyword demands come from. -/
def Applies (check : Check) (data : Value) (p : Part Node) : Prop :=
  p.schema ∈ check.parts ∧ p.IsNear data

section Applies

variable {check : Check} {data : Value} {p : Part Node}

theorem Applies.here {schema : Node} (mem : schema ∈ check.parts) :
    check.Applies data (.here schema data) := ⟨mem, Part.isNear_here schema data⟩

theorem Applies.heres {schemas : List Node} (sub : ∀ schema ∈ schemas, schema ∈ check.parts)
    (of : p ∈ schemas.map (Part.here · data)) : check.Applies data p := by
  obtain ⟨schema, mem, rfl⟩ := List.mem_map.1 of
  exact .here (sub schema mem)

theorem Applies.items {items : List Value} {schema : Node} (mem : schema ∈ check.parts)
    {rest : List Value} (sub : ∀ item ∈ rest, item ∈ items)
    (of : p ∈ rest.map (Part.below schema)) : check.Applies (.array items) p := by
  have near := Part.isNear_of_mem_items sub of
  obtain ⟨item, -, rfl⟩ := List.mem_map.1 of
  exact ⟨mem, near⟩

/-- A keyword applies its schemas to the data, or to something smaller. -/
theorem applies_of_mem_demands {d : Demand (Part Node)} (mem : d ∈ check.demands data)
    (of : p ∈ d.parts) : check.Applies data p := by
  cases check with
  | assertion | predicate | deferred | probe | remark | beneath =>
    simp only [demands, List.mem_singleton, List.not_mem_nil] at mem
    try subst mem
    try cases of
  | apply schema | not schema | verdict schema =>
    rw [List.mem_singleton.1 mem] at of
    rw [List.mem_singleton.1 of]
    exact .here List.mem_cons_self
  | properties schemas =>
    cases data with
    | object members =>
      rw [List.mem_singleton.1 mem] at of
      obtain ⟨s, memS, h⟩ := List.mem_filterMap.1 of
      obtain ⟨value, found, rfl⟩ := Option.map_eq_some_iff.1 h
      exact ⟨List.mem_map_of_mem memS, .inr (Value.weight_lt_of_get? found)⟩
    | _ => cases mem
  | patternProperties schemas =>
    cases data with
    | object members =>
      rw [List.mem_singleton.1 mem] at of
      obtain ⟨s, memS, h⟩ := List.mem_flatMap.1 of
      obtain ⟨m, memM, rfl⟩ := List.mem_map.1 h
      exact ⟨List.mem_map_of_mem memS,
        .inr (Value.weight_lt_of_mem_members (List.mem_filter.1 memM).1)⟩
    | _ => cases mem
  | additionalProperties known patterns schema =>
    cases data with
    | object members =>
      rw [List.mem_singleton.1 mem] at of
      obtain ⟨m, memM, rfl⟩ := List.mem_map.1 of
      exact ⟨List.mem_cons_self, .inr (Value.weight_lt_of_mem_members (List.mem_filter.1 memM).1)⟩
    | _ => cases mem
  | propertyNames schema =>
    cases data with
    | object members =>
      rw [List.mem_singleton.1 mem] at of
      obtain ⟨m, memM, rfl⟩ := List.mem_map.1 of
      exact ⟨List.mem_cons_self, .inr (Value.weight_string_lt memM _)⟩
    | _ => cases mem
  | dependencies ds =>
    cases data with
    | object members =>
      obtain ⟨⟨property, dependency⟩, memD, rfl⟩ := List.mem_map.1 mem
      cases dependency with
      | names => cases of
      | schema schema =>
        rw [List.mem_singleton.1 of]
        exact .here (mem_parts_dependencies.2 ⟨property, (List.mem_filter.1 memD).1⟩)
    | _ => cases mem
  | eachItem schema | contains schema =>
    cases data with
    | array items =>
      rw [List.mem_singleton.1 mem] at of
      exact .items List.mem_cons_self (fun _ h => h) of
    | _ => cases mem
  | tuple schemas =>
    cases data with
    | array items =>
      rw [List.mem_singleton.1 mem] at of
      obtain ⟨⟨schema, item⟩, memS, rfl⟩ := List.mem_map.1 of
      have both := List.of_mem_zip memS
      exact ⟨both.1, .inr (Value.weight_lt_of_mem_items both.2)⟩
    | _ => cases mem
  | additionalItems offset schema =>
    cases data with
    | array items =>
      rw [List.mem_singleton.1 mem] at of
      exact .items List.mem_cons_self (fun _ => List.mem_of_mem_drop) of
    | _ => cases mem
  | allOf schemas | anyOf schemas | oneOf schemas =>
    rw [List.mem_singleton.1 mem] at of
    exact .heres (fun _ h => h) of
  | conditional condition yes no =>
    rw [List.mem_singleton.1 mem] at of
    have of : p ∈ (condition :: (yes.toList ++ no.toList)).map (Part.here · data) := by
      cases yes <;> cases no <;> exact of
    exact .heres (fun _ h => h) of
  | children schema =>
    rw [List.mem_singleton.1 mem] at of
    obtain ⟨⟨step, part⟩, memV, rfl⟩ := List.mem_map.1 of
    exact ⟨List.mem_cons_self, .inr (Value.weight_lt_of_mem_children memV)⟩

end Applies

end Check

/-- Whether a compiled keyword holds, from the verdicts on parts that have to hold themselves and
    on those that are only tried. Where its schema is only tried, it is taken for granted if its
    outcome is known only later. -/
def Rule.holds (later : String → Bool) (tried : Bool) (kept granted : Part Node → Bool)
    (data : Value) (rule : Rule Check) : Bool :=
  !rule.appliesTo data || tried && later rule.keyword ||
    (rule.check.demands data).all (·.met kept granted)

/-! ## Schemas -/

/-- Whether a compiled schema accepts data. What the keywords of which the outcome is known
    only `later` refuse counts, unless the schema is only tried. -/
def Node.accepts (table : SlotTable) (later : String → Bool) (tried : Bool) (node : Node)
    (data : Value) (hops : Nat) : Bool :=
  match node with
  | .always verdict => verdict
  | .ref target _ =>
    if _ : hops < maxHops then
      match table target with
      | some schema => schema.accepts table later tried data (hops + 1)
      | none => false
    else false
  | .rules list =>
    list.attach.all fun ⟨rule, _⟩ =>
      !rule.appliesTo data || tried && later rule.keyword ||
        (rule.check.demands data).attach.all fun ⟨d, _⟩ =>
          d.attach.met
            (fun ⟨p, _⟩ => p.schema.accepts table later tried p.data (p.way.hops hops))
            (fun ⟨p, _⟩ => p.schema.accepts table later true p.data (p.way.hops hops))
termination_by (data.weight, maxHops - hops, sizeOf node)
decreasing_by
  · exact .right _ (.left _ _ (by omega))
  all_goals
    obtain ⟨mem, ⟨way, same⟩ | lt⟩ := Check.applies_of_mem_demands ‹_› ‹_›
    · rw [way, same]
      exact .right _ (.right _ (sizeOf_lt_of_mem_parts ‹_› mem))
    · exact .left _ _ lt

namespace Node

variable (table : SlotTable) (later : String → Bool) (tried : Bool) (data : Value) (hops : Nat)

/-- Whether the schema of a part accepts what it is applied to. -/
def acceptsPart (p : Part Node) : Bool :=
  p.schema.accepts table later tried p.data (p.way.hops hops)

@[simp] theorem accepts_always (verdict : Bool) :
    (always verdict).accepts table later tried data hops = verdict := by
  rw [accepts]

theorem accepts_ref {target : EntryId} {reference : String} {schema : Node}
    (hop : hops < maxHops) (found : table target = some schema) :
    (ref target reference).accepts table later tried data hops =
      schema.accepts table later tried data (hops + 1) := by
  rw [accepts, dif_pos hop]
  simp only [found]

theorem accepts_ref_missing {target : EntryId} {reference : String} (missing : table target = none) :
    (ref target reference).accepts table later tried data hops = false := by
  rw [accepts]
  split
  · simp only [missing]
  · rfl

theorem accepts_ref_deep {target : EntryId} {reference : String} (deep : ¬ hops < maxHops) :
    (ref target reference).accepts table later tried data hops = false := by
  rw [accepts, dif_neg deep]

theorem accepts_rules (rules : List (Rule Check)) :
    (Node.rules rules).accepts table later tried data hops =
      rules.all (Rule.holds later tried (acceptsPart table later tried hops)
        (acceptsPart table later true hops) data) := by
  rw [accepts, ← all_attach rules]
  congr 1
  funext ⟨rule, _⟩
  simp only [Rule.holds]
  rw [← all_attach (rule.check.demands data)]
  congr 2
  funext ⟨d, _⟩
  exact d.met_attach (acceptsPart table later tried hops) (acceptsPart table later true hops)

end Node

end JsonSchema
