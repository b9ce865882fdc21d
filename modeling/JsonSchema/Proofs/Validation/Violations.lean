import JsonSchema.Proofs.Validation.Equations
import JsonSchema.Proofs.Validation.Parts
import JsonSchema.Validation.Validator

/-!
# What violations say

A property that all keywords give to what they say is a property of everything a report says.
In particular, a compiled schema whose references lead to compiled schemas never says that a
reference leads nowhere.

* `Node.Closed`: every reference in it leads to a compiled schema.
* `Node.run_says`: what holds of what keywords say holds of everything that is said.
* `Violation.Unresolved`: a violation says that a reference leads nowhere.
* `Validator.resolved`: no validator of a closed schema says such a thing.
-/

namespace JsonSchema

/-! ## Closed schemas -/

namespace Node

/-- Every reference leads to a compiled schema, and every keyword has a place. -/
structure Closed (table : SlotTable) (node : Node) : Prop where
  refs : ∀ target reference, node.Contains (.ref target reference) → (table target).isSome
  places : ∀ rules, node.Contains (.rules rules) → ∀ rule ∈ rules, rule.schemaPath ≠ "#"

theorem Closed.part {table : SlotTable} {rules : List (Rule Check)}
    (closed : (Node.rules rules).Closed table) {rule : Rule Check} (mem : rule ∈ rules)
    {part : Node} (of : part ∈ rule.check.parts) : part.Closed table where
  refs target reference inner := closed.refs target reference (.part mem of inner)
  places rules' inner := closed.places rules' (.part mem of inner)

end Node

/-! ## What reports say -/

namespace Report

/-- Everything that is said has a property, and so has every test that is left for later. -/
structure Says (P : Violation → Prop) (D : DeferredTest → Prop) (report : Report) : Prop where
  violations : ∀ v ∈ report.violations, P v
  deferred : ∀ t ∈ report.deferred, D t

variable {P : Violation → Prop} {D : DeferredTest → Prop} {α : Type}

namespace Says

/-- A report without violations and deferred tests says nothing. -/
theorem quiet (report : Report) (violations : report.violations = [])
    (deferred : report.deferred = []) : Says P D report :=
  ⟨by simp [violations], by simp [deferred]⟩

theorem pass : Says P D .pass := quiet _ rfl rfl

theorem fail {v : Violation} (h : P v) : Says P D (.fail v) :=
  ⟨by simpa [Report.fail] using h, by simp [Report.fail]⟩

theorem discard (report : Report) : Says P D report.discard := quiet _ rfl rfl

theorem refuse {report : Report} (said : Says P D report) {v : Violation} (h : P v) :
    Says P D (report.refuse v) := by
  refine ⟨fun w mem => ?_, said.deferred⟩
  rcases List.mem_append.1 mem with mem | mem
  · exact said.violations w mem
  · rw [List.mem_singleton.1 mem]
    exact h

theorem append {a b : Report} (ha : Says P D a) (hb : Says P D b) : Says P D (a ++ b) := by
  refine ⟨fun v mem => ?_, fun t mem => ?_⟩
  · rcases List.mem_append.1 mem with mem | mem
    · exact ha.violations v mem
    · exact hb.violations v mem
  · rcases List.mem_append.1 mem with mem | mem
    · exact ha.deferred t mem
    · exact hb.deferred t mem

theorem withValid {report : Report} (said : Says P D report) (verdict : Bool) :
    Says P D { report with valid := verdict } := ⟨said.violations, said.deferred⟩

theorem concat {reports : List Report} (said : ∀ r ∈ reports, Says P D r) :
    Says P D (.concat reports) := by
  induction reports with
  | nil => exact pass
  | cons r rest ih =>
    exact (said r List.mem_cons_self).append (ih fun r mem => said r (List.mem_cons_of_mem _ mem))

theorem traces (verdict : Bool) (reports : List Report) : Says P D (.traces verdict reports) :=
  (discard _).withValid verdict

theorem ofObjections {scope : Scope} (own : ∀ objection, P (scope.violation objection))
    (objections : List Objection) : Says P D (.ofObjections scope objections) := by
  refine ⟨fun v mem => ?_, by simp [Report.ofObjections]⟩
  obtain ⟨objection, -, rfl⟩ := List.mem_map.1 mem
  exact own objection

end Says

theorem mem_runUntil {stop : Report → Bool} {n : Nat} {parts : List α} {run : α → Report}
    {report : Report} (h : report ∈ runUntil stop n parts run) :
    ∃ part ∈ parts, report = run part := by
  induction parts generalizing n with
  | nil => cases n <;> cases h
  | cons a rest ih =>
    cases n with
    | zero => cases h
    | succ n =>
      rcases List.mem_cons.1 h with rfl | h
      · exact ⟨a, List.mem_cons_self, rfl⟩
      · obtain ⟨part, mem, e⟩ := ih h
        exact ⟨part, List.mem_cons_of_mem _ mem, e⟩

namespace Says

theorem runUntil {stop : Report → Bool} {n : Nat} {parts : List α} {run : α → Report}
    (said : ∀ a ∈ parts, Says P D (run a)) : ∀ r ∈ Report.runUntil stop n parts run, Says P D r := by
  intro r mem
  obtain ⟨a, memA, rfl⟩ := mem_runUntil mem
  exact said a memA

theorem all {allErrors : Bool} {parts : List α} {run : α → Report}
    (said : ∀ a ∈ parts, Says P D (run a)) : Says P D (.all allErrors parts run) := by
  unfold Report.all
  refine concat fun r mem => ?_
  split at mem
  · obtain ⟨a, memA, rfl⟩ := List.mem_map.1 mem
    exact said a memA
  · exact runUntil said r mem

section Own

variable {scope : Scope} (own : ∀ objection, P (scope.violation objection))

include own

theorem explain {report : Report} (said : Says P D report) : Says P D (scope.explain report) := by
  unfold Scope.explain
  split
  · exact said.refuse (own _)
  · exact said

theorem ofContains (reports : List Report) : Says P D (.ofContains scope reports) := by
  unfold Report.ofContains
  split
  · exact traces _ _
  · exact (traces _ _).refuse (own _)

theorem ofAnyOf {reports : List Report} (said : ∀ r ∈ reports, Says P D r) :
    Says P D (.ofAnyOf scope reports) := by
  unfold Report.ofAnyOf
  split
  · exact traces _ _
  · exact (concat said).refuse (own _)

theorem ofOneOf {reports : List Report} (said : ∀ r ∈ reports, Says P D r) :
    Says P D (.ofOneOf scope reports) := by
  unfold Report.ofOneOf
  split
  · exact (concat said).refuse (own _)
  · exact traces _ _
  · exact (traces _ _).refuse (own _)

theorem ofNot (report : Report) : Says P D (.ofNot scope report) := by
  unfold Report.ofNot
  split
  · exact (discard _).refuse (own _)
  · exact (discard _).withValid _

theorem ofBranch (condition : Report) (name : String) {report : Report} (said : Says P D report) :
    Says P D (.ofBranch scope condition name report) := by
  unfold Report.ofBranch
  have joined : Says P D ({ condition.discard with valid := true } ++ report) :=
    ((discard _).withValid _).append said
  split
  · exact joined
  · exact joined.refuse (own _)

theorem ofName (name : String) {report : Report} (said : Says P D report) :
    Says P D (.ofName scope name report) := by
  unfold Report.ofName
  split
  · exact said
  · exact said.refuse (own _)

end Own

end Says

end Report

/-! ## Compiled schemas -/

/-- What is left for later by a keyword whose outcome is known only then. -/
def Scope.later (scope : Scope) (test : Value → Bool) (data : Value) : DeferredTest where
  keyword := scope.keyword
  dataPath := scope.dataPath
  schemaPath := scope.schemaPath
  test := test
  data := data

theorem Scope.foldl_below_current (steps : List String) (scope : Scope) :
    (steps.foldl Scope.below scope).current = scope.current := by
  induction steps generalizing scope with
  | nil => rfl
  | cons step rest ih => exact ih (scope.below step)

/-- What a keyword at a place applies its schemas to other than the data at hand: the parts of the
    data, and at the place itself the names of its members. -/
inductive Scope.Into (scope : Scope) (data : Value) : Value → Scope → Prop
  | child {step : String} {part : Value} (mem : (step, part) ∈ data.children) :
      Into scope data part (scope.below step)
  | name {members : Members} {m : String × Value} (object : data = .object members)
      (mem : m ∈ members) : Into scope data (.string m.1) scope

theorem Scope.Into.weight_lt {scope at_ : Scope} {data value : Value}
    (into : scope.Into data value at_) : value.weight < data.weight := by
  cases into with
  | child mem => exact Value.weight_lt_of_mem_children mem
  | name object mem => exact object ▸ Value.weight_string_lt mem _

/-- The places at which a keyword itself says something. -/
inductive Check.Speaks (check : Check) (scope : Scope) (data : Value) : Scope → Prop
  | here : Speaks check scope data scope
  | child {step : String} {part : Value} (mem : (step, part) ∈ data.children) :
      Speaks check scope data (scope.below step)
  | beneath {steps : List String} {message : String} (same : check = .beneath steps message) :
      Speaks check scope data (steps.foldl Scope.below scope)

theorem Check.Speaks.current {check : Check} {scope at_ : Scope} {data : Value}
    (speaks : check.Speaks scope data at_) : at_.current = scope.current := by
  cases speaks with
  | here | child => rfl
  | beneath => exact Scope.foldl_below_current _ _

theorem Value.mem_children_of_mem_zipIdx {items : List Value} {item : Value} {i : Nat}
    (mem : (item, i) ∈ items.zipIdx) : (toString i, item) ∈ (array items).children :=
  List.mem_map_of_mem (f := fun p : Value × Nat => (toString p.2, p.1)) mem

section Run

open Report (Says)

variable {P : Violation → Prop} {D : DeferredTest → Prop} {table : SlotTable}

/-- What a keyword says has a property if everything has it that is said where the keyword speaks,
    and everything that the schemas say that it applies; so has what it leaves for later. -/
theorem Check.run_saysAt {check : Check} {data : Value} {scope : Scope}
    (own : ∀ at_, check.Speaks scope data at_ → ∀ objection, P (at_.violation objection))
    (waits : ∀ test, check = .deferred test → D (scope.later test data))
    (here : ∀ part ∈ check.parts, (part.run table data scope).Says P D)
    (below : ∀ part ∈ check.parts, ∀ value at_, scope.Into data value at_ →
      (part.run table value at_).Says P D) :
    (check.run table data scope).Says P D := by
  have own' := own scope .here
  cases check with
  | assertion a =>
    rw [run_assertion]
    exact .ofObjections own' _
  | apply schema =>
    rw [run_apply]
    exact here schema List.mem_cons_self
  | properties schemas =>
    cases data with
    | object members =>
      rw [run_properties]
      refine .all fun s mem => ?_
      split
      · next value found =>
        exact below s.2 (List.mem_map_of_mem mem) value _ (.child (Members.mem_of_get? found))
      · exact .pass
    | _ =>
      rw [run]
      exact .pass
      all_goals simp
  | patternProperties schemas =>
    cases data with
    | object members =>
      rw [run_patternProperties]
      refine .all fun s mem => .all fun m memM => ?_
      exact below s.2 (List.mem_map_of_mem mem) m.2 _ (.child (List.mem_filter.1 memM).1)
    | _ =>
      rw [run]
      exact .pass
      all_goals simp
  | additionalProperties known patterns schema =>
    cases data with
    | object members =>
      rw [run_additionalProperties]
      refine .all fun m memM => ?_
      split
      · exact .fail (own _ (.child (List.mem_filter.1 memM).1) _)
      · exact below schema List.mem_cons_self m.2 _ (.child (List.mem_filter.1 memM).1)
    | _ =>
      rw [run]
      exact .pass
      all_goals simp
  | propertyNames schema =>
    cases data with
    | object members =>
      rw [run_propertyNames]
      refine .all fun m memM => .ofName own' _ ?_
      exact below schema List.mem_cons_self _ _ (.name rfl memM)
    | _ =>
      rw [run]
      exact .pass
      all_goals simp
  | dependencies ds =>
    cases data with
    | object members =>
      rw [run_dependencies]
      refine .all fun d mem => ?_
      obtain ⟨property, dependency⟩ := d
      cases dependency with
      | names names => exact .ofObjections own' _
      | schema schema =>
        exact here schema (mem_parts_dependencies.2 ⟨property, (List.mem_filter.1 mem).1⟩)
    | _ =>
      rw [run]
      exact .pass
      all_goals simp
  | eachItem schema =>
    cases data with
    | array items =>
      rw [run_eachItem]
      refine .all fun v mem => ?_
      exact below schema List.mem_cons_self v.1 _ (.child (Value.mem_children_of_mem_zipIdx mem))
    | _ =>
      rw [run]
      exact .pass
      all_goals simp
  | tuple schemas =>
    cases data with
    | array items =>
      rw [run_tuple]
      refine .all fun v mem => ?_
      obtain ⟨⟨schema, item⟩, i⟩ := v
      have both := List.getElem?_zip_eq_some.1 (List.mem_zipIdx_iff_getElem?.1 mem)
      exact below schema (List.mem_of_getElem? both.1) item _
        (.child (Value.mem_children_of_mem_zipIdx (List.mem_zipIdx_iff_getElem?.2 both.2)))
    | _ =>
      rw [run]
      exact .pass
      all_goals simp
  | additionalItems offset schema =>
    cases data with
    | array items =>
      rw [run_additionalItems]
      split
      · exact .fail (own' _)
      · refine .all fun v mem => ?_
        exact below schema List.mem_cons_self v.1 _
          (.child (Value.mem_children_of_mem_zipIdx (List.mem_of_mem_drop mem)))
    | _ =>
      rw [run]
      exact .pass
      all_goals simp
  | contains schema =>
    cases data with
    | array items =>
      rw [run_contains]
      exact .ofContains own' _
    | _ =>
      rw [run]
      exact .pass
      all_goals simp
  | allOf schemas =>
    rw [run_allOf]
    exact .all fun schema mem => here schema mem
  | anyOf schemas =>
    rw [run_anyOf]
    exact .ofAnyOf own' (.runUntil fun schema mem => here schema mem)
  | oneOf schemas =>
    rw [run_oneOf]
    exact .ofOneOf own' (.runUntil fun schema mem => here schema mem)
  | not schema =>
    rw [run_not]
    exact .ofNot own' _
  | conditional condition yes no =>
    rw [run_conditional]
    split
    · cases yes with
      | none => exact .discard _
      | some schema => exact .ofBranch own' _ _ (here schema (by simp [parts]))
    · cases no with
      | none => exact (Says.discard _).withValid _
      | some schema => exact .ofBranch own' _ _ (here schema (by simp [parts]))
  | children schema =>
    rw [run_children]
    refine .all fun v mem => ?_
    exact below schema List.mem_cons_self v.2 _ (.child mem)
  | verdict schema =>
    rw [run_verdict]
    exact .discard _
  | predicate test traced =>
    rw [run]
    exact .quiet _ rfl rfl
  | deferred test =>
    rw [run]
    refine ⟨fun v mem => absurd mem List.not_mem_nil, fun t mem => ?_⟩
    rw [List.mem_singleton.1 mem]
    exact waits test rfl
  | probe =>
    rw [run]
    exact .quiet _ rfl rfl
  | remark objection verdict =>
    rw [run]
    exact (Says.fail (own' objection)).withValid verdict
  | beneath steps message =>
    rw [run]
    exact .fail (own _ (.beneath rfl) _)

/-- What a keyword says has a property if everything has it that is said at its place in the
    schema, and everything that the schemas say that it applies; so has what it leaves for later. -/
theorem Check.run_says {check : Check} {data : Value} {scope : Scope}
    (own : ∀ at_ : Scope, at_.current = scope.current → ∀ objection, P (at_.violation objection))
    (waits : ∀ test, check = .deferred test → D (scope.later test data))
    (here : ∀ part ∈ check.parts, (part.run table data scope).Says P D)
    (below : ∀ part ∈ check.parts, ∀ value at_, Value.weight value < data.weight →
      (part.run table value at_).Says P D) :
    (check.run table data scope).Says P D :=
  Check.run_saysAt (fun at_ speaks => own at_ speaks.current) waits here
    fun part mem value at_ into => below part mem value at_ into.weight_lt

/-- Everything that a closed schema says has a property if everything has it that keywords say
    at their places, that the schema that accepts nothing says, and that is said where too many
    references are followed. -/
theorem Node.run_says (closed : ∀ id node, table id = some node → node.Closed table)
    (own : ∀ scope objection, Scope.schemaPath scope ≠ "#" → P (scope.violation objection))
    (waits : ∀ scope test data, Scope.schemaPath scope ≠ "#" → D (scope.later test data))
    (forbidden : ∀ scope : Scope, scope.forbidden.Says P D)
    (deep : ∀ (scope : Scope) reference,
      (scope.brokenReference "maximum reference depth exceeded at" reference).Says P D)
    (node : Node) (data : Value) (scope : Scope) (h : node.Closed table) :
    (node.run table data scope).Says P D := by
  induction node, data, scope using Node.run_induction with
  | always verdict data scope =>
    cases verdict with
    | true =>
      rw [run_true]
      exact .pass
    | false =>
      rw [run_false]
      exact forbidden scope
  | ref target reference data scope ih =>
    obtain ⟨schema, found⟩ := Option.isSome_iff_exists.1 (h.refs target reference (.self _))
    by_cases hop : scope.hops < maxHops
    · rw [run_ref table data scope hop found]
      exact ih hop schema (closed target schema found)
    · rw [run_ref_deep table data scope hop]
      exact deep scope reference
  | rules rules data scope here below =>
    rw [run_rules]
    refine .all fun rule mem => ?_
    split
    · have place := h.places rules (.self _) rule mem
      have own_ : ∀ at_ : Scope, at_.current = (scope.within rule).current →
          ∀ objection, P (at_.violation objection) := by
        intro at_ same objection
        refine own at_ objection ?_
        rw [Scope.schemaPath, same]
        exact place
      refine .explain (own_ _ rfl) (Check.run_says own_ (fun test _ => waits _ test data place)
        (fun part of => ?_) fun part of value at_ lt => ?_)
      · exact here rule mem part of _ rfl (h.part mem of)
      · exact below part value at_ lt (h.part mem of)
    · exact .pass

end Run

/-! ## Validators -/

/-- A violation says that a reference leads nowhere. -/
def Violation.Unresolved (v : Violation) : Prop :=
  v.keyword = "$ref" ∧ v.schemaPath = "#" ∧
    ∃ reference, v.message = "can't resolve reference" ++ " " ++ reference

/-- What is said where too many references are followed is something else. -/
theorem deepReference_ne (a b : String) :
    "maximum reference depth exceeded at" ++ " " ++ a ≠ "can't resolve reference" ++ " " ++ b := by
  intro h
  have h := congrArg (fun s => s.toList.head?) h
  simp [String.toList_append] at h

/-- A closed schema never says that a reference leads nowhere. -/
theorem Node.run_resolved {table : SlotTable}
    (closed : ∀ id node, table id = some node → node.Closed table) (node : Node) (data : Value)
    (scope : Scope) (h : node.Closed table) :
    (node.run table data scope).Says (fun v => ¬ v.Unresolved) fun t => ¬ t.violation.Unresolved := by
  refine Node.run_says closed ?_ ?_ ?_ ?_ node data scope h
  · rintro scope objection place ⟨-, root, -⟩
    exact place root
  · rintro scope test data place ⟨-, root, -⟩
    exact place root
  · refine fun scope => .fail ?_
    rintro ⟨keyword, -⟩
    exact absurd (show "false schema" = "$ref" from keyword) (by decide)
  · refine fun scope reference => .fail ?_
    rintro ⟨-, -, reference', message⟩
    exact deepReference_ne reference reference' message

theorem DeferredTest.settle_says {P : Violation → Prop} (allErrors : Bool)
    (tests : List DeferredTest) (said : ∀ t ∈ tests, P t.violation) :
    ∀ v ∈ (settle allErrors tests).violations, P v := by
  induction tests with
  | nil => exact fun v mem => absurd mem List.not_mem_nil
  | cons t rest ih =>
    have ih := ih fun t mem => said t (List.mem_cons_of_mem _ mem)
    have own := said t List.mem_cons_self
    unfold settle
    split
    · exact ih
    · split
      · intro v mem
        rcases List.mem_cons.1 mem with rfl | mem
        · exact own
        · exact ih v mem
      · intro v mem
        rw [List.mem_singleton.1 mem]
        exact own

/-- A validator never says that a reference leads nowhere, whether it waits for deferred tests
    or not. -/
def Validator.Resolved (validator : Validator) (table : SlotTable) : Prop :=
  ∀ data, (∀ v ∈ (validator.validate table data).violations, ¬ v.Unresolved) ∧
    ∀ v ∈ (validator.resolve table data).violations, ¬ v.Unresolved

/-- A validator of a closed schema never says that a reference leads nowhere. -/
theorem Validator.resolved {table : SlotTable}
    (closed : ∀ id node, table id = some node → node.Closed table) {validator : Validator}
    (compiled : (table validator.entry).isSome) : validator.Resolved table := by
  intro data
  have said : (validator.run table data).Says (fun v => ¬ v.Unresolved)
      fun t => ¬ t.violation.Unresolved := by
    refine Node.run_resolved closed _ data _ ⟨fun target reference occurs => ?_, ?_⟩
    · cases occurs
      exact compiled
    · intro rules occurs
      cases occurs
  constructor
  · unfold validate
    split
    · intro v mem
      rw [List.mem_singleton.1 mem]
      rintro ⟨keyword, -⟩
      exact absurd keyword (by decide)
    · exact said.violations
  · unfold resolve
    simp only
    split
    · intro v mem
      rcases List.mem_append.1 mem with mem | mem
      · exact said.violations v mem
      · exact DeferredTest.settle_says (P := fun v => ¬ v.Unresolved) _ _ said.deferred v mem
    · exact said.violations

end JsonSchema
