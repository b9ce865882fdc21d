import JsonSchema.Proofs.Compilation.Outcomes
import JsonSchema.Proofs.Json.Canonical
import JsonSchema.Proofs.Json.Pointers
import JsonSchema.Proofs.Validation.Violations

/-!
# Where violations are

The path of a scope is built up turn by turn as a schema goes into the data. Whatever is said
there, or is left for later, carries the pointer of these turns, so this pointer leads to a part of
the data. One kind of keyword speaks of places that need not be there, and no built-in keyword is
of this kind.

* `Value.Locates`: a text is the pointer of a part of a value.
* `Node.Dwells`: no keyword in a compiled schema speaks of places that need not be there.
* `Compiler.Compiled.dwells`: no built-in keyword does so.
* `Node.run_locates`, `Validator.locates`: the pointers of everything that is said.
-/

namespace JsonSchema

/-! ## Parts of sorted values -/

namespace Value

/-- What a turn from a sorted value leads to is sorted. -/
theorem Sorted.turn {value part : Value} (sorted : value.Sorted) {turn : Turn}
    (leads : value.turn? turn = some part) : part.Sorted := by
  cases value <;> cases turn <;> try cases leads
  · exact sorted_array_iff.1 sorted _ (List.mem_of_getElem? leads)
  · exact (sorted_object_iff.1 sorted).2 _ (Members.mem_of_get? leads)

theorem Sorted.at {value part : Value} (sorted : value.Sorted) {turns : List Turn}
    (leads : value.at? turns = some part) : part.Sorted := by
  induction turns generalizing value with
  | nil =>
    cases leads
    exact sorted
  | cons turn turns ih =>
    obtain ⟨next, first, rest⟩ := Option.bind_eq_some_iff.1 leads
    exact ih (sorted.turn first) rest

/-- A step to a part of a sorted value is a turn. -/
theorem turn_of_mem_children {value part : Value} (sorted : value.Sorted) {step : String}
    (mem : (step, part) ∈ value.children) :
    ∃ turn, turn.token = step ∧ value.turn? turn = some part := by
  cases value with
  | array items =>
    obtain ⟨⟨item, i⟩, mem, same⟩ := List.mem_map.1 mem
    cases same
    exact ⟨.item i, rfl, List.mem_zipIdx_iff_getElem?.1 mem⟩
  | object members =>
    exact ⟨.member step, rfl, (Members.mem_iff_get? (sorted_object_iff.1 sorted).1).1 mem⟩
  | _ => cases mem

theorem at?_concat {value part next : Value} {turns : List Turn} {turn : Turn}
    (leads : value.at? turns = some part) (goesOn : part.turn? turn = some next) :
    value.at? (turns ++ [turn]) = some next := by
  rw [at?, List.foldlM_append]
  exact Option.bind_eq_some_iff.2 ⟨part, leads, by rw [List.foldlM_cons, goesOn]; rfl⟩

end Value

/-! ## Places -/

/-- A text is the pointer of a part of a value. -/
def Value.Locates (data : Value) (path : String) : Prop :=
  ∃ turns part, data.at? turns = some part ∧ path = Pointer.ofTurns turns

/-- The path of a scope leads to a part of the data. The value at hand is this part, or something
    without parts of its own, such as the name of a member. -/
def Scope.Stands (scope : Scope) (data value : Value) : Prop :=
  ∃ turns part, data.at? turns = some part ∧ scope.path.reverse = turns.map Turn.token ∧
    (value = part ∨ value.children = [])

namespace Scope.Stands

variable {scope : Scope} {data value : Value}

/-- What is said at a place is located there. -/
theorem locates (stands : scope.Stands data value) : data.Locates scope.dataPath := by
  obtain ⟨turns, part, leads, path, -⟩ := stands
  exact ⟨turns, part, leads, congrArg Pointer.ofSegments path⟩

/-- The parts of the value at hand are parts of the data. -/
theorem child (stands : scope.Stands data value) (sorted : data.Sorted) {step : String}
    {part : Value} (mem : (step, part) ∈ value.children) :
    (scope.below step).Stands data part := by
  obtain ⟨turns, whole, leads, path, rfl | none⟩ := stands
  · obtain ⟨turn, rfl, goesOn⟩ := Value.turn_of_mem_children (sorted.at leads) mem
    refine ⟨turns ++ [turn], part, Value.at?_concat leads goesOn, ?_, .inl rfl⟩
    show (turn.token :: scope.path).reverse = _
    rw [List.reverse_cons, path, List.map_append, List.map_singleton]
  · rw [none] at mem
    cases mem

/-- Wherever a keyword applies its schemas to, that is a place of the data. -/
theorem into (stands : scope.Stands data value) (sorted : data.Sorted) {part : Value}
    {at_ : Scope} (into : scope.Into value part at_) : at_.Stands data part := by
  cases into with
  | child mem => exact stands.child sorted mem
  | name =>
    obtain ⟨turns, whole, leads, path, -⟩ := stands
    exact ⟨turns, whole, leads, path, .inr rfl⟩

end Scope.Stands

/-! ## Compiled schemas -/

/-- No keyword in a compiled schema speaks of places that need not be there. -/
def Node.Dwells (node : Node) : Prop :=
  ∀ rules, node.Contains (.rules rules) → ∀ rule ∈ rules, ∀ steps message,
    rule.check ≠ .beneath steps message

theorem Node.Dwells.part {rules : List (Rule Check)} (dwells : (Node.rules rules).Dwells)
    {rule : Rule Check} (mem : rule ∈ rules) {part : Node} (of : part ∈ rule.check.parts) :
    part.Dwells := fun rules' inner => dwells rules' (.part mem of inner)

/-- Where all keywords that are defined are simple, compiled schemas speak only of what is
    there. -/
theorem Compiler.Compiled.dwells {compiler : Compiler} {refs : Bindings String EntryId}
    (simple : ∀ keyword ∈ compiler.vocabulary.ordered, keyword.isSimple = true) {fuel : Nat}
    {value : Value} {place : Place} {node : Node}
    (shape : compiler.Compiled refs fuel value place node) : node.Dwells := by
  refine Compiled.induction (P := Node.Dwells) ?_ ?_ ?_ shape
  · intro verdict rules occurs
    cases occurs
  · intro target reference found rules occurs
    cases occurs
  · intro rules ih list occurs rule mem
    cases occurs with
    | self =>
      cases (ih rule mem).2.1 with
      | reference place target h =>
        rw [h]
        rintro steps message ⟨⟩
      | keyword N o defined shape => exact shape.ne_beneath (simple _ defined)
    | part mem' of inner => exact (ih _ mem').2.2 _ of list inner rule mem

section Run

variable {table : SlotTable} {data : Value}

/-- What is said about a part of the data is located in the data. -/
theorem Node.run_locates (dwell : ∀ id node, table id = some node → node.Dwells)
    (sorted : data.Sorted) (node : Node) (value : Value) (scope : Scope) (dwells : node.Dwells)
    (stands : scope.Stands data value) :
    (node.run table value scope).Says (fun v => data.Locates v.dataPath)
      (fun t => data.Locates t.dataPath) := by
  induction node, value, scope using Node.run_induction with
  | always verdict value scope =>
    cases verdict with
    | true =>
      rw [run_true]
      exact .pass
    | false =>
      rw [run_false]
      exact .fail stands.locates
  | ref target reference value scope ih =>
    by_cases hop : scope.hops < maxHops
    · cases found : table target with
      | none =>
        rw [run_ref_missing table value scope hop found]
        exact .fail stands.locates
      | some schema =>
        rw [run_ref table value scope hop found]
        exact ih hop schema (dwell target schema found) stands
    · rw [run_ref_deep table value scope hop]
      exact .fail stands.locates
  | rules rules value scope here below =>
    rw [run_rules]
    refine .all fun rule mem => ?_
    split
    · have stands : (scope.within rule).Stands data value := stands
      have own (at_ : Scope) (speaks : rule.check.Speaks (scope.within rule) value at_) :
          data.Locates at_.dataPath := by
        cases speaks with
        | here => exact stands.locates
        | child mem => exact (stands.child sorted mem).locates
        | beneath same => exact absurd same (dwells rules (.self _) rule mem _ _)
      refine .explain (fun _ => own _ .here) (Check.run_saysAt (fun at_ speaks _ => own at_ speaks)
        (fun _ _ => own _ .here) (fun part of => ?_) (fun part of value' at_ into => ?_))
      · exact here rule mem part of _ rfl (dwells.part mem of) stands
      · exact below part value' at_ into.weight_lt (dwells.part mem of)
          (stands.into sorted into)
    · exact .pass

/-- Every test that fails later is located where it was left. -/
theorem DeferredTest.settle_locates (allErrors : Bool) {tests : List DeferredTest}
    (located : ∀ t ∈ tests, data.Locates t.dataPath) :
    ∀ v ∈ (settle allErrors tests).violations, data.Locates v.dataPath := by
  induction tests with
  | nil => exact fun v mem => by cases mem
  | cons t rest ih =>
    have first := located t List.mem_cons_self
    have rest := ih fun t mem => located t (List.mem_cons_of_mem _ mem)
    intro v mem
    rw [settle] at mem
    split at mem
    · exact rest v mem
    · split at mem
      · rcases List.mem_cons.1 mem with rfl | mem
        · exact first
        · exact rest v mem
      · rw [List.mem_singleton.1 mem]
        exact first

/-- All violations that a validator reports are located in the data, whether deferred tests are
    waited for or not. -/
theorem Validator.locates (validator : Validator)
    (dwell : ∀ id node, table id = some node → node.Dwells) (sorted : data.Sorted) :
    (∀ v ∈ (validator.validate table data).violations, data.Locates v.dataPath) ∧
      ∀ v ∈ (validator.resolve table data).violations, data.Locates v.dataPath := by
  have whole : data.Locates "" := ⟨[], data, rfl, rfl⟩
  have said := Node.run_locates dwell sorted (.ref validator.entry "#") data
    { allErrors := validator.allErrors } (by rintro rules ⟨⟩) ⟨[], data, rfl, rfl, .inl rfl⟩
  refine ⟨fun v mem => ?_, fun v mem => ?_⟩
  · rw [validate] at mem
    split at mem
    · rw [List.mem_singleton.1 mem]
      exact whole
    · exact said.violations v mem
  · rw [resolve] at mem
    dsimp only at mem
    split at mem
    · rcases List.mem_append.1 mem with mem | mem
      · exact said.violations v mem
      · exact DeferredTest.settle_locates _ said.deferred v mem
    · exact said.violations v mem

end Run

end JsonSchema
