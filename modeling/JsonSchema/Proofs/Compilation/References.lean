import JsonSchema.Proofs.Compilation.Shape
import JsonSchema.Proofs.Validation.Parts

/-!
# References in compiled schemas

A keyword applies what its subschemas were compiled to, and the schema that accepts everything.
So what occurs in a compiled schema was compiled from the same document, with the same bindings
of its references.

* `Compiler.CheckShape.made`: what a compiled keyword applies.
* `Compiler.Compiled.induction`: induction over a compiled schema.
* `Compiler.Compiled.find?_of_contains`: the references that occur in a compiled schema are bound.
-/

namespace JsonSchema

/-! ## What keywords apply -/

section Parts

variable {N : NodeRelation} {o : Occurrence} {check : Check} {part : Node}

/-- A part of a schema was compiled, or is the schema that accepts everything. -/
def NodeRelation.Makes (N : NodeRelation) (node : Node) : Prop :=
  node = .always true ∨ ∃ value place, N value place node

theorem NodeRelation.Makes.of {value : Value} {place : Place} (h : N value place part) :
    N.Makes part := .inr ⟨value, place, h⟩

theorem exists_mem_of_forall₂ {α β : Type} {R : α → β → Prop} {as : List α} {bs : List β}
    (list : List.Forall₂ R as bs) {b : β} (mem : b ∈ bs) : ∃ a ∈ as, R a b := by
  induction list with
  | nil => cases mem
  | cons h _ ih =>
    rcases List.mem_cons.1 mem with rfl | mem
    · exact ⟨_, List.mem_cons_self, h⟩
    · obtain ⟨a, memA, h⟩ := ih mem
      exact ⟨a, List.mem_cons_of_mem _ memA, h⟩

namespace Occurrence

theorem ListShape.made {values : List Value} {nodes : List Node}
    (shape : o.ListShape N values nodes) (mem : part ∈ nodes) : N.Makes part :=
  let ⟨_, _, h⟩ := exists_mem_of_forall₂ shape mem
  .of h

theorem AlternativesShape.made {nodes : List Node} (shape : o.AlternativesShape N nodes)
    (mem : part ∈ nodes) : N.Makes part := by
  obtain ⟨values, -, -, list⟩ := shape
  exact list.made mem

theorem SiblingShape.made {keyword : String} {node? : Option Node}
    (shape : o.SiblingShape N keyword node?) (mem : node? = some part) : N.Makes part := by
  rw [SiblingShape] at shape
  split at shape
  · rw [shape] at mem
    cases mem
  · obtain ⟨node, hn, rfl⟩ := shape
    cases mem
    exact .of hn

theorem DependencyShape.made {property : String} {value : Value} {d : Dependency Node}
    (shape : o.DependencyShape N property value d) (mem : d = .schema part) : N.Makes part := by
  cases value with
  | array values =>
    obtain ⟨names, -, rfl⟩ := shape
    cases mem
  | _ =>
    obtain ⟨node, hn, rfl⟩ := shape
    cases mem
    exact .of hn

end Occurrence

/-- What a keyword with a single subschema applies. -/
theorem NodeRelation.Makes.single {value : Value} {place : Place} {node : Node}
    (h : N value place node) (mem : part ∈ [node]) : N.Makes part := by
  rw [List.mem_singleton.1 mem]
  exact .of h

/-- The application of the schema that accepts everything. -/
theorem NodeRelation.Makes.trivially (mem : part ∈ (Check.apply (.always true)).parts) :
    N.Makes part := .inl (List.mem_singleton.1 mem)

theorem Applicator.Shapes.made {applicator : Applicator} (shape : applicator.Shapes N o check)
    (mem : part ∈ check.parts) : N.Makes part := by
  cases applicator with
  | properties =>
    obtain ⟨members, schemas, -, list, rfl⟩ := shape
    obtain ⟨s, memS, rfl⟩ := List.mem_map.1 mem
    obtain ⟨m, -, -, h⟩ := exists_mem_of_forall₂ list (List.mem_filter.1 memS).1
    exact .of h
  | patternProperties =>
    obtain ⟨members, patterns, schemas, -, -, list, rfl⟩ := shape
    obtain ⟨s, memS, rfl⟩ := List.mem_map.1 mem
    obtain ⟨m, -, h⟩ := exists_mem_of_forall₂ list (List.of_mem_zip memS).2
    exact .of h
  | additionalProperties =>
    obtain ⟨patterns, node, -, hn, rfl⟩ := shape
    exact .single hn mem
  | dependencies =>
    obtain ⟨members, ds, -, list, rfl⟩ := shape
    obtain ⟨property, memD⟩ := Check.mem_parts_dependencies.1 mem
    obtain ⟨m, -, -, h⟩ := exists_mem_of_forall₂ list memD
    exact h.made rfl
  | items =>
    simp only [Shapes] at shape
    split at shape
    · obtain ⟨nodes, list, rfl⟩ := shape
      exact list.made mem
    · obtain ⟨node, hn, rfl⟩ := shape
      exact .single hn mem
  | additionalItems =>
    simp only [Shapes] at shape
    split at shape
    · obtain ⟨node, hn, rfl⟩ := shape
      exact .single hn mem
    · rw [shape] at mem
      exact .trivially mem
  | propertyNames | contains | not =>
    obtain ⟨node, hn, rfl⟩ := shape
    exact .single hn mem
  | allOf | anyOf | oneOf =>
    obtain ⟨nodes, list, rfl⟩ := shape
    exact list.made mem
  | conditional =>
    obtain ⟨condition, yes, no, hn, hy, hno, rfl⟩ := shape
    split at mem
    · exact .trivially mem
    · rcases List.mem_cons.1 mem with rfl | mem
      · exact .of hn
      · rcases List.mem_append.1 mem with mem | mem
        · exact hy.made (Option.mem_toList.1 mem)
        · exact hno.made (Option.mem_toList.1 mem)

theorem Extension.Shapes.made {meaning : Extension} {compiler : Compiler}
    (shape : meaning.Shapes compiler N o check) (mem : part ∈ check.parts) : N.Makes part := by
  cases meaning with
  | children | verdict =>
    obtain ⟨node, hn, rfl⟩ := shape
    exact .single hn mem
  | sibling keyword =>
    obtain ⟨node?, hs, rfl⟩ := shape
    cases node? with
    | none => exact .trivially mem
    | some node =>
      rw [List.mem_singleton.1 mem]
      exact hs.made rfl
  | refuse => exact shape.elim
  | remark | below | format | probe =>
    rw [shape] at mem
    cases mem

theorem Builtin.Shapes.made {meaning : Builtin} {compiler : Compiler}
    (shape : meaning.Shapes compiler N o check) (mem : part ∈ check.parts) : N.Makes part := by
  cases meaning with
  | asserts kind =>
    obtain ⟨assertion, -, rfl⟩ := shape
    cases mem
  | applies applicator => exact Applicator.Shapes.made shape mem
  | format =>
    obtain ⟨name, -, shape⟩ := shape
    split at shape
    · rw [shape] at mem
      cases mem
    · rw [shape] at mem
      exact .trivially mem

/-- What a compiled keyword applies was compiled, or accepts everything. -/
theorem Compiler.CheckShape.made {compiler : Compiler}
    (shape : compiler.CheckShape N o (some check)) (mem : part ∈ check.parts) : N.Makes part := by
  rw [CheckShape] at shape
  split at shape
  · cases shape
  · cases shape
    cases mem
  · obtain ⟨check, hc, e⟩ := shape
    cases e
    exact hc.made mem
  · obtain ⟨check, hc, e⟩ := shape
    cases e
    exact hc.made mem
  · obtain ⟨node, hn, e⟩ := shape
    cases e
    exact .single hn mem
  · cases shape
    cases mem

end Parts

/-! ## What occurs in compiled schemas -/

theorem Pointer.child_ne_root (pointer segment : String) : child pointer segment ≠ "#" := by
  intro h
  have h := congrArg String.toList h
  simp only [child, String.toList_append] at h
  have mem : '/' ∈ ['#'] := by
    rw [show ['#'] = "#".toList from rfl, ← h]
    simp
  simp at mem

namespace Compiler

variable {compiler : Compiler} {refs : Bindings String EntryId}

/-- A rule stands for the reference of a schema, or for one of the keywords that are defined. -/
inductive Stands (compiler : Compiler) (rule : Rule Check) : Prop
  | reference (place : Place) (target : Node) (h : rule = referenceRule place target)
  | keyword (N : NodeRelation) (o : Occurrence) (defined : o.keyword ∈ compiler.vocabulary.ordered)
      (shape : compiler.CheckShape N o (some rule.check)) (name : rule.keyword = o.keyword.name)

theorem mem_ordered_of_mem_occurrences {members : Members} {place : Place} {o : Occurrence}
    (mem : o ∈ compiler.occurrences members place) : o.keyword ∈ compiler.vocabulary.ordered := by
  obtain ⟨keyword, memK, h⟩ := List.mem_filterMap.1 mem
  split at h
  · cases h
  · obtain ⟨value, -, rfl⟩ := Option.map_eq_some_iff.1 h
    exact memK

theorem RulesShape.rule {N : NodeRelation} {members : Members} {place : Place}
    {rules : List (Rule Check)} (shape : compiler.RulesShape N members place rules)
    {rule : Rule Check} (mem : rule ∈ rules) :
    rule.schemaPath ≠ "#" ∧ compiler.Stands rule ∧ ∀ part ∈ rule.check.parts, N.Makes part := by
  obtain ⟨rules?, list, rfl⟩ := shape
  obtain ⟨rule?, memR, e⟩ := List.mem_filterMap.1 mem
  obtain ⟨o, memO, check?, hc, e'⟩ := exists_mem_of_forall₂ list memR
  obtain ⟨check, rfl, rfl⟩ := Option.map_eq_some_iff.1 (e'.symm.trans e)
  exact ⟨Pointer.child_ne_root _ _, .keyword N o (mem_ordered_of_mem_occurrences memO) hc rfl,
    fun part mem => hc.made mem⟩

theorem ofRules_induct {P : Node → Prop} (always : P (.always true)) {rules : List (Rule Check)}
    (h : P (.rules rules)) : P (ofRules rules) := by
  unfold ofRules
  split
  · exact always
  · exact h

/-- Induction over a compiled schema: the schemas that accept everything or nothing, references
    that are bound, and keywords whose parts are compiled schemas. -/
theorem Compiled.induction {P : Node → Prop} (always : ∀ verdict, P (.always verdict))
    (ref : ∀ target reference, refs.find? reference = some target → P (.ref target reference))
    (rules : ∀ rules, (∀ rule ∈ rules, rule.schemaPath ≠ "#" ∧ compiler.Stands rule ∧
      ∀ part ∈ rule.check.parts, P part) → P (.rules rules))
    {fuel : Nat} {value : Value} {place : Place} {node : Node}
    (shape : compiler.Compiled refs fuel value place node) : P node := by
  induction fuel generalizing value place node with
  | zero => exact shape.elim
  | succ fuel ih =>
    have made : ∀ {part : Node}, NodeRelation.Makes (compiler.Compiled refs fuel) part → P part := by
      rintro part (rfl | ⟨value, place, h⟩)
      · exact always true
      · exact ih h
    cases value with
    | bool verdict =>
      rw [show node = .always verdict from shape]
      exact always verdict
    | object members =>
      simp only [Compiled, NodeShape] at shape
      split at shape
      · obtain ⟨rs, hr, rfl⟩ := shape
        exact ofRules_induct (always true) (rules rs fun rule mem =>
          ⟨(hr.rule mem).1, (hr.rule mem).2.1, fun part of => made ((hr.rule mem).2.2 part of)⟩)
      · obtain ⟨reference, target, -, found, shape⟩ := shape
        split at shape
        · obtain ⟨rs, hr, rfl⟩ := shape
          refine ofRules_induct (always true) (rules _ fun rule mem => ?_)
          rcases List.mem_cons.1 mem with rfl | mem
          · refine ⟨Pointer.child_ne_root _ _, .reference _ _ rfl, fun part of => ?_⟩
            rw [List.mem_singleton.1 of]
            exact ref target _ found
          · exact ⟨(hr.rule mem).1, (hr.rule mem).2.1,
              fun part of => made ((hr.rule mem).2.2 part of)⟩
        · rw [shape]
          exact ref target _ found
    | _ => exact shape.elim

/-- Every reference that occurs in a compiled schema is bound to what it leads to. -/
theorem Compiled.find?_of_contains {fuel : Nat} {value : Value} {place : Place} {node : Node}
    (shape : compiler.Compiled refs fuel value place node) {target : EntryId} {reference : String}
    (occurs : node.Contains (.ref target reference)) : refs.find? reference = some target := by
  refine Compiled.induction (P := fun node => node.Contains (.ref target reference) →
    refs.find? reference = some target) ?_ ?_ ?_ shape occurs
  · intro verdict occurs
    cases occurs
  · intro target' reference' found occurs
    cases occurs
    exact found
  · intro rules ih occurs
    cases occurs with
    | part mem of inner => exact (ih _ mem).2.2 _ of inner

/-- Every keyword that occurs in a compiled schema has a place behind the root. -/
theorem Compiled.schemaPath_ne_root {fuel : Nat} {value : Value} {place : Place} {node : Node}
    (shape : compiler.Compiled refs fuel value place node) {rules : List (Rule Check)}
    (occurs : node.Contains (.rules rules)) : ∀ rule ∈ rules, rule.schemaPath ≠ "#" := by
  refine Compiled.induction (P := fun node => node.Contains (.rules rules) →
    ∀ rule ∈ rules, rule.schemaPath ≠ "#") ?_ ?_ ?_ shape occurs
  · intro verdict occurs
    cases occurs
  · intro target' reference' found occurs
    cases occurs
  · intro rules' ih occurs rule mem
    cases occurs with
    | self => exact (ih rule mem).1
    | part mem' of inner => exact (ih _ mem').2.2 _ of inner rule mem

end Compiler

end JsonSchema
