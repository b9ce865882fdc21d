import JsonSchema.Compilation.Schema
import Mathlib.Data.List.Forall2

/-!
# The shape of compiled schemas

What a compiled schema looks like, said by recursion on the depth to which it was compiled
and without the store that was changed on the way. References are looked up in the bindings
that the compilation left with the entry.

* `Applicator.Shapes`, `Extension.Shapes`, `Builtin.Shapes`: the check of a keyword, given
  how subschemas look.
* `Compiler.Compiled`: the compiled form of a schema.
* `Compiler.Compiled.mono`: more bindings do no harm.
-/

namespace JsonSchema

/-- A relation between a schema at a place and its compiled form. -/
abbrev NodeRelation := Value → Place → Node → Prop

/-! ## Places -/

namespace Occurrence

/-- The place of the part of the value at the end of some steps. -/
def partPlace (o : Occurrence) (steps : List String) : Place :=
  { o.place with schemaPath := steps.foldl Pointer.child o.schemaPath, applyId := true }

/-- The place of the value of another keyword of the schema. -/
def siblingPlace (o : Occurrence) (keyword : String) : Place :=
  { o.place with schemaPath := Pointer.child o.place.schemaPath keyword, applyId := true }

/-! ## Parts of the value -/

/-- The compiled forms of a list of schemas in the value. -/
def ListShape (N : NodeRelation) (o : Occurrence) (values : List Value) (nodes : List Node) :
    Prop :=
  List.Forall₂ (fun v node => N v.1 (o.partPlace [toString v.2]) node) values.zipIdx nodes

/-- The compiled forms of the value as a list of one or more schemas. -/
def AlternativesShape (N : NodeRelation) (o : Occurrence) (nodes : List Node) : Prop :=
  ∃ values, o.value = .array values ∧ values ≠ [] ∧ o.ListShape N values nodes

/-- The compiled form of another keyword of the schema, if it is there. -/
def SiblingShape (N : NodeRelation) (o : Occurrence) (keyword : String) (node? : Option Node) :
    Prop :=
  match Members.get? o.siblings keyword with
  | none => node? = none
  | some schema => ∃ node, N schema (o.siblingPlace keyword) node ∧ node? = some node

/-- The compiled form of a dependency. -/
def DependencyShape (N : NodeRelation) (o : Occurrence) (property : String) (value : Value)
    (dependency : Dependency Node) : Prop :=
  match value with
  | .array values => ∃ names, values.mapM Value.asString? = some names ∧ dependency = .names names
  | schema => ∃ node, N schema (o.partPlace [property]) node ∧ dependency = .schema node

end Occurrence

/-! ## Keywords -/

/-- The check of a keyword that applies subschemas. -/
def Applicator.Shapes (applicator : Applicator) (N : NodeRelation) (o : Occurrence)
    (check : Check) : Prop :=
  match applicator with
  | properties => ∃ members schemas, o.value = .object members ∧
      List.Forall₂ (fun m s => s.1 = m.1 ∧ N m.2 (o.partPlace [m.1]) s.2) members schemas ∧
      check = .properties (schemas.filter (!·.2.isTrivial))
  | patternProperties => ∃ members patterns schemas, o.value = .object members ∧
      Members.patterns members = .ok patterns ∧
      List.Forall₂ (fun m node => N m.2 (o.partPlace [m.1]) node) members schemas ∧
      check = .patternProperties (patterns.zip schemas)
  | additionalProperties => ∃ patterns node,
      (o.membersAt "patternProperties").patterns = .ok patterns ∧ N o.value (o.partPlace []) node ∧
      check = .additionalProperties (o.membersAt "properties").names patterns node
  | propertyNames => ∃ node, N o.value (o.partPlace []) node ∧ check = .propertyNames node
  | dependencies => ∃ members dependencies, o.value = .object members ∧
      List.Forall₂ (fun m d => d.1 = m.1 ∧ o.DependencyShape N m.1 m.2 d.2) members dependencies ∧
      check = .dependencies dependencies
  | items =>
    match o.value with
    | .array values => ∃ nodes, o.ListShape N values nodes ∧ check = .tuple nodes
    | _ => ∃ node, N o.value (o.partPlace []) node ∧ check = .eachItem node
  | additionalItems =>
    match (o.siblings.get? "items").bind Value.asArray? with
    | some values => ∃ node, N o.value (o.partPlace []) node ∧
        check = .additionalItems values.length node
    | none => check = .apply (.always true)
  | contains => ∃ node, N o.value (o.partPlace []) node ∧ check = .contains node
  | allOf => ∃ nodes, o.AlternativesShape N nodes ∧ check = .allOf nodes
  | anyOf => ∃ nodes, o.AlternativesShape N nodes ∧ check = .anyOf nodes
  | oneOf => ∃ nodes, o.AlternativesShape N nodes ∧ check = .oneOf nodes
  | not => ∃ node, N o.value (o.partPlace []) node ∧ check = .not node
  | conditional => ∃ condition yes no, N o.value (o.partPlace []) condition ∧
      o.SiblingShape N "then" yes ∧ o.SiblingShape N "else" no ∧
      check = if yes.isNone && no.isNone then .apply (.always true)
        else .conditional condition yes no

/-- The check of a keyword that is put together from parts. -/
def Extension.Shapes (meaning : Extension) (compiler : Compiler) (N : NodeRelation)
    (o : Occurrence) (check : Check) : Prop :=
  match meaning with
  | .remark message params accepts => check = .remark ⟨message, params⟩ accepts
  | .children => ∃ node, N o.value (o.partPlace ["child/0"]) node ∧ check = .children node
  | .verdict => ∃ node, N o.value (o.partPlace []) node ∧ check = .verdict node
  | .sibling keyword => ∃ node?, o.SiblingShape N keyword node? ∧
      check = .apply (node?.getD (.always true))
  | .below => check = .beneath ["a/b~c", "7"] "deep"
  | .refuse _ => False
  | .format => check = .predicate (fun data =>
      match (o.value.asString?).bind (FormatTable.get? compiler.formats) with
      | some found => (data.asString?.map found.accepts).getD true
      | none => false) false
  | .probe _ => check = .probe

/-- The check of a built-in keyword. -/
def Builtin.Shapes (meaning : Builtin) (compiler : Compiler) (N : NodeRelation) (o : Occurrence)
    (check : Check) : Prop :=
  match meaning with
  | asserts kind => ∃ assertion, kind.compile o.value = .ok assertion ∧ check = .assertion assertion
  | applies applicator => applicator.Shapes N o check
  | format => ∃ name, o.value = .string name ∧
      match FormatTable.get? compiler.formats name with
      | some found => check = .assertion (.format name found)
      | none => check = .apply (.always true)

namespace Compiler

/-- The check of a keyword; none if the keyword only informs. -/
def CheckShape (compiler : Compiler) (N : NodeRelation) (o : Occurrence) (check? : Option Check) :
    Prop :=
  match o.keyword.behavior with
  | .informative => check? = none
  | .validate test traced => check? = some (.predicate (test o.value) traced)
  | .builtin meaning => ∃ check, meaning.Shapes compiler N o check ∧ check? = some check
  | .extension meaning => ∃ check, meaning.Shapes compiler N o check ∧ check? = some check
  | .expand template => ∃ node, N (template o.value o.siblings) (o.partPlace []) node ∧
      check? = some (.apply node)
  | .async test => check? = some (.deferred (test o.value))

/-- The compiled form of a keyword; none if the keyword only informs. -/
def RuleShape (compiler : Compiler) (N : NodeRelation) (o : Occurrence)
    (rule? : Option (Rule Check)) : Prop :=
  ∃ check?, compiler.CheckShape N o check? ∧
    rule? = check?.map fun check =>
      { keyword := o.keyword.name, schemaPath := o.schemaPath, types := o.keyword.types, check }

/-- The keywords in a schema, in their order of application. -/
def occurrences (compiler : Compiler) (members : Members) (place : Place) : List Occurrence :=
  compiler.vocabulary.ordered.filterMap fun keyword =>
    if keyword.name = "$ref" then none
    else (members.get? keyword.name).map fun value =>
      ({ keyword, value, siblings := members, place } : Occurrence)

/-- The compiled forms of the keywords of a schema. -/
def RulesShape (compiler : Compiler) (N : NodeRelation) (members : Members) (place : Place)
    (rules : List (Rule Check)) : Prop :=
  ∃ rules?, List.Forall₂ (compiler.RuleShape N) (compiler.occurrences members place) rules? ∧
    rules = rules?.filterMap id

/-- The base inside a schema whose identifier, if it counts, is a text. -/
def innerBase (members : Members) (base : String) (applyId : Bool) : String :=
  match members.get? "$id", applyId with
  | some (.string id), true => documentPart (resolveUrl base id)
  | _, _ => base

/-- The rule that stands for the reference of a schema where keywords may stand beside it. -/
def referenceRule (place : Place) (target : Node) : Rule Check :=
  { keyword := "$ref", schemaPath := Pointer.child place.schemaPath "$ref", types := none
    check := .apply target }

/-- The compiled form of a schema, given those of its parts and what references lead to. -/
def NodeShape (compiler : Compiler) (refs : Bindings String EntryId) (N : NodeRelation)
    (value : Value) (outside : Place) (node : Node) : Prop :=
  match value with
  | .bool verdict => node = .always verdict
  | .object members =>
    let place := { outside with
      base := innerBase members outside.base outside.applyId, applyId := true }
    match Members.get? members "$ref" with
    | none => ∃ rules, compiler.RulesShape N members place rules ∧ node = ofRules rules
    | some text => ∃ reference target, text = .string reference ∧
        refs.find? (resolveUrl place.base reference) = some target ∧
        let proxy := Node.ref target (resolveUrl place.base reference)
        if compiler.options.extendRefs = .apply then
          ∃ rules, compiler.RulesShape N members place rules ∧
            node = ofRules (referenceRule place proxy :: rules)
        else node = proxy
  | _ => False

/-- The compiled form of a schema, down to a depth. -/
def Compiled (compiler : Compiler) (refs : Bindings String EntryId) : Nat → NodeRelation
  | 0, _, _, _ => False
  | fuel + 1, value, place, node =>
    compiler.NodeShape refs (compiler.Compiled refs fuel) value place node

end Compiler

/-! ## Monotonicity -/

section Mono

variable {N N' : NodeRelation} (h : ∀ value place node, N value place node → N' value place node)

include h

theorem Occurrence.ListShape.mono {o : Occurrence} {values : List Value} {nodes : List Node}
    (shape : o.ListShape N values nodes) : o.ListShape N' values nodes :=
  List.Forall₂.imp (fun _ _ => h _ _ _) shape

theorem Occurrence.AlternativesShape.mono {o : Occurrence} {nodes : List Node}
    (shape : o.AlternativesShape N nodes) : o.AlternativesShape N' nodes := by
  obtain ⟨values, hv, ne, list⟩ := shape
  exact ⟨values, hv, ne, list.mono h⟩

theorem Occurrence.SiblingShape.mono {o : Occurrence} {keyword : String} {node? : Option Node}
    (shape : o.SiblingShape N keyword node?) : o.SiblingShape N' keyword node? := by
  rw [SiblingShape] at shape ⊢
  split
  · next none => rwa [none] at shape
  · next schema some =>
    rw [some] at shape
    obtain ⟨node, hn, e⟩ := shape
    exact ⟨node, h _ _ _ hn, e⟩

theorem Occurrence.DependencyShape.mono {o : Occurrence} {property : String} {value : Value}
    {d : Dependency Node} (shape : o.DependencyShape N property value d) :
    o.DependencyShape N' property value d := by
  cases value with
  | array values => exact shape
  | _ =>
    obtain ⟨node, hn, e⟩ := shape
    exact ⟨node, h _ _ _ hn, e⟩

theorem Applicator.Shapes.mono {applicator : Applicator} {o : Occurrence} {check : Check}
    (shape : applicator.Shapes N o check) : applicator.Shapes N' o check := by
  cases applicator with
  | properties =>
    obtain ⟨members, schemas, hv, list, e⟩ := shape
    exact ⟨members, schemas, hv, list.imp fun _ _ s => ⟨s.1, h _ _ _ s.2⟩, e⟩
  | patternProperties =>
    obtain ⟨members, patterns, schemas, hv, hp, list, e⟩ := shape
    exact ⟨members, patterns, schemas, hv, hp, list.imp fun _ _ => h _ _ _, e⟩
  | additionalProperties =>
    obtain ⟨patterns, node, hp, hn, e⟩ := shape
    exact ⟨patterns, node, hp, h _ _ _ hn, e⟩
  | dependencies =>
    obtain ⟨members, dependencies, hv, list, e⟩ := shape
    exact ⟨members, dependencies, hv, list.imp fun _ _ s => ⟨s.1, s.2.mono h⟩, e⟩
  | items =>
    simp only [Shapes] at shape ⊢
    split at shape
    · obtain ⟨nodes, list, e⟩ := shape
      exact ⟨nodes, list.mono h, e⟩
    · obtain ⟨node, hn, e⟩ := shape
      exact ⟨node, h _ _ _ hn, e⟩
  | additionalItems =>
    simp only [Shapes] at shape ⊢
    split at shape
    · obtain ⟨node, hn, e⟩ := shape
      exact ⟨node, h _ _ _ hn, e⟩
    · exact shape
  | propertyNames | contains | not =>
    obtain ⟨node, hn, e⟩ := shape
    exact ⟨node, h _ _ _ hn, e⟩
  | allOf | anyOf | oneOf =>
    obtain ⟨nodes, list, e⟩ := shape
    exact ⟨nodes, list.mono h, e⟩
  | conditional =>
    obtain ⟨condition, yes, no, hn, hy, hno, e⟩ := shape
    exact ⟨condition, yes, no, h _ _ _ hn, hy.mono h, hno.mono h, e⟩

theorem Extension.Shapes.mono {meaning : Extension} {compiler : Compiler} {o : Occurrence}
    {check : Check} (shape : meaning.Shapes compiler N o check) :
    meaning.Shapes compiler N' o check := by
  cases meaning with
  | children | verdict =>
    obtain ⟨node, hn, e⟩ := shape
    exact ⟨node, h _ _ _ hn, e⟩
  | sibling keyword =>
    obtain ⟨node?, hs, e⟩ := shape
    exact ⟨node?, hs.mono h, e⟩
  | _ => exact shape

theorem Builtin.Shapes.mono {meaning : Builtin} {compiler : Compiler} {o : Occurrence}
    {check : Check} (shape : meaning.Shapes compiler N o check) :
    meaning.Shapes compiler N' o check := by
  cases meaning with
  | applies applicator => exact Applicator.Shapes.mono h shape
  | _ => exact shape

theorem Compiler.CheckShape.mono {compiler : Compiler} {o : Occurrence} {check? : Option Check}
    (shape : compiler.CheckShape N o check?) : compiler.CheckShape N' o check? := by
  rw [CheckShape] at shape ⊢
  split at shape
  · exact shape
  · exact shape
  · obtain ⟨check, hc, e⟩ := shape
    exact ⟨check, hc.mono h, e⟩
  · obtain ⟨check, hc, e⟩ := shape
    exact ⟨check, hc.mono h, e⟩
  · obtain ⟨node, hn, e⟩ := shape
    exact ⟨node, h _ _ _ hn, e⟩
  · exact shape

theorem Compiler.RulesShape.mono {compiler : Compiler} {members : Members} {place : Place}
    {rules : List (Rule Check)} (shape : compiler.RulesShape N members place rules) :
    compiler.RulesShape N' members place rules := by
  obtain ⟨rules?, list, e⟩ := shape
  refine ⟨rules?, list.imp fun o rule? rule => ?_, e⟩
  obtain ⟨check?, hc, e⟩ := rule
  exact ⟨check?, hc.mono h, e⟩

theorem Compiler.NodeShape.mono {compiler : Compiler} {refs refs' : Bindings String EntryId}
    (more : ∀ key target, refs.find? key = some target → refs'.find? key = some target)
    {value : Value} {place : Place} {node : Node}
    (shape : compiler.NodeShape refs N value place node) :
    compiler.NodeShape refs' N' value place node := by
  cases value with
  | bool verdict => exact shape
  | object members =>
    simp only [NodeShape] at shape ⊢
    split at shape
    · obtain ⟨rules, hr, e⟩ := shape
      exact ⟨rules, hr.mono h, e⟩
    · obtain ⟨reference, target, text, found, shape⟩ := shape
      refine ⟨reference, target, text, more _ _ found, ?_⟩
      split at shape
      · next apply =>
        obtain ⟨rules, hr, e⟩ := shape
        rw [if_pos apply]
        exact ⟨rules, hr.mono h, e⟩
      · next other =>
        rw [if_neg other]
        exact shape
  | _ => exact shape

end Mono

/-- A compiled form stays one when more references are bound. -/
theorem Compiler.Compiled.mono {compiler : Compiler} {refs refs' : Bindings String EntryId}
    (more : ∀ key target, refs.find? key = some target → refs'.find? key = some target)
    {fuel : Nat} {value : Value} {place : Place} {node : Node}
    (shape : compiler.Compiled refs fuel value place node) :
    compiler.Compiled refs' fuel value place node := by
  induction fuel generalizing value place node with
  | zero => exact shape
  | succ fuel ih => exact NodeShape.mono (fun _ _ _ => ih) more shape

end JsonSchema
