import JsonSchema.Proofs.Compilation.Shape
import JsonSchema.Proofs.Store.Identifiers

/-!
# The parts that a schema is compiled with

A schema is compiled with a function for its parts and a function for what it refers to. Which
parts are compiled, and at which places, depends on the schema alone. So what can be said of a
compilation step by step holds of a schema if it holds of its parts.

* `CompileM.Congruent`: a relation between compilations that is kept when steps are put together.
* `Occurrence.Applies`: the schemas that a keyword compiles, each with its place.
* `Compiler.nodeWith`: a schema, given how its keywords are compiled.
* `Compiler.node_related`: a schema that is compiled with related functions.
* `Compiler.node_of_parts`: what is kept by the compilation of a schema.
-/

namespace JsonSchema

/-! ## Relations between compilations -/

/-- The error speaks of a schema itself: neither is something missing, nor was a document refused
    that was checked. -/
def SchemaError.isPlain : SchemaError → Bool
  | missing _ _ | invalid _ => false
  | _ => true

/-- Besides, the error does not say that schemas are nested too deep. -/
def SchemaError.isFault : SchemaError → Bool
  | malformed (.nestingAt _) => false
  | e => e.isPlain

theorem SchemaError.isPlain_of_isFault {e : SchemaError} (fault : e.isFault = true) :
    e.isPlain = true := by
  unfold isFault at fault
  split at fault
  · cases fault
  · exact fault

/-- A relation between compilations that holds of simple steps, and is kept when steps are put
    together. That something is missing is said by references only, no document is refused, and the
    depth is not looked at. -/
structure CompileM.Congruent (R : (α : Type) → CompileM α → CompileM α → Prop) : Prop where
  pure : ∀ {α : Type} (a : α), R α (Pure.pure a) (Pure.pure a)
  throw : ∀ {α : Type} {e : SchemaError}, e.isFault = true →
    R α (MonadExcept.throw e) (MonadExcept.throw e)
  get : R Compilation MonadState.get MonadState.get
  trace : ∀ events, R Unit (Compilation.trace events) (Compilation.trace events)
  bind : ∀ {α β : Type} {m m' : CompileM α} {f f' : α → CompileM β}, R α m m' →
    (∀ a, R β (f a) (f' a)) → R β (m >>= f) (m' >>= f')

namespace CompileM.Congruent

variable {R : (α : Type) → CompileM α → CompileM α → Prop} (congruent : Congruent R)

include congruent

theorem map {α β : Type} {m m' : CompileM α} {f : α → β} (h : R α m m') :
    R β (f <$> m) (f <$> m') := by
  rw [map_eq_pure_bind, map_eq_pure_bind]
  exact congruent.bind h fun _ => congruent.pure _

theorem mapM {α β : Type} {f f' : α → CompileM β} (list : List α)
    (step : ∀ a ∈ list, R β (f a) (f' a)) : R (List β) (list.mapM f) (list.mapM f') := by
  induction list with
  | nil =>
    rw [List.mapM_nil, List.mapM_nil]
    exact congruent.pure _
  | cons a rest ih =>
    rw [List.mapM_cons, List.mapM_cons]
    refine congruent.bind (step a List.mem_cons_self) fun _ => ?_
    exact congruent.bind (ih fun a mem => step a (List.mem_cons_of_mem _ mem)) fun _ =>
      congruent.pure _

end CompileM.Congruent

/-! ## Parts -/

/-- Where a keyword that applies subschemas looks for them. -/
def Applicator.nesting : Applicator → Nesting
  | properties | patternProperties | dependencies => .map
  | additionalProperties | propertyNames | additionalItems | contains | not | conditional => .schema
  | items => .schemaOrArray
  | allOf | anyOf | oneOf => .array

/-- The schemas that a keyword compiles, each with the keyword and the steps in its value that
    lead to it, and with its place. -/
inductive Occurrence.Applies (o : Occurrence) : String → List String → Value → Place → Prop
  | part {applicator : Applicator} {inner : List String} {part : Value}
      (behavior : o.keyword.behavior = .builtin (.applies applicator))
      (offers : applicator.nesting.Offers o.value inner part) :
      Applies o o.keyword.name inner part (o.partPlace inner)
  | branch {keyword : String} {part : Value}
      (behavior : o.keyword.behavior = .builtin (.applies .conditional))
      (named : keyword = "then" ∨ keyword = "else")
      (found : o.siblings.get? keyword = some part) :
      Applies o keyword [] part (o.siblingPlace keyword)
  | extended {meaning : Extension} (steps : List String)
      (behavior : o.keyword.behavior = .extension meaning) :
      Applies o o.keyword.name steps o.value (o.partPlace steps)
  | sibling {keyword : String} {part : Value}
      (behavior : o.keyword.behavior = .extension (.sibling keyword))
      (found : o.siblings.get? keyword = some part) :
      Applies o keyword [] part (o.siblingPlace keyword)
  | expanded {template : Value → Members → Value} (behavior : o.keyword.behavior = .expand template) :
      Applies o o.keyword.name [] (template o.value o.siblings) (o.partPlace [])

section Related

variable {R : (α : Type) → CompileM α → CompileM α → Prop} (congruent : CompileM.Congruent R)
  {schema schema' : SchemaCompiler} {o : Occurrence}

/-! ## Keywords -/

namespace Occurrence

/-- What is done with a part of a value that may be missing. -/
theorem lift_bind_related (congruent : CompileM.Congruent R) {α β : Type} {x : Except Fault α}
    {f f' : α → CompileM β} (step : ∀ a, x = .ok a → R β (f a) (f' a)) :
    R β (o.lift x >>= f) (o.lift x >>= f') := by
  cases x with
  | ok a => exact step a rfl
  | error fault => exact congruent.throw rfl

include congruent

theorem members_bind_related {β : Type} {f f' : Members → CompileM β}
    (step : ∀ members, o.value = .object members → R β (f members) (f' members)) :
    R β (o.members >>= f) (o.members >>= f') := by
  refine lift_bind_related congruent fun members h => step members ?_
  cases hv : o.value <;> rw [hv] at h <;> cases h
  rfl

theorem sibling_related {keyword : String}
    (parts : ∀ part, o.siblings.get? keyword = some part →
      R Node (schema part (o.siblingPlace keyword)) (schema' part (o.siblingPlace keyword))) :
    R (Option Node) (o.sibling schema keyword) (o.sibling schema' keyword) := by
  unfold sibling
  cases found : Members.get? o.siblings keyword with
  | none => exact congruent.pure none
  | some part => exact congruent.bind (parts part found) fun _ => congruent.pure _

theorem schemas_related (values : List Value)
    (parts : ∀ (i : Nat) (part : Value), values[i]? = some part →
      R Node (schema part (o.partPlace [toString i])) (schema' part (o.partPlace [toString i]))) :
    R (List Node) (o.schemas schema values) (o.schemas schema' values) :=
  congruent.mapM _ fun v mem => parts v.2 v.1 (List.mem_zipIdx_iff_getElem?.1 mem)

theorem dependency_related {property : String} {value : Value}
    (part : R Node (schema value (o.partPlace [property])) (schema' value (o.partPlace [property]))) :
    R (Dependency Node) (o.dependency schema property value) (o.dependency schema' property value) := by
  cases value with
  | array values =>
    unfold dependency
    dsimp only
    split
    · exact congruent.pure _
    · exact congruent.throw rfl
  | _ => exact congruent.bind part fun _ => congruent.pure _

end Occurrence

open Occurrence

/-- The compilations of the parts of a keyword are related. -/
def Occurrence.Relates (R : (α : Type) → CompileM α → CompileM α → Prop)
    (schema schema' : SchemaCompiler) (o : Occurrence) : Prop :=
  ∀ keyword inner part place, o.Applies keyword inner part place →
    R Node (schema part place) (schema' part place)

variable (relates : o.Relates R schema schema')

include congruent relates

theorem Applicator.compile_related {applicator : Applicator}
    (behavior : o.keyword.behavior = .builtin (.applies applicator)) :
    R Check (applicator.compile schema o) (applicator.compile schema' o) := by
  have own (nesting : applicator.nesting = .schema) :
      R Node (o.schema schema) (o.schema schema') :=
    relates _ _ _ _ (.part behavior (nesting ▸ .schema o.value))
  have member (nesting : applicator.nesting = .map) {members : Members}
      (value : o.value = .object members) {m : String × Value} (mem : m ∈ members) :
      R Node (o.subschema schema m.2 [m.1]) (o.subschema schema' m.2 [m.1]) :=
    relates _ _ _ _ (.part behavior (nesting ▸ value ▸ .member mem))
  have listed (nesting : applicator.nesting = .array ∨ applicator.nesting = .schemaOrArray)
      {items : List Value} (value : o.value = .array items) :
      R (List Node) (o.schemas schema items) (o.schemas schema' items) :=
    schemas_related congruent items fun i part found =>
      relates _ _ _ _ (.part behavior (value ▸ .item nesting found))
  have alternatives (nesting : applicator.nesting = .array) :
      R (List Node) (o.alternatives schema) (o.alternatives schema') := by
    refine lift_bind_related congruent fun values h => listed (.inl nesting) ?_
    cases hv : o.value with
    | array items =>
      rw [hv, Value.asArray?, Option.filter_some] at h
      split at h
      · cases h
        rfl
      · cases h
    | _ =>
      rw [hv] at h
      cases h
  cases applicator with
  | properties =>
    refine members_bind_related congruent fun members value => ?_
    refine congruent.bind (congruent.mapM _ fun m mem => ?_) fun _ => congruent.pure _
    exact congruent.bind (member rfl value mem) fun _ => congruent.pure _
  | patternProperties =>
    refine members_bind_related congruent fun members value => ?_
    refine lift_bind_related congruent fun patterns _ => ?_
    exact congruent.bind (congruent.mapM _ fun m mem => member rfl value mem) fun _ => congruent.pure _
  | additionalProperties =>
    refine lift_bind_related congruent fun patterns _ => ?_
    exact congruent.bind (own rfl) fun _ => congruent.pure _
  | dependencies =>
    refine members_bind_related congruent fun members value => ?_
    refine congruent.bind (congruent.mapM _ fun m mem => ?_) fun _ => congruent.pure _
    exact congruent.bind (dependency_related congruent (member rfl value mem)) fun _ => congruent.pure _
  | items =>
    cases value : o.value with
    | array values =>
      simp only [compile, value]
      exact congruent.bind (listed (.inr rfl) value) fun _ => congruent.pure _
    | _ =>
      simp only [compile, value]
      refine congruent.bind ?_ fun _ => congruent.pure _
      exact relates _ _ _ _ (.part behavior (.single fun items same => by rw [value] at same; cases same))
  | additionalItems =>
    cases first : (o.siblings.get? "items").bind Value.asArray? with
    | some values =>
      simp only [compile, first]
      exact congruent.bind (own rfl) fun _ => congruent.pure _
    | none =>
      simp only [compile, first]
      exact congruent.pure _
  | propertyNames | contains | not => exact congruent.bind (own rfl) fun _ => congruent.pure _
  | allOf | anyOf | oneOf => exact congruent.bind (alternatives rfl) fun _ => congruent.pure _
  | conditional =>
    have branch {keyword : String} (named : keyword = "then" ∨ keyword = "else") :
        R (Option Node) (o.sibling schema keyword) (o.sibling schema' keyword) :=
      sibling_related congruent fun part found => relates _ _ _ _ (.branch behavior named found)
    refine congruent.bind (own rfl) fun condition => ?_
    refine congruent.bind (branch (.inl rfl)) fun yes => ?_
    refine congruent.bind (branch (.inr rfl)) fun no => ?_
    split
    · exact congruent.pure _
    · exact congruent.pure _

theorem Extension.compile_related {meaning : Extension} (compiler : Compiler)
    (behavior : o.keyword.behavior = .extension meaning) :
    R Check (meaning.compile compiler schema o) (meaning.compile compiler schema' o) := by
  have own (steps : List String) :
      R Node (o.subschema schema o.value steps) (o.subschema schema' o.value steps) :=
    relates _ _ _ _ (.extended steps behavior)
  cases meaning with
  | children | verdict => exact congruent.bind (own _) fun _ => congruent.pure _
  | sibling keyword =>
    refine congruent.bind (sibling_related congruent fun part found => ?_) fun _ => congruent.pure _
    exact relates _ _ _ _ (.sibling behavior found)
  | refuse message => exact congruent.throw rfl
  | remark | below => exact congruent.pure _
  | format =>
    simp only [compile]
    split
    · exact congruent.pure _
    · exact congruent.pure _
  | probe preview =>
    cases preview with
    | true =>
      refine congruent.bind (congruent.map (own [])) fun _ => ?_
      exact congruent.bind (congruent.trace _) fun _ => congruent.pure _
    | false =>
      refine congruent.bind (congruent.pure _) fun _ => ?_
      exact congruent.bind (congruent.trace _) fun _ => congruent.pure _

theorem Builtin.compile_related {meaning : Builtin} (compiler : Compiler)
    (behavior : o.keyword.behavior = .builtin meaning) :
    R Check (meaning.compile compiler schema o) (meaning.compile compiler schema' o) := by
  cases meaning with
  | asserts kind =>
    refine congruent.map ?_
    cases kind.compile o.value with
    | ok assertion => exact congruent.pure _
    | error fault => exact congruent.throw rfl
  | applies applicator => exact Applicator.compile_related congruent relates behavior
  | format =>
    refine lift_bind_related congruent fun name _ => ?_
    split
    · exact congruent.pure _
    · split
      · exact congruent.throw rfl
      · exact congruent.pure _

namespace Compiler

variable (compiler : Compiler)

theorem check?_related :
    R (Option Check) (compiler.check? schema o) (compiler.check? schema' o) := by
  cases behavior : o.keyword.behavior with
  | informative | validate =>
    simp only [check?, behavior]
    exact congruent.pure _
  | builtin meaning =>
    simp only [check?, behavior]
    exact congruent.bind (Builtin.compile_related congruent relates compiler behavior) fun _ =>
      congruent.pure _
  | extension meaning =>
    simp only [check?, behavior]
    exact congruent.bind (Extension.compile_related congruent relates compiler behavior) fun _ =>
      congruent.pure _
  | expand template =>
    simp only [check?, behavior]
    exact congruent.bind (relates _ _ _ _ (.expanded behavior)) fun _ => congruent.pure _
  | async test =>
    simp only [check?, behavior]
    refine congruent.bind congruent.get fun c => ?_
    split
    · exact congruent.pure _
    · exact congruent.throw rfl

omit relates in
theorem refuseValue_related :
    R Unit (compiler.refuseValue o) (compiler.refuseValue o) := by
  have checked : ∀ validator : Validator, R Unit (do
      let verdict := validator.validate (← get).store.slots o.value
      Compilation.trace verdict.events
      unless verdict.violations.isEmpty do o.fail (.invalidValue verdict.violations)) (do
      let verdict := validator.validate (← get).store.slots o.value
      Compilation.trace verdict.events
      unless verdict.violations.isEmpty do o.fail (.invalidValue verdict.violations)) := by
    intro validator
    refine congruent.bind congruent.get fun c => congruent.bind (congruent.trace _) fun _ => ?_
    split
    · exact congruent.pure _
    · exact congruent.throw rfl
  unfold refuseValue
  dsimp only
  split
  · refine congruent.bind (congruent.throw rfl) fun _ => ?_
    split
    · exact checked _
    · exact congruent.pure _
  · split
    · exact checked _
    · exact congruent.pure _

theorem rule?_related :
    R (Option (Rule Check)) (compiler.rule? schema o) (compiler.rule? schema' o) := by
  refine congruent.bind (refuseValue_related congruent compiler) fun _ => ?_
  exact congruent.bind (check?_related congruent relates compiler) fun _ => congruent.pure _

/-- The keywords of a schema, given how a keyword is compiled. -/
def rulesWith (rule : Occurrence → CompileM (Option (Rule Check))) (members : Members)
    (place : Place) : CompileM (List (Rule Check)) := do
  refuseUnknown compiler members place
  return (← (compiler.occurrences members place).mapM rule).filterMap id

omit congruent relates in
theorem rulesWith_rule? :
    compiler.rulesWith (compiler.rule? schema) = compiler.rules schema := rfl

omit relates in
theorem rulesWith_related {rule rule' : Occurrence → CompileM (Option (Rule Check))}
    {members : Members} {place : Place}
    (each : ∀ o ∈ compiler.occurrences members place, R _ (rule o) (rule' o)) :
    R (List (Rule Check)) (compiler.rulesWith rule members place)
      (compiler.rulesWith rule' members place) := by
  refine congruent.bind ?_ fun _ => congruent.bind (congruent.mapM _ each) fun _ => congruent.pure _
  unfold refuseUnknown
  split
  · split
    · exact congruent.throw rfl
    · exact congruent.pure _
  · exact congruent.pure _

end Compiler

end Related

/-! ## Schemas -/

/-- The place inside a schema with these members. -/
def Place.inner (outside : Place) (members : Members) : Place :=
  { outside with
    base := Compiler.innerBase members outside.base outside.applyId, applyId := true }

namespace Compiler

variable {R : (α : Type) → CompileM α → CompileM α → Prop} (congruent : CompileM.Congruent R)
  {schema schema' : SchemaCompiler} {begin begin' : EntryId → Bool → CompileM Unit}
  (compiler : Compiler)

theorem baseInside_bind_related (congruent : CompileM.Congruent R) {α : Type} {members : Members}
    {outside : Place} {f f' : String → CompileM α}
    (step : R α (f (outside.inner members).base) (f' (outside.inner members).base)) :
    R α (baseInside members outside >>= f) (baseInside members outside >>= f') := by
  unfold Place.inner innerBase at step
  unfold baseInside
  cases own : members.get? "$id" with
  | none =>
    rw [own] at step
    exact step
  | some value =>
    rw [own] at step
    cases applies : outside.applyId with
    | false =>
      rw [applies] at step
      cases value <;> exact step
    | true =>
      rw [applies] at step
      cases value with
      | string id => exact step
      | _ => exact congruent.throw rfl

/-- The compiled form of a schema, given how its keywords are compiled. -/
def nodeWith (rules : Members → Place → CompileM (List (Rule Check)))
    (entry : EntryId → Bool → CompileM Unit) (value : Value) (outside : Place) : CompileM Node := do
  match value with
  | .bool verdict => return .always verdict
  | .object members =>
    let place := { outside with base := ← baseInside members outside, applyId := true }
    match Members.get? members "$ref" with
    | none => return ofRules (← rules members place)
    | some text =>
      let target ← reference entry text place
      match (compiler.optionsAt place).extendRefs with
      | .ignore => return target
      | .fail =>
        if (Members.names members).any compiler.checks then
          throw (.compilation "$ref" (.besideReference place.schemaPath))
        return target
      | .apply =>
        let rule : Rule Check :=
          { keyword := "$ref", schemaPath := Pointer.child place.schemaPath "$ref"
            types := none, check := .apply target }
        return ofRules (rule :: (← rules members place))
  | _ => throw (.malformed (.schemaAt outside.schemaPath))

theorem nodeWith_rules :
    compiler.nodeWith (compiler.rules schema) begin = compiler.node schema begin := rfl

include congruent

theorem nodeWith_related {rules rules' : Members → Place → CompileM (List (Rule Check))}
    {value : Value} {outside : Place}
    (keywords : ∀ members, value = .object members →
      R _ (rules members (outside.inner members)) (rules' members (outside.inner members)))
    (refers : ∀ members text, value = .object members → Members.get? members "$ref" = some text →
      R Node (reference begin text (outside.inner members))
        (reference begin' text (outside.inner members))) :
    R Node (compiler.nodeWith rules begin value outside)
      (compiler.nodeWith rules' begin' value outside) := by
  cases value with
  | bool verdict => exact congruent.pure _
  | object members =>
    have rules := keywords members rfl
    refine baseInside_bind_related congruent ?_
    dsimp only
    cases text : Members.get? members "$ref" with
    | none => exact congruent.bind rules fun _ => congruent.pure _
    | some text =>
      refine congruent.bind (refers members _ rfl text) fun target => ?_
      split
      · exact congruent.pure _
      · split
        · exact congruent.bind (congruent.throw rfl) fun _ => congruent.pure _
        · exact congruent.pure _
      · exact congruent.bind rules fun _ => congruent.pure _
  | _ => exact congruent.throw rfl

/-- A schema is compiled by related functions to related results, if this is so of the parts of
    its keywords and of its reference. -/
theorem node_related {value : Value} {outside : Place}
    (parts : ∀ members, value = .object members →
      ∀ o ∈ compiler.occurrences members (outside.inner members), o.Relates R schema schema')
    (refers : ∀ members text, value = .object members → Members.get? members "$ref" = some text →
      R Node (reference begin text (outside.inner members))
        (reference begin' text (outside.inner members))) :
    R Node (compiler.node schema begin value outside) (compiler.node schema' begin' value outside) := by
  rw [← nodeWith_rules, ← nodeWith_rules]
  refine nodeWith_related congruent compiler (fun members is => ?_) refers
  rw [← rulesWith_rule?, ← rulesWith_rule?]
  exact rulesWith_related congruent compiler fun o mem =>
    rule?_related congruent (parts members is o mem) compiler

omit congruent in
/-- Something is kept by the compilation of a schema, if this is so of the parts of its keywords
    and of its reference. -/
theorem node_of_parts {P : (α : Type) → CompileM α → Prop}
    (congruent : CompileM.Congruent fun α m _ => P α m) {value : Value} {outside : Place}
    (parts : ∀ members, value = .object members →
      ∀ o ∈ compiler.occurrences members (outside.inner members),
        ∀ keyword inner part place, o.Applies keyword inner part place → P Node (schema part place))
    (refers : ∀ members text, value = .object members → Members.get? members "$ref" = some text →
      P Node (reference begin text (outside.inner members))) :
    P Node (compiler.node schema begin value outside) :=
  @node_related (fun α m _ => P α m) congruent schema schema begin begin compiler value outside
    parts refers

end Compiler

end JsonSchema
