import JsonSchema.Proofs.Compilation.Outcomes
import JsonSchema.Proofs.Validation.Mirroring

/-!
# Two compiled forms of one schema

Schemas that are compiled twice, from like members at like places, have compiled forms that
mirror each other, if this is so of their parts.

* `Place.Like`, `Occurrence.Like`: places that differ only in the entries they are in.
* `Builtin.Shapes.mirrors`: the two checks of a built-in keyword.
* `Compiler.RulesShape.pairs`: the rules of a schema, one by one.
-/

namespace JsonSchema

/-! ## Places -/

/-- Two places in documents are the same, apart from the entries that the documents are in. -/
structure Place.Like (p p' : Place) : Prop where
  base : p.base = p'.base
  schemaPath : p.schemaPath = p'.schemaPath
  applyId : p.applyId = p'.applyId

/-- Members that are the same as far as keywords look at those beside them. -/
def Members.Like (members members' : Members) : Prop :=
  ∀ name, name ≠ "$async" → Members.get? members' name = Members.get? members name

/-- Two keywords of one name with one value, at like places. -/
structure Occurrence.Like (o o' : Occurrence) : Prop where
  name : o.keyword.name = o'.keyword.name
  value : o.value = o'.value
  siblings : Members.Like o.siblings o'.siblings
  place : o.place.Like o'.place

namespace Occurrence.Like

variable {o o' : Occurrence} (like : o.Like o')

include like

theorem schemaPath_eq : o.schemaPath = o'.schemaPath := by
  rw [schemaPath, schemaPath, like.name, like.place.schemaPath]

theorem partPlace (steps : List String) : (o.partPlace steps).Like (o'.partPlace steps) where
  base := like.place.base
  schemaPath := congrArg (steps.foldl Pointer.child) like.schemaPath_eq
  applyId := rfl

theorem siblingPlace (keyword : String) : (o.siblingPlace keyword).Like (o'.siblingPlace keyword) where
  base := like.place.base
  schemaPath := congrArg (Pointer.child · keyword) like.place.schemaPath
  applyId := rfl

theorem get?_eq {name : String} (ne : name ≠ "$async") :
    Members.get? o'.siblings name = Members.get? o.siblings name := like.siblings name ne

theorem membersAt_eq {name : String} (ne : name ≠ "$async") : o'.membersAt name = o.membersAt name := by
  rw [membersAt, membersAt, like.get?_eq ne]

end Occurrence.Like

/-! ## Parts -/

/-- What is related to the same elements in two ways is related. -/
theorem forall₂_join {α β γ : Type} {R : α → β → Prop} {S : α → γ → Prop} {T : β → γ → Prop}
    {as : List α} {bs : List β} {cs : List γ} (h : List.Forall₂ R as bs) (h' : List.Forall₂ S as cs)
    (join : ∀ a b c, R a b → S a c → T b c) : List.Forall₂ T bs cs := by
  induction h generalizing cs with
  | nil =>
    cases h'
    exact .nil
  | cons head tail ih =>
    cases h' with
    | cons head' tail' => exact .cons (join _ _ _ head head') (ih tail')

/-- What is related to related elements is related. -/
theorem forall₂_square {α β γ δ : Type} {K : α → β → Prop} {R : α → γ → Prop} {S : β → δ → Prop}
    {T : γ → δ → Prop} {as : List α} {bs : List β} {cs : List γ} {ds : List δ}
    (related : List.Forall₂ K as bs) (h : List.Forall₂ R as cs) (h' : List.Forall₂ S bs ds)
    (join : ∀ a b c d, K a b → R a c → S b d → T c d) : List.Forall₂ T cs ds := by
  have middle : List.Forall₂ (fun b c => ∃ a, K a b ∧ R a c) bs cs :=
    forall₂_join related h fun a _ _ k r => ⟨a, k, r⟩
  exact forall₂_join middle h' fun b c d ⟨a, k, r⟩ s => join a b c d k r s

section Pairs

/-- Compiled forms of one schema at like places are related. -/
def NodeRelation.Pairs (N N' : NodeRelation) (Q : Node → Node → Prop) : Prop :=
  ∀ value place place' node node', place.Like place' → N value place node →
    N' value place' node' → Q node node'

variable {N N' : NodeRelation} {Q : Node → Node → Prop} (pairs : NodeRelation.Pairs N N' Q)
  {o o' : Occurrence} (like : o.Like o')

include pairs like

theorem Occurrence.ListShape.mirrors {values : List Value} {nodes nodes' : List Node}
    (shape : o.ListShape N values nodes) (shape' : o'.ListShape N' values nodes') :
    List.Forall₂ Q nodes nodes' :=
  forall₂_join shape shape' fun _ _ _ h h' => pairs _ _ _ _ _ (like.partPlace _) h h'

theorem Occurrence.AlternativesShape.mirrors {nodes nodes' : List Node}
    (shape : o.AlternativesShape N nodes) (shape' : o'.AlternativesShape N' nodes') :
    List.Forall₂ Q nodes nodes' := by
  obtain ⟨values, hv, -, list⟩ := shape
  obtain ⟨values', hv', -, list'⟩ := shape'
  rw [← like.value, hv] at hv'
  cases hv'
  exact list.mirrors pairs like list'

theorem Occurrence.SiblingShape.mirrors {keyword : String} (ne : keyword ≠ "$async")
    {node? node?' : Option Node} (shape : o.SiblingShape N keyword node?)
    (shape' : o'.SiblingShape N' keyword node?') : Option.Rel Q node? node?' := by
  rw [SiblingShape] at shape shape'
  rw [like.get?_eq ne] at shape'
  cases found : Members.get? o.siblings keyword with
  | none =>
    rw [found] at shape shape'
    rw [shape, shape']
    exact .none
  | some schema =>
    rw [found] at shape shape'
    obtain ⟨node, h, rfl⟩ := shape
    obtain ⟨node', h', rfl⟩ := shape'
    exact .some (pairs _ _ _ _ _ (like.siblingPlace keyword) h h')

theorem Occurrence.DependencyShape.mirrors {property : String} {value : Value}
    {d d' : Dependency Node} (shape : o.DependencyShape N property value d)
    (shape' : o'.DependencyShape N' property value d') : d.Mirrors Q d' := by
  cases value with
  | array values =>
    obtain ⟨names, h, rfl⟩ := shape
    obtain ⟨names', h', rfl⟩ := shape'
    cases h.symm.trans h'
    exact .names names
  | _ =>
    obtain ⟨node, h, rfl⟩ := shape
    obtain ⟨node', h', rfl⟩ := shape'
    exact .schema (pairs _ _ _ _ _ (like.partPlace _) h h')

/-! ## Keywords -/

/-- The two checks of a keyword that applies subschemas. -/
theorem Applicator.Shapes.mirrors (trivial : ∀ a b, Q a b → a.isTrivial = b.isTrivial)
    (always : Q (.always true) (.always true)) {applicator : Applicator} {check check' : Check}
    {settled : Bool}
    (shape : applicator.Shapes N o check) (shape' : applicator.Shapes N' o' check') :
    check.Mirrors Q settled check' := by
  have own {steps : List String} {value : Value} {node node' : Node}
      (h : N value (o.partPlace steps) node) (h' : N' value (o'.partPlace steps) node') :
      Q node node' := pairs _ _ _ _ _ (like.partPlace steps) h h'
  cases applicator with
  | properties =>
    obtain ⟨members, schemas, hv, list, rfl⟩ := shape
    obtain ⟨members', schemas', hv', list', rfl⟩ := shape'
    rw [← like.value, hv] at hv'
    cases hv'
    refine .properties (List.rel_filter ?_ (forall₂_join list list' ?_))
    · exact fun a b r => by simp only [trivial _ _ r.2]
    · exact fun m s s' h h' => ⟨h.1.trans h'.1.symm, own h.2 h'.2⟩
  | patternProperties =>
    obtain ⟨members, patterns, schemas, hv, hp, list, rfl⟩ := shape
    obtain ⟨members', patterns', schemas', hv', hp', list', rfl⟩ := shape'
    rw [← like.value, hv] at hv'
    cases hv'
    cases hp.symm.trans hp'
    have nodes : List.Forall₂ Q schemas schemas' :=
      forall₂_join list list' fun m n n' h h' => own h h'
    refine .patternProperties ?_
    clear hp hp' list list'
    induction nodes generalizing patterns with
    | nil => cases patterns <;> exact .nil
    | cons head tail ih =>
      cases patterns with
      | nil => exact .nil
      | cons pattern patterns => exact .cons ⟨rfl, head⟩ (ih patterns)
  | additionalProperties =>
    obtain ⟨patterns, node, hp, h, rfl⟩ := shape
    obtain ⟨patterns', node', hp', h', rfl⟩ := shape'
    rw [like.membersAt_eq (by decide)] at hp'
    rw [like.membersAt_eq (by decide)]
    rw [← like.value] at h'
    cases hp.symm.trans hp'
    exact .additionalProperties _ _ (own h h')
  | propertyNames =>
    obtain ⟨node, h, rfl⟩ := shape
    obtain ⟨node', h', rfl⟩ := shape'
    exact .propertyNames (own h (like.value ▸ h'))
  | dependencies =>
    obtain ⟨members, ds, hv, list, rfl⟩ := shape
    obtain ⟨members', ds', hv', list', rfl⟩ := shape'
    rw [← like.value, hv] at hv'
    cases hv'
    refine .dependencies (forall₂_join list list' fun m d d' h h' => ?_)
    exact ⟨h.1.trans h'.1.symm, h.2.mirrors pairs like h'.2⟩
  | items =>
    simp only [Shapes, ← like.value] at shape shape'
    split at shape
    · next values hv =>
      rw [hv] at shape'
      obtain ⟨nodes, list, rfl⟩ := shape
      obtain ⟨nodes', list', rfl⟩ := shape'
      exact .tuple (list.mirrors pairs like list')
    · next single =>
      obtain ⟨node, h, rfl⟩ := shape
      split at shape'
      · next values hv => exact absurd hv (single values)
      · obtain ⟨node', h', rfl⟩ := shape'
        exact .eachItem (own h h')
  | additionalItems =>
    simp only [Shapes, ← like.value, like.get?_eq (show "items" ≠ "$async" by decide)] at shape shape'
    split at shape
    · next values hv =>
      rw [hv] at shape'
      obtain ⟨node, h, rfl⟩ := shape
      obtain ⟨node', h', rfl⟩ := shape'
      exact .additionalItems _ (own h h')
    · next hv =>
      rw [hv] at shape'
      rw [shape, shape']
      exact .apply always
  | contains =>
    obtain ⟨node, h, rfl⟩ := shape
    obtain ⟨node', h', rfl⟩ := shape'
    exact .contains (own h (like.value ▸ h'))
  | allOf =>
    obtain ⟨nodes, list, rfl⟩ := shape
    obtain ⟨nodes', list', rfl⟩ := shape'
    exact .allOf (list.mirrors pairs like list')
  | anyOf =>
    obtain ⟨nodes, list, rfl⟩ := shape
    obtain ⟨nodes', list', rfl⟩ := shape'
    exact .anyOf (list.mirrors pairs like list')
  | oneOf =>
    obtain ⟨nodes, list, rfl⟩ := shape
    obtain ⟨nodes', list', rfl⟩ := shape'
    exact .oneOf (list.mirrors pairs like list')
  | not =>
    obtain ⟨node, h, rfl⟩ := shape
    obtain ⟨node', h', rfl⟩ := shape'
    exact .not (own h (like.value ▸ h'))
  | conditional =>
    obtain ⟨condition, yes, no, h, hy, hn, rfl⟩ := shape
    obtain ⟨condition', yes', no', h', hy', hn', rfl⟩ := shape'
    have both := own h (like.value ▸ h')
    have yeses := hy.mirrors pairs like (by decide) hy'
    have nos := hn.mirrors pairs like (by decide) hn'
    cases yeses with
    | none =>
      cases nos with
      | none => exact .apply always
      | some r => exact .conditional both .none (.some r)
    | some r =>
      cases nos with
      | none => exact .conditional both (.some r) .none
      | some r' => exact .conditional both (.some r) (.some r')

/-- The two checks of a built-in keyword. -/
theorem Builtin.Shapes.mirrors (trivial : ∀ a b, Q a b → a.isTrivial = b.isTrivial)
    (always : Q (.always true) (.always true)) {compiler compiler' : Compiler}
    (formats : compiler.formats = compiler'.formats) {builtin : Builtin} {check check' : Check}
    {settled : Bool}
    (shape : builtin.Shapes compiler N o check) (shape' : builtin.Shapes compiler' N' o' check') :
    check.Mirrors Q settled check' := by
  cases builtin with
  | asserts kind =>
    obtain ⟨assertion, h, rfl⟩ := shape
    obtain ⟨assertion', h', rfl⟩ := shape'
    rw [← like.value] at h'
    cases h.symm.trans h'
    exact .assertion assertion
  | applies applicator => exact Applicator.Shapes.mirrors pairs like trivial always shape shape'
  | format =>
    obtain ⟨name, hv, shape⟩ := shape
    obtain ⟨name', hv', shape'⟩ := shape'
    rw [← like.value, hv] at hv'
    cases hv'
    rw [← formats] at shape'
    split at shape
    · next found =>
      rw [found] at shape'
      rw [shape, shape']
      exact .assertion _
    · next missing =>
      rw [missing] at shape'
      rw [shape, shape']
      exact .apply always

end Pairs

/-! ## Keywords of two tables -/

/-- Two keywords do the same, except that the outcome of the second one is known at once, if tests
    are `settled`. -/
structure Keyword.Like (settled : Bool) (k k' : Keyword) : Prop where
  name : k.name = k'.name
  types : k.types = k'.types
  simple : k.isSimple = true
  behavior : k.behavior = k'.behavior ∨ settled = true ∧
    ∃ test, k.behavior = .async test ∧ k'.behavior = .validate test false
  /-- The member that declares a document asynchronous means nothing else. -/
  informs : k.name = "$async" → k.behavior = .informative ∧ k'.behavior = .informative

theorem Keyword.Like.isInformative_eq {settled : Bool} {k k' : Keyword} (like : k.Like settled k') :
    k.behavior.isInformative = k'.behavior.isInformative := by
  rcases like.behavior with same | ⟨-, test, behavior, behavior'⟩
  · rw [same]
  · rw [behavior, behavior']
    rfl

namespace Compiler

section Tables

variable {N N' : NodeRelation} {Q : Node → Node → Prop} {settled : Bool}
  {compiler compiler' : Compiler} {o o' : Occurrence}

/-- There is a rule for a keyword exactly if it does not only inform. -/
theorem RuleShape.isSome_eq {rule? : Option (Rule Check)} (shape : compiler.RuleShape N o rule?) :
    rule?.isSome = !o.keyword.behavior.isInformative := by
  obtain ⟨check?, shape, rfl⟩ := shape
  rw [Option.isSome_map]
  rw [CheckShape] at shape
  cases behavior : o.keyword.behavior with
  | builtin | extension | expand =>
    rw [behavior] at shape
    obtain ⟨_, -, rfl⟩ := shape
    rfl
  | _ =>
    rw [behavior] at shape
    rw [shape]
    rfl

/-- What two like keywords are compiled to. -/
theorem RuleShape.mirrors (pairs : NodeRelation.Pairs N N' Q) (like : o.Like o')
    (keywords : o.keyword.Like settled o'.keyword)
    (trivial : ∀ a b, Q a b → a.isTrivial = b.isTrivial) (always : Q (.always true) (.always true))
    (formats : compiler.formats = compiler'.formats) {rule? rule?' : Option (Rule Check)}
    (shape : compiler.RuleShape N o rule?) (shape' : compiler'.RuleShape N' o' rule?') :
    Option.Rel (Rule.Mirrors Q settled) rule? rule?' := by
  obtain ⟨check?, shape, rfl⟩ := shape
  obtain ⟨check?', shape', rfl⟩ := shape'
  suffices checks : Option.Rel (Check.Mirrors Q settled) check? check?' by
    cases checks with
    | none => exact .none
    | some h => exact .some ⟨keywords.name, like.schemaPath_eq, keywords.types, h⟩
  rw [CheckShape] at shape shape'
  have simple := keywords.simple
  rw [Keyword.isSimple] at simple
  rcases keywords.behavior with same | ⟨settles, test, behavior, behavior'⟩
  · rw [← same] at shape'
    cases behavior : o.keyword.behavior with
    | informative =>
      rw [behavior] at shape shape'
      rw [shape, shape']
      exact .none
    | validate test traced =>
      rw [behavior] at shape shape'
      rw [shape, shape', like.value]
      exact .some (.predicate _ _)
    | builtin meaning =>
      rw [behavior] at shape shape'
      obtain ⟨check, shape, rfl⟩ := shape
      obtain ⟨check', shape', rfl⟩ := shape'
      exact .some (shape.mirrors pairs like trivial always formats shape')
    | async test =>
      rw [behavior] at shape shape'
      rw [shape, shape', like.value]
      exact .some (.deferred _)
    | extension | expand =>
      rw [behavior] at simple
      cases simple
  · rw [behavior] at shape
    rw [behavior'] at shape'
    rw [shape, shape', like.value]
    exact .some (.awaited _ settles)

/-! ## Rules -/

/-- The rule of a keyword of a schema with these members, if there is one. -/
def KeywordShape (compiler : Compiler) (N : NodeRelation) (members : Members) (place : Place)
    (keyword : Keyword) (rule? : Option (Rule Check)) : Prop :=
  match if keyword.name = "$ref" then none else Members.get? members keyword.name with
  | none => rule? = none
  | some value => compiler.RuleShape N { keyword, value, siblings := members, place } rule?

/-- The rules of a schema, keyword by keyword. -/
theorem RulesShape.by_keyword {members : Members} {place : Place} {rules : List (Rule Check)}
    (shape : compiler.RulesShape N members place rules) :
    ∃ rules?, List.Forall₂ (compiler.KeywordShape N members place) compiler.vocabulary.ordered
      rules? ∧ rules = rules?.filterMap id := by
  obtain ⟨list, shapes, rfl⟩ := shape
  rw [occurrences] at shapes
  generalize compiler.vocabulary.ordered = ordered at shapes ⊢
  induction ordered generalizing list with
  | nil =>
    cases shapes
    exact ⟨[], .nil, rfl⟩
  | cons keyword rest ih =>
    rw [List.filterMap_cons] at shapes
    by_cases reference : keyword.name = "$ref"
    · rw [if_pos reference] at shapes
      obtain ⟨rules?, h, e⟩ := ih list shapes
      refine ⟨none :: rules?, .cons ?_ h, e⟩
      rw [KeywordShape, if_pos reference]
    · rw [if_neg reference] at shapes
      cases found : Members.get? members keyword.name with
      | none =>
        rw [found] at shapes
        obtain ⟨rules?, h, e⟩ := ih list shapes
        refine ⟨none :: rules?, .cons ?_ h, e⟩
        rw [KeywordShape, if_neg reference, found]
      | some value =>
        rw [found] at shapes
        cases shapes with
        | @cons _ rule? _ list' head tail =>
          obtain ⟨rules?, h, e⟩ := ih list' tail
          refine ⟨rule? :: rules?, .cons ?_ h, ?_⟩
          · rw [KeywordShape, if_neg reference, found]
            exact head
          · rw [List.filterMap_cons, List.filterMap_cons, e]

section Members

variable {members members' : Members} {place place' : Place} (like : members.Like members')

include like

/-- Like keywords of schemas with like members are both there and do something, or neither. -/
theorem KeywordShape.cases_of_like {keyword keyword' : Keyword}
    (keywords : keyword.Like settled keyword') {rule? rule?' : Option (Rule Check)}
    (shape : compiler.KeywordShape N members place keyword rule?)
    (shape' : compiler'.KeywordShape N' members' place' keyword' rule?') :
    (rule? = none ∧ rule?' = none) ∨ ∃ value,
      compiler.RuleShape N { keyword, value, siblings := members, place } rule? ∧
      compiler'.RuleShape N'
        { keyword := keyword', value, siblings := members', place := place' } rule?' := by
  rw [KeywordShape] at shape shape'
  by_cases own : keyword.name = "$async"
  · obtain ⟨informs, informs'⟩ := keywords.informs own
    left
    constructor
    · split at shape
      · exact shape
      · have none := shape.isSome_eq
        rw [informs] at none
        exact Option.not_isSome_iff_eq_none.1 (by rw [none]; decide)
    · split at shape'
      · exact shape'
      · have none := shape'.isSome_eq
        rw [informs'] at none
        exact Option.not_isSome_iff_eq_none.1 (by rw [none]; decide)
  · rw [← keywords.name, like keyword.name own] at shape'
    split at shape
    · next found =>
      rw [found] at shape'
      exact .inl ⟨shape, shape'⟩
    · next value found =>
      rw [found] at shape'
      exact .inr ⟨value, shape, shape'⟩

variable (ordered : List.Forall₂ (Keyword.Like settled) compiler.vocabulary.ordered
  compiler'.vocabulary.ordered) {rules rules' : List (Rule Check)}

include ordered

/-- The rules of schemas with like members, one by one. -/
theorem RulesShape.mirrors (places : place.Like place') (pairs : NodeRelation.Pairs N N' Q)
    (trivial : ∀ a b, Q a b → a.isTrivial = b.isTrivial) (always : Q (.always true) (.always true))
    (formats : compiler.formats = compiler'.formats)
    (shape : compiler.RulesShape N members place rules)
    (shape' : compiler'.RulesShape N' members' place' rules') :
    List.Forall₂ (Rule.Mirrors Q settled) rules rules' := by
  obtain ⟨rules?, h, rfl⟩ := shape.by_keyword
  obtain ⟨rules?', h', rfl⟩ := shape'.by_keyword
  refine List.rel_filterMap (fun _ _ r => r) (forall₂_square ordered h h' ?_)
  intro keyword keyword' rule? rule?' keywords own own'
  rcases own.cases_of_like like keywords own' with ⟨rfl, rfl⟩ | ⟨value, own, own'⟩
  · exact .none
  · have both : Occurrence.Like { keyword, value, siblings := members, place }
        { keyword := keyword', value, siblings := members', place := place' } :=
      ⟨keywords.name, rfl, like, places⟩
    exact own.mirrors pairs both keywords trivial always formats own'

/-- There are rules of both schemas, or of neither. -/
theorem RulesShape.length_eq (shape : compiler.RulesShape N members place rules)
    (shape' : compiler'.RulesShape N' members' place' rules') : rules.length = rules'.length := by
  obtain ⟨rules?, h, rfl⟩ := shape.by_keyword
  obtain ⟨rules?', h', rfl⟩ := shape'.by_keyword
  have same : List.Forall₂ (Option.Rel fun _ _ => True) rules? rules?' := by
    refine forall₂_square ordered h h' fun keyword keyword' rule? rule?' keywords own own' => ?_
    rcases own.cases_of_like like keywords own' with ⟨rfl, rfl⟩ | ⟨value, own, own'⟩
    · exact .none
    · have both : rule?.isSome = rule?'.isSome := by
        rw [own.isSome_eq, own'.isSome_eq]
        exact congrArg (!·) keywords.isInformative_eq
      cases rule? with
      | none =>
        rw [Option.isSome_eq_false_iff.1 both.symm |> Option.isNone_iff_eq_none.1]
        exact .none
      | some rule =>
        obtain ⟨rule', rfl⟩ := Option.isSome_iff_exists.1 both.symm
        exact .some True.intro
  exact (List.rel_filterMap (fun _ _ r => r) same).length_eq

end Members

end Tables

end Compiler

/-! ## Schemas -/

/-- Two schemas of documents are the same, or objects with like members. -/
inductive Value.Like : Value → Value → Prop
  | same (value : Value) : Like value value
  | object {members members' : Members} (h : members.Like members') :
      Like (.object members) (.object members')

namespace Compiler

/-- Two compilers compile alike, when what was bound in the two compilations is related. -/
structure Likes (settled : Bool) (T : EntryId → EntryId → Prop) (compiler : Compiler)
    (refs : Bindings String EntryId) (compiler' : Compiler) (refs' : Bindings String EntryId) :
    Prop where
  formats : compiler.formats = compiler'.formats
  extendRefs : compiler.options.extendRefs = compiler'.options.extendRefs
  ordered : List.Forall₂ (Keyword.Like settled) compiler.vocabulary.ordered
    compiler'.vocabulary.ordered
  refs : ∀ key target target', refs.find? key = some target → refs'.find? key = some target' →
    T target target'

section Schemas

variable {settled : Bool} {T : EntryId → EntryId → Prop} {compiler compiler' : Compiler}
  {refs refs' : Bindings String EntryId} {N N' : NodeRelation}

/-- The rules of two references to related entries. -/
def ProxyPair (T : EntryId → EntryId → Prop) (rule rule' : Rule Check) : Prop :=
  ∃ place place' target target' reference, place.Like place' ∧ T target target' ∧
    rule = referenceRule place (.ref target reference) ∧
    rule' = referenceRule place' (.ref target' reference)

/-- How the two compiled forms of a schema are put together. -/
inductive FormPair (T : EntryId → EntryId → Prop) (compiler compiler' : Compiler)
    (N N' : NodeRelation) : Node → Node → Prop
  | always (verdict : Bool) : FormPair T compiler compiler' N N' (.always verdict) (.always verdict)
  | ref {target target' : EntryId} (h : T target target') (reference : String) :
      FormPair T compiler compiler' N N' (.ref target reference) (.ref target' reference)
  | rules {members members' : Members} {place place' : Place}
      {proxy proxy' rules rules' : List (Rule Check)} (like : members.Like members')
      (places : place.Like place') (proxies : List.Forall₂ (ProxyPair T) proxy proxy')
      (shape : compiler.RulesShape N members place rules)
      (shape' : compiler'.RulesShape N' members' place' rules') :
      FormPair T compiler compiler' N N' (ofRules (proxy ++ rules)) (ofRules (proxy' ++ rules'))

theorem innerBase_eq {members members' : Members} (like : members.Like members') (base : String)
    (applyId : Bool) : innerBase members' base applyId = innerBase members base applyId := by
  simp only [innerBase, like "$id" (by decide)]

/-- The two compiled forms of like schemas at like places. -/
theorem NodeShape.forms (likes : Likes settled T compiler refs compiler' refs')
    {value value' : Value} {place place' : Place} {node node' : Node} (values : value.Like value')
    (places : place.Like place') (shape : compiler.NodeShape refs N value place node)
    (shape' : compiler'.NodeShape refs' N' value' place' node') :
    FormPair T compiler compiler' N N' node node' := by
  have object : ∀ {members members' : Members}, members.Like members' →
      compiler.NodeShape refs N (.object members) place node →
      compiler'.NodeShape refs' N' (.object members') place' node' →
      FormPair T compiler compiler' N N' node node' := by
    intro members members' like shape shape'
    simp only [NodeShape, innerBase_eq like, ← places.base, ← places.applyId,
      like "$ref" (by decide)] at shape shape'
    have inside : Place.Like
        { place with base := innerBase members place.base place.applyId, applyId := true }
        { place' with base := innerBase members place.base place.applyId, applyId := true } :=
      ⟨rfl, places.schemaPath, rfl⟩
    cases reference : Members.get? members "$ref" with
    | none =>
      rw [reference] at shape shape'
      obtain ⟨rules, list, rfl⟩ := shape
      obtain ⟨rules', list', rfl⟩ := shape'
      exact .rules like inside .nil list list'
    | some text =>
      rw [reference] at shape shape'
      obtain ⟨reference, target, rfl, bound, shape⟩ := shape
      obtain ⟨reference', target', same, bound', shape'⟩ := shape'
      cases same
      have related := likes.refs _ _ _ bound bound'
      rw [← likes.extendRefs] at shape'
      split at shape
      · next applied =>
        rw [if_pos applied] at shape'
        obtain ⟨rules, list, rfl⟩ := shape
        obtain ⟨rules', list', rfl⟩ := shape'
        exact .rules like inside (.cons ⟨_, _, _, _, _, inside, related, rfl, rfl⟩ .nil) list list'
      · next other =>
        rw [if_neg other] at shape'
        rw [shape, shape']
        exact .ref related _
  cases values with
  | same =>
    cases value with
    | bool verdict =>
      rw [show node = _ from shape, show node' = _ from shape']
      exact .always verdict
    | object members => exact object (fun _ _ => rfl) shape shape'
    | _ => exact shape.elim
  | object like => exact object like shape shape'

/-- Two compiled forms of like schemas are both the one that accepts everything, or neither is. -/
theorem FormPair.isTrivial_eq
    (ordered : List.Forall₂ (Keyword.Like settled) compiler.vocabulary.ordered
      compiler'.vocabulary.ordered) {node node' : Node}
    (pair : FormPair T compiler compiler' N N' node node') : node.isTrivial = node'.isTrivial := by
  cases pair with
  | always | ref => rfl
  | @rules _ _ _ _ proxy proxy' rules rules' like places proxies shape shape' =>
    have length : (proxy ++ rules).length = (proxy' ++ rules').length := by
      rw [List.length_append, List.length_append, proxies.length_eq,
        shape.length_eq like ordered shape']
    unfold ofRules
    cases first : proxy ++ rules <;> cases second : proxy' ++ rules' <;>
      rw [first, second] at length <;> first | rfl | cases length

end Schemas

/-- The nodes that two compilations have in the same places. -/
inductive Pair (settled : Bool) (T : EntryId → EntryId → Prop) : Node → Node → Prop
  | always : Pair settled T (.always true) (.always true)
  | ref {target target' : EntryId} (h : T target target') (reference : String) :
      Pair settled T (.ref target reference) (.ref target' reference)
  | compiled {compiler compiler' : Compiler} {refs refs' : Bindings String EntryId}
      {fuel fuel' : Nat} {value value' : Value} {place place' : Place} {node node' : Node}
      (likes : Likes settled T compiler refs compiler' refs') (values : value.Like value')
      (places : place.Like place') (shape : compiler.Compiled refs fuel value place node)
      (shape' : compiler'.Compiled refs' fuel' value' place' node') : Pair settled T node node'

namespace Pair

variable {settled : Bool} {T : EntryId → EntryId → Prop} {node node' : Node}

/-- What two compilations have in the same place is both the schema that accepts everything, or
    neither is. -/
theorem isTrivial_eq (pair : Pair settled T node node') : node.isTrivial = node'.isTrivial := by
  cases pair with
  | always | ref => rfl
  | @compiled _ _ _ _ fuel fuel' _ _ _ _ _ _ likes values places shape shape' =>
    cases fuel with
    | zero => exact shape.elim
    | succ fuel =>
      cases fuel' with
      | zero => exact shape'.elim
      | succ fuel' => exact (NodeShape.forms likes values places shape shape').isTrivial_eq likes.ordered

/-- What two compilations have in the same place mirrors each other. -/
theorem mirrors (pair : Pair settled T node node') :
    node.Mirrors (Rule.Mirrors (Pair settled T) settled) T node' := by
  cases pair with
  | always => exact .always true
  | ref h reference => exact .ref h reference
  | @compiled compiler compiler' refs refs' fuel fuel' _ _ _ _ _ _ likes values places shape shape' =>
    cases fuel with
    | zero => exact shape.elim
    | succ fuel =>
      cases fuel' with
      | zero => exact shape'.elim
      | succ fuel' =>
        have pairs : NodeRelation.Pairs (compiler.Compiled refs fuel)
            (compiler'.Compiled refs' fuel') (Pair settled T) :=
          fun value _ _ _ _ places shape shape' => .compiled likes (.same value) places shape shape'
        cases NodeShape.forms likes values places shape shape' with
        | always verdict => exact .always verdict
        | ref h reference => exact .ref h reference
        | @rules _ _ _ _ proxy proxy' rules rules' like inside proxies list list' =>
          have kept := list.mirrors like likes.ordered inside pairs (fun _ _ => isTrivial_eq) .always
            likes.formats list'
          have all : List.Forall₂ (Rule.Mirrors (Pair settled T) settled) (proxy ++ rules)
              (proxy' ++ rules') := by
            refine List.rel_append (proxies.imp ?_) kept
            rintro _ _ ⟨place, place', target, target', reference, places, h, rfl, rfl⟩
            exact ⟨rfl, congrArg (Pointer.child · "$ref") places.schemaPath, rfl, .apply (.ref h _)⟩
          unfold ofRules
          generalize proxy ++ rules = as, proxy' ++ rules' = bs at all
          cases all with
          | nil => exact .always true
          | cons head tail => exact .rules (.cons head tail)

end Pair

end Compiler

end JsonSchema
