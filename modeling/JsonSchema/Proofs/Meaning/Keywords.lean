import JsonSchema.Proofs.Compilation.Outcomes
import JsonSchema.Proofs.Meaning.Assertions

/-!
# The meaning of compiled keywords

A compiled keyword demands what the keyword demands by its value: the same of the compiled forms
of the subschemas. Subschemas that accept everything may be gone.

* `Part.Matches`: parts that are reached in the same way.
* `Applicator.Shapes.reads`: a compiled keyword that applies subschemas.
* `Builtin.Shapes.reads`: any compiled built-in keyword.
* `Compiler.CheckShape.reads`: any compiled keyword that is built in or a test.
* `Compiler.RuleShape.holds_eq`: a compiled keyword holds exactly if the keyword does.
* `Compiler.RulesShape.all_eq`: from the keywords of a schema to its rules.
-/

namespace JsonSchema

open Demand (Reads Related)

/-! ## Parts -/

/-- Two parts are reached in the same way, and their schemas are in some relation. -/
structure Part.Matches {α β : Type} (N : α → β → Prop) (p : Part α) (q : Part β) : Prop where
  way : p.way = q.way
  data : p.data = q.data
  schema : N p.schema q.schema

/-- Nothing depends on a part whose compiled form accepts everything. -/
def Part.IsIdle (p : Part Node) : Prop := p.schema = .always true

/-- The compiled form of a schema somewhere inside another one with this base. -/
def NodeRelation.Inside (N : NodeRelation) (base : String) (value : Value) (node : Node) : Prop :=
  ∃ place, place.base = base ∧ place.applyId = true ∧ N value place node

/-- Parts of the value of a keyword, and their compiled forms. -/
abbrev Occurrence.Matches (o : Occurrence) (N : NodeRelation) : Part Value → Part Node → Prop :=
  Part.Matches (N.Inside o.place.base)

section Reads

variable {N : NodeRelation} {o : Occurrence} {value data : Value} {node : Node}

theorem NodeRelation.inside (steps : List String) (h : N value (o.partPlace steps) node) :
    N.Inside o.place.base value node :=
  ⟨o.partPlace steps, rfl, rfl, h⟩

theorem Part.Matches.here (h : N.Inside o.place.base value node) (data : Value) :
    o.Matches N (.here value data) (.here node data) := ⟨rfl, rfl, h⟩

theorem Part.Matches.below (h : N.Inside o.place.base value node) (data : Value) :
    o.Matches N (.below value data) (.below node data) := ⟨rfl, rfl, h⟩

/-! ## Several parts -/

namespace Occurrence

theorem ListShape.inside {values : List Value} {nodes : List Node}
    (shape : o.ListShape N values nodes) :
    List.Forall₂ (N.Inside o.place.base) values nodes := by
  have list := List.forall₂_map_left_iff.2
    (shape.imp fun (v : Value × Nat) node h =>
      show N.Inside o.place.base v.1 node from N.inside [toString v.2] h)
  rwa [List.zipIdx_map_fst] at list

theorem AlternativesShape.heres {nodes : List Node} (shape : o.AlternativesShape N nodes)
    (data : Value) :
    List.Forall₂ (o.Matches N) (o.value.itemList.map (.here · data)) (nodes.map (.here · data)) := by
  obtain ⟨values, hv, -, list⟩ := shape
  rw [hv]
  refine List.forall₂_map_left_iff.2 (List.forall₂_map_right_iff.2 ?_)
  exact list.inside.imp fun _ _ h => .here h data

theorem SiblingShape.here {keyword : String} {node? : Option Node}
    (shape : o.SiblingShape N keyword node?) (data : Value) :
    Option.Rel (o.Matches N) ((o.siblings.get? keyword).map (.here · data))
      (node?.map (.here · data)) := by
  rw [SiblingShape] at shape
  split at shape
  · next missing =>
    rw [missing, shape]
    exact .none
  · next found =>
    obtain ⟨node, hn, rfl⟩ := shape
    rw [found]
    exact .some ⟨rfl, rfl, o.siblingPlace keyword, rfl, rfl, hn⟩

theorem SiblingShape.isNone {keyword : String} {node? : Option Node}
    (shape : o.SiblingShape N keyword node?) :
    node?.isNone = (o.siblings.get? keyword).isNone := by
  rw [SiblingShape] at shape
  split at shape
  · next missing =>
    rw [missing, shape]
    rfl
  · next found =>
    obtain ⟨node, -, rfl⟩ := shape
    rw [found]
    rfl

end Occurrence

/-- One subschema, applied to some parts of the data. -/
theorem forall₂_belows (h : N.Inside o.place.base value node) (list : List Value) :
    List.Forall₂ (o.Matches N) (list.map (.below value)) (list.map (.below node)) := by
  refine List.forall₂_map_left_iff.2 (List.forall₂_map_right_iff.2 ?_)
  exact List.forall₂_same.2 fun v _ => .below h v

/-! ## Patterns -/

/-- The patterns of an object are those of its names, in their order. -/
theorem Members.forall₂_patterns {members : Members} {patterns : List Pattern}
    (h : members.patterns = .ok patterns) :
    List.Forall₂ (fun m p => Pattern.parse m.1 = .ok p) members patterns := by
  refine (forall₂_of_mapM_ok h).imp fun m p hp => ?_
  obtain ⟨name, value⟩ := m
  simp only at hp ⊢
  cases parsed : Pattern.parse name <;> rw [parsed] at hp <;> cases hp
  rfl

theorem Pattern.matchesName_eq {text : String} {p : Pattern} (h : Pattern.parse text = .ok p)
    (name : String) : Pattern.matchesName text name = p.occursIn name := by
  rw [matchesName, h]

theorem Members.under_eq (o : Occurrence) (keyword : String) :
    o.siblings.under keyword = o.membersAt keyword := by
  rw [under, Occurrence.membersAt]
  cases o.siblings.get? keyword <;> rfl

theorem Members.any_matchesName {members : Members} {patterns : List Pattern}
    (h : members.patterns = .ok patterns) (name : String) :
    (members.any fun s => Pattern.matchesName s.1 name) = patterns.any (·.occursIn name) :=
  Demand.any_eq_of_forall₂ (forall₂_patterns h) fun _ _ _ hp => Pattern.matchesName_eq hp name

/-! ## Keywords that apply subschemas -/

theorem Value.memberList_object (members : Members) : (Value.object members).memberList = members :=
  rfl

theorem forall₂_properties {ms : Members} {schemas : List (String × Node)} (members : Members)
    (list : List.Forall₂ (fun m s => s.1 = m.1 ∧ N m.2 (o.partPlace [m.1]) s.2) ms schemas) :
    List.Forall₂ (o.Matches N)
      (ms.filterMap fun s => (Members.get? members s.1).map (.below s.2))
      (schemas.filterMap fun s => (Members.get? members s.1).map (.below s.2)) := by
  induction list with
  | nil => exact .nil
  | @cons m s ms schemas h _ ih =>
    obtain ⟨name, shape⟩ := h
    rw [List.filterMap_cons, List.filterMap_cons, name]
    cases Members.get? members m.1 with
    | none => exact ih
    | some value => exact .cons (.below (N.inside _ shape) value) ih

theorem filterMap_properties (schemas : List (String × Node)) (members : Members) :
    ((schemas.filter (!·.2.isTrivial)).filterMap fun s =>
        (Members.get? members s.1).map (Part.below s.2)) =
      (schemas.filterMap fun s => (Members.get? members s.1).map (Part.below s.2)).filter
        (!·.schema.isTrivial) := by
  induction schemas with
  | nil => rfl
  | cons s rest ih =>
    cases found : Members.get? members s.1 <;> cases trivial_ : s.2.isTrivial <;>
      simp [found, trivial_, ih, Part.below]

theorem Node.eq_of_isTrivial {node : Node} (h : node.isTrivial = true) : node = .always true := by
  cases node with
  | always verdict => cases verdict <;> first | rfl | cases h
  | _ => cases h

theorem forall₂_patternProperties {ms : Members} {patterns : List Pattern} {nodes : List Node}
    (members : Members) (parsed : List.Forall₂ (fun m p => Pattern.parse m.1 = .ok p) ms patterns)
    (list : List.Forall₂ (fun m node => N m.2 (o.partPlace [m.1]) node) ms nodes) :
    List.Forall₂ (o.Matches N)
      (ms.flatMap fun s => (members.filter fun m => Pattern.matchesName s.1 m.1).map fun m =>
        .below s.2 m.2)
      ((patterns.zip nodes).flatMap fun s => (members.filter fun m => s.1.occursIn m.1).map fun m =>
        .below s.2 m.2) := by
  induction parsed generalizing nodes with
  | nil => cases list; exact .nil
  | @cons m p ms patterns hp _ ih =>
    cases list with
    | @cons _ node _ nodes h rest =>
      rw [List.flatMap_cons, List.zip_cons_cons, List.flatMap_cons]
      refine List.rel_append ?_ (ih rest)
      simp only [Pattern.matchesName_eq hp]
      refine List.forall₂_map_left_iff.2 (List.forall₂_map_right_iff.2 ?_)
      exact List.forall₂_same.2 fun m _ => .below (N.inside _ h) m.2

theorem Occurrence.DependencyShape.related {property : String} {d : Dependency Node}
    (shape : o.DependencyShape N property value d) (members : Members) :
    Related (o.Matches N) (value.dependencyMeaning members) (d.demand members) := by
  cases value with
  | array values =>
    obtain ⟨names, hn, rfl⟩ := shape
    rw [Value.dependencyMeaning, all_asString?_eq hn]
    exact .settled _
  | _ =>
    obtain ⟨node, hn, rfl⟩ := shape
    exact .all (.cons (.here (N.inside _ hn) _) .nil)

theorem forall₂_dependencies {ms : Members} {ds : List (String × Dependency Node)}
    (members : Members)
    (list : List.Forall₂ (fun m d => d.1 = m.1 ∧ o.DependencyShape N m.1 m.2 d.2) ms ds) :
    List.Forall₂ (Related (o.Matches N))
      ((ms.filter fun d => Members.contains members d.1).map fun d => d.2.dependencyMeaning members)
      ((ds.filter fun d => Members.contains members d.1).map fun d => d.2.demand members) := by
  induction list with
  | nil => exact .nil
  | @cons m d ms ds h _ ih =>
    obtain ⟨name, shape⟩ := h
    rw [List.filter_cons, List.filter_cons, name]
    cases Members.contains members m.1 with
    | false => exact ih
    | true => exact .cons (shape.related members) ih

theorem forall₂_tuple {values : List Value} {nodes : List Node}
    (list : List.Forall₂ (N.Inside o.place.base) values nodes) (items : List Value) :
    List.Forall₂ (o.Matches N) ((values.zip items).map fun s => .below s.1 s.2)
      ((nodes.zip items).map fun s => .below s.1 s.2) := by
  induction list generalizing items with
  | nil => exact .nil
  | cons h _ ih =>
    cases items with
    | nil => exact .nil
    | cons item items => exact .cons (.below h item) (ih items)

/-- A compiled keyword that applies subschemas demands what the keyword demands. -/
theorem Applicator.Shapes.reads {applicator : Applicator} {check : Check}
    (shape : applicator.Shapes N o check) (data : Value) :
    Reads (o.Matches N) Part.IsIdle (applicator.meaning o.siblings o.value data)
      (check.demands data) := by
  cases applicator with
  | properties =>
    obtain ⟨ms, schemas, hv, list, rfl⟩ := shape
    rw [hv]
    cases data with
    | object members =>
      simp only [meaning, Check.demands, Value.memberList_object, filterMap_properties]
      refine .filtered _ (forall₂_properties members list) fun q gone => ?_
      exact Node.eq_of_isTrivial (by simpa using gone)
    | _ => exact .nil
  | patternProperties =>
    obtain ⟨ms, patterns, schemas, hv, hp, list, rfl⟩ := shape
    rw [hv]
    cases data with
    | object members =>
      exact .single (.all (forall₂_patternProperties members (Members.forall₂_patterns hp) list))
    | _ => exact .nil
  | additionalProperties =>
    obtain ⟨patterns, node, hp, hn, rfl⟩ := shape
    cases data with
    | object members =>
      simp only [meaning, Check.demands, Members.under_eq, Members.any_matchesName hp]
      refine .single (.all ?_)
      refine List.forall₂_map_left_iff.2 (List.forall₂_map_right_iff.2 ?_)
      exact List.forall₂_same.2 fun m _ => .below (N.inside _ hn) m.2
    | _ => exact .nil
  | propertyNames =>
    obtain ⟨node, hn, rfl⟩ := shape
    cases data with
    | object members =>
      refine .single (.all ?_)
      refine List.forall₂_map_left_iff.2 (List.forall₂_map_right_iff.2 ?_)
      exact List.forall₂_same.2 fun m _ => .here (N.inside _ hn) _
    | _ => exact .nil
  | dependencies =>
    obtain ⟨ms, ds, hv, list, rfl⟩ := shape
    rw [hv]
    cases data with
    | object members => exact .each (forall₂_dependencies members list)
    | _ => exact .nil
  | items =>
    simp only [Shapes] at shape
    split at shape
    · next values hv =>
      obtain ⟨nodes, list, rfl⟩ := shape
      rw [hv]
      cases data with
      | array items => exact .single (.all (forall₂_tuple list.inside items))
      | _ => exact .nil
    · next other =>
      obtain ⟨node, hn, rfl⟩ := shape
      cases data with
      | array items =>
        have same : meaning .items o.siblings o.value (.array items) =
            [.all (items.map (.below o.value))] := by
          rw [meaning]
          exact other
        rw [same]
        exact .single (.all (forall₂_belows (N.inside _ hn) items))
      | _ => exact .nil
  | additionalItems =>
    simp only [Shapes] at shape
    split at shape
    · next values hv =>
      obtain ⟨node, hn, rfl⟩ := shape
      cases data with
      | array items =>
        simp only [meaning, hv]
        exact .single (.all (forall₂_belows (N.inside _ hn) _))
      | _ => exact .nil
    · next hv =>
      rw [shape]
      refine .idle (fun d mem => ?_) rfl
      cases data <;> simp [meaning, hv] at mem
  | contains =>
    obtain ⟨node, hn, rfl⟩ := shape
    cases data with
    | array items => exact .single (.any (forall₂_belows (N.inside _ hn) items))
    | _ => exact .nil
  | allOf =>
    obtain ⟨nodes, list, rfl⟩ := shape
    exact .single (.all (list.heres data))
  | anyOf =>
    obtain ⟨nodes, list, rfl⟩ := shape
    exact .single (.any (list.heres data))
  | oneOf =>
    obtain ⟨nodes, list, rfl⟩ := shape
    exact .single (.one (list.heres data))
  | not =>
    obtain ⟨node, hn, rfl⟩ := shape
    exact .single (.refusal (.here (N.inside _ hn) data))
  | conditional =>
    obtain ⟨condition, yes, no, hn, hy, hno, rfl⟩ := shape
    rw [hy.isNone, hno.isNone]
    by_cases absent : ((o.siblings.get? "then").isNone && (o.siblings.get? "else").isNone) = true
    · rw [if_pos absent]
      refine .idle (fun d mem => ?_) rfl
      rw [Bool.and_eq_true, Option.isNone_iff_eq_none, Option.isNone_iff_eq_none] at absent
      simp [meaning, absent.1, absent.2] at mem
    · rw [if_neg absent]
      have some_ : meaning .conditional o.siblings o.value data =
          [.branch (.here o.value data) ((o.siblings.get? "then").map (.here · data))
            ((o.siblings.get? "else").map (.here · data))] := by
        rw [meaning]
        split
        · next missing missing' =>
          rw [missing, missing'] at absent
          exact absurd rfl absent
        · rfl
      rw [some_]
      exact .single (.branch (.here (N.inside _ hn) data) (hy.here data) (hno.here data))

/-! ## Built-in keywords -/

/-- A compiled built-in keyword demands what the keyword demands, if the formats that were known
    are meant. -/
theorem Builtin.Shapes.reads {builtin : Builtin} {compiler : Compiler} {check : Check}
    (shape : builtin.Shapes compiler N o check) (data : Value) :
    Reads (o.Matches N) Part.IsIdle
      (builtin.meaning compiler.formats o.siblings o.value data) (check.demands data) := by
  cases builtin with
  | asserts kind =>
    obtain ⟨assertion, compiled, rfl⟩ := shape
    simp only [meaning, AssertionKind.meaning_eq compiled]
    exact .single (.settled _)
  | applies applicator => exact Applicator.Shapes.reads shape data
  | format =>
    obtain ⟨name, hv, shape⟩ := shape
    simp only [meaning, FormatTable.meaning, hv, Value.asString?, Option.bind_some]
    split at shape
    · next found known =>
      rw [shape]
      refine .single ?_
      cases data with
      | string text =>
        simp only [known, Assertion.holds, Assertion.objections, Assertion.isEmpty_objectionUnless]
        exact .settled _
      | _ =>
        simp only [known]
        exact .settled _
    · next unknown =>
      rw [shape, unknown]
      exact .idle (fun d mem => List.mem_singleton.1 mem) rfl

/-! ## All keywords -/

/-- A compiled keyword demands what the keyword demands. -/
theorem Compiler.CheckShape.reads {compiler : Compiler} {check? : Option Check}
    (simple : o.keyword.isSimple = true) (shape : compiler.CheckShape N o check?) (data : Value) :
    Reads (o.Matches N) Part.IsIdle
      (o.keyword.meaning compiler.formats o.siblings o.value data)
      ((check?.map (·.demands data)).getD []) := by
  rw [CheckShape] at shape
  rw [Keyword.meaning]
  cases behavior : o.keyword.behavior with
  | informative =>
    rw [behavior] at shape
    rw [show check? = none from shape]
    exact .nil
  | validate test traced =>
    rw [behavior] at shape
    rw [show check? = some _ from shape]
    exact .single (.settled _)
  | builtin builtin =>
    rw [behavior] at shape
    obtain ⟨check, shape, rfl⟩ := shape
    exact shape.reads data
  | async test =>
    rw [behavior] at shape
    rw [show check? = some _ from shape]
    exact .single (.settled _)
  | extension | expand =>
    rw [Keyword.isSimple, behavior] at simple
    cases simple

/-- Whether a keyword holds, from the verdicts on the parts of its value. -/
def Keyword.holds (keyword : Keyword) (formats : FormatTable) (later : String → Bool) (tried : Bool)
    (kept granted : Part Value → Bool) (siblings : Members) (data value : Value) : Bool :=
  !keyword.appliesTo data || tried && later keyword.name ||
    (keyword.meaning formats siblings value data).all (·.met kept granted)

/-- A rule holds exactly if its keyword does, if the verdicts on related parts agree. -/
theorem Compiler.RuleShape.holds_eq {compiler : Compiler} {rule? : Option (Rule Check)}
    {later : String → Bool} {tried : Bool} {kept granted : Part Value → Bool}
    {kept' granted' : Part Node → Bool} (shape : compiler.RuleShape N o rule?)
    (simple : o.keyword.isSimple = true)
    (agree : o.keyword.appliesTo data = true →
      ∀ d ∈ o.keyword.meaning compiler.formats o.siblings o.value data, ∀ p ∈ d.uses granted, ∀ q,
        o.Matches N p q → kept p = kept' q ∧ granted p = granted' q)
    (idle : ∀ q : Part Node, q.IsIdle → kept' q = true) :
    rule?.all (Rule.holds later tried kept' granted' data) =
      o.keyword.holds compiler.formats later tried kept granted o.siblings data o.value := by
  obtain ⟨check?, shape, rfl⟩ := shape
  have same : (check?.map fun check =>
        { keyword := o.keyword.name, schemaPath := o.schemaPath, types := o.keyword.types
          check : Rule Check }).all (Rule.holds later tried kept' granted' data) =
      (!o.keyword.appliesTo data || tried && later o.keyword.name ||
        ((check?.map (·.demands data)).getD []).all (·.met kept' granted')) := by
    cases check? with
    | none => exact (Bool.or_true _).symm
    | some check => rfl
  rw [same, Keyword.holds]
  cases applies : o.keyword.appliesTo data with
  | false => rfl
  | true => rw [(shape.reads simple data).met_eq (agree applies) idle]

end Reads

/-! ## Parts of the data -/

section Near

variable {data value : Value} {p : Part Value} {d : Demand (Part Value)}

/-- A keyword applies subschemas to the data, or to something smaller. -/
theorem Applicator.isNear_of_mem_meaning {applicator : Applicator} {siblings : Members}
    (mem : d ∈ applicator.meaning siblings value data) (of : p ∈ d.parts) : p.IsNear data := by
  unfold meaning at mem
  split at mem
  · rw [List.mem_singleton.1 mem] at of
    obtain ⟨s, -, h⟩ := List.mem_filterMap.1 of
    obtain ⟨part, found, rfl⟩ := Option.map_eq_some_iff.1 h
    exact .inr (Value.weight_lt_of_get? found)
  · rw [List.mem_singleton.1 mem] at of
    obtain ⟨s, -, h⟩ := List.mem_flatMap.1 of
    obtain ⟨m, memM, rfl⟩ := List.mem_map.1 h
    exact .inr (Value.weight_lt_of_mem_members (List.mem_filter.1 memM).1)
  · rw [List.mem_singleton.1 mem] at of
    obtain ⟨m, memM, rfl⟩ := List.mem_map.1 of
    exact .inr (Value.weight_lt_of_mem_members (List.mem_filter.1 memM).1)
  · rw [List.mem_singleton.1 mem] at of
    obtain ⟨m, memM, rfl⟩ := List.mem_map.1 of
    exact .inr (Value.weight_string_lt memM _)
  · obtain ⟨⟨property, dependency⟩, -, rfl⟩ := List.mem_map.1 mem
    cases dependency with
    | array => cases of
    | _ =>
      rw [List.mem_singleton.1 of]
      exact Part.isNear_here _ _
  · split at mem
    · rw [List.mem_singleton.1 mem] at of
      obtain ⟨s, memS, rfl⟩ := List.mem_map.1 of
      exact .inr (Value.weight_lt_of_mem_items (List.of_mem_zip memS).2)
    · rw [List.mem_singleton.1 mem] at of
      exact Part.isNear_of_mem_items (fun _ h => h) of
  · split at mem
    · rw [List.mem_singleton.1 mem] at of
      exact Part.isNear_of_mem_items (fun _ => List.mem_of_mem_drop) of
    · cases mem
  · rw [List.mem_singleton.1 mem] at of
    exact Part.isNear_of_mem_items (fun _ h => h) of
  · rw [List.mem_singleton.1 mem] at of
    exact Part.isNear_of_mem_heres of
  · rw [List.mem_singleton.1 mem] at of
    exact Part.isNear_of_mem_heres of
  · rw [List.mem_singleton.1 mem] at of
    exact Part.isNear_of_mem_heres of
  · rw [List.mem_singleton.1 mem] at of
    rw [List.mem_singleton.1 of]
    exact Part.isNear_here _ _
  · split at mem
    · cases mem
    · rw [List.mem_singleton.1 mem] at of
      generalize siblings.get? "then" = yes at of
      generalize siblings.get? "else" = no at of
      have of : p ∈ (value :: (yes.toList ++ no.toList)).map (Part.here · data) := by
        cases yes <;> cases no <;> exact of
      exact Part.isNear_of_mem_heres of
  · cases mem

/-- A keyword looks at the data, or at something smaller. -/
theorem Keyword.isNear_of_mem_meaning {keyword : Keyword} {formats : FormatTable}
    {siblings : Members} (mem : d ∈ keyword.meaning formats siblings value data) (of : p ∈ d.parts) :
    p.IsNear data := by
  unfold meaning at mem
  split at mem
  · next builtin _ =>
    cases builtin with
    | asserts | format =>
      rw [List.mem_singleton.1 mem] at of
      cases of
    | applies applicator => exact applicator.isNear_of_mem_meaning mem of
  · rw [List.mem_singleton.1 mem] at of
    cases of
  · rw [List.mem_singleton.1 mem] at of
    cases of
  · cases mem

end Near

/-! ## The keywords of a schema -/

namespace Compiler.RulesShape

variable {compiler : Compiler} {N : NodeRelation} {members : Members} {place : Place}
  {rules : List (Rule Check)}

/-- What holds of all rules of a schema, from what holds of the keywords that are there. -/
theorem all_eq (shape : compiler.RulesShape N members place rules) {f : Rule Check → Bool}
    {g : Keyword → Value → Bool}
    (each : ∀ keyword ∈ compiler.vocabulary.ordered, keyword.name ≠ "$ref" → ∀ value rule?,
      members.get? keyword.name = some value →
      compiler.RuleShape N { keyword, value, siblings := members, place } rule? →
      rule?.all f = g keyword value) :
    rules.all f = compiler.vocabulary.ordered.all fun keyword =>
      decide (keyword.name = "$ref") || (members.get? keyword.name).all (g keyword) := by
  obtain ⟨rules?, list, rfl⟩ := shape
  have occurring : (compiler.vocabulary.ordered.all fun keyword =>
        decide (keyword.name = "$ref") || (members.get? keyword.name).all (g keyword)) =
      (compiler.occurrences members place).all fun o => g o.keyword o.value := by
    rw [occurrences, List.all_filterMap]
    refine all_eq_of_mem fun keyword _ => ?_
    by_cases reference : keyword.name = "$ref"
    · rw [if_pos reference, decide_eq_true reference]
      rfl
    · rw [if_neg reference, decide_eq_false reference]
      cases members.get? keyword.name <;> rfl
  rw [occurring, List.all_filterMap]
  refine (Demand.all_eq_of_forall₂ list fun o rule? mem shape => ?_).symm
  obtain ⟨keyword, memK, ho⟩ := List.mem_filterMap.1 mem
  split at ho
  · cases ho
  · next other =>
    obtain ⟨value, present, rfl⟩ := Option.map_eq_some_iff.1 ho
    rw [← each keyword memK other value rule? present shape]
    cases rule? <;> rfl

end Compiler.RulesShape

section Rules

variable (table : SlotTable) (later : String → Bool) (tried : Bool) (data : Value) (hops : Nat)

/-- What is compiled to a list of keywords accepts what all of them accept. -/
theorem Compiler.accepts_ofRules (rules : List (Rule Check)) :
    (ofRules rules).accepts table later tried data hops =
      rules.all (Rule.holds later tried (Node.acceptsPart table later tried hops)
        (Node.acceptsPart table later true hops) data) := by
  cases rules with
  | nil => exact Node.accepts_always _ _ _ _ _ true
  | cons rule rest => exact Node.accepts_rules _ _ _ _ _ _

/-- The rule that stands for a reference holds exactly if its proxy accepts the data. -/
theorem Compiler.holds_referenceRule (now : later "$ref" = false) (place : Place) (proxy : Node) :
    (referenceRule place proxy).holds later tried (Node.acceptsPart table later tried hops)
      (Node.acceptsPart table later true hops) data =
      proxy.accepts table later tried data hops := by
  have waits : (tried && later (referenceRule place proxy).keyword) = false := by
    rw [show (referenceRule place proxy).keyword = "$ref" from rfl, now, Bool.and_false]
  rw [Rule.holds, waits, Bool.or_false]
  exact (Bool.and_true _).trans (Bool.and_true _)

end Rules

end JsonSchema
