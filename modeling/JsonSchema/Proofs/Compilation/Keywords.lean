import JsonSchema.Proofs.Compilation.Outcomes
import JsonSchema.Proofs.Compilation.Transaction

/-!
# Compiling keywords

If the parts of a schema are compiled as they should be, so are its keywords.

* `Compiles`: how a function compiles the schemas of one entry.
* `Applicator.compile_ensures`, `Extension.compile_ensures`, `Builtin.compile_ensures`: the
  checks of keywords have the shapes that are said of them.
* `Compiler.rules_ensures`: so do the rules of a schema, and none of them waits in a synchronous
  document.
-/

namespace JsonSchema

open Compilation (Good Leads)
open CompileM (Ensures)

variable {K : EntryId → Compiler → Prop} {origin : Store}

/-- A function compiles the schemas of an entry to nodes as described, while that entry is
    being compiled. -/
structure Compiles (K : EntryId → Compiler → Prop) (origin : Store) (entry : EntryId)
    (schema : SchemaCompiler) (N : Compilation → NodeRelation) : Prop where
  run : ∀ value place c, place.entry = entry → Good K origin c → c.Active entry →
    Ensures K origin c (schema value place) fun node c' => N c' value place node
  /-- The rest of the compilation does not undo what is described. -/
  stable : ∀ c c' value place node, Leads c c' → N c value place node → N c' value place node

section Keywords

variable {schema : SchemaCompiler} {N : Compilation → NodeRelation} {o : Occurrence}
  {c : Compilation}

/-! ## Values -/

namespace Occurrence

theorem lift_ensures (good : Good K origin c) {α : Type} (x : Except Fault α) :
    Ensures K origin c (o.lift x) fun a c' => x = .ok a ∧ c' = c := by
  cases x with
  | ok a => exact .pure good ⟨rfl, rfl⟩
  | error fault => exact .throw good _

theorem expect_eq_ok {α : Type} {shape : Shape} {a? : Option α} {a : α}
    (h : shape.expect a? = .ok a) : a? = some a := by
  cases a? with
  | none => cases h
  | some b => cases h; rfl

theorem members_ensures (good : Good K origin c) :
    Ensures K origin c o.members fun members c' => o.value = .object members ∧ c' = c := by
  refine (lift_ensures good _).imp fun members c' _ ⟨h, e⟩ => ⟨?_, e⟩
  have := expect_eq_ok h
  cases hv : o.value <;> rw [hv] at this <;> cases this
  rfl

variable (compiles : Compiles K origin o.place.entry schema N) (good : Good K origin c)
  (active : c.Active o.place.entry)

include compiles good active

theorem subschema_ensures (value : Value) (steps : List String) :
    Ensures K origin c (o.subschema schema value steps) fun node c' =>
      N c' value (o.partPlace steps) node :=
  compiles.run value (o.partPlace steps) c rfl good active

theorem schema_ensures :
    Ensures K origin c (o.schema schema) fun node c' => N c' o.value (o.partPlace []) node :=
  subschema_ensures compiles good active o.value []

theorem sibling_ensures (keyword : String) :
    Ensures K origin c (o.sibling schema keyword) fun node? c' =>
      o.SiblingShape (N c') keyword node? := by
  cases hs : Members.get? o.siblings keyword with
  | none =>
    simp only [sibling, SiblingShape, hs]
    exact .pure good rfl
  | some value =>
    simp only [sibling, SiblingShape, hs]
    refine (compiles.run value (o.siblingPlace keyword) c rfl good active).bind
      fun node c' good' leads hn => ?_
    exact .pure good' ⟨node, hn, rfl⟩

theorem schemas_ensures (values : List Value) :
    Ensures K origin c (o.schemas schema values) fun nodes c' =>
      o.ListShape (N c') values nodes := by
  unfold schemas ListShape
  refine Ensures.mapM good
    (fun (v : Value × Nat) node c' => N c' v.1 (o.partPlace [toString v.2]) node)
    (fun v _ c' good' leads => ?_) fun v node c' c'' leads h => compiles.stable _ _ _ _ _ leads h
  exact subschema_ensures compiles good' (active.leads leads) v.1 [toString v.2]

theorem alternatives_ensures :
    Ensures K origin c (o.alternatives schema) fun nodes c' =>
      o.AlternativesShape (N c') nodes := by
  refine (lift_ensures good _).bind fun values c' good' leads ⟨h, e⟩ => ?_
  subst e
  have found := Option.filter_eq_some_iff.1 (expect_eq_ok h)
  refine (schemas_ensures compiles good' active values).imp fun nodes c'' _ list =>
    ⟨values, ?_, ?_, list⟩
  · cases hv : o.value <;> rw [hv] at found <;> cases found.1
    rfl
  · intro empty
    rw [empty] at found
    cases found.2

theorem dependency_ensures (property : String) (value : Value) :
    Ensures K origin c (o.dependency schema property value) fun d c' =>
      o.DependencyShape (N c') property value d := by
  cases value with
  | array values =>
    simp only [dependency, DependencyShape]
    split
    · next names h => exact .pure good ⟨names, h, rfl⟩
    · exact .throw good _
  | _ =>
    refine (subschema_ensures compiles good active _ [property]).bind
      fun node c' good' leads hn => ?_
    exact .pure good' ⟨node, hn, rfl⟩

end Occurrence

/-! ## Meanings -/

variable (compiles : Compiles K origin o.place.entry schema N) (good : Good K origin c)
  (active : c.Active o.place.entry)

include compiles good active

theorem Applicator.compile_ensures (applicator : Applicator) :
    Ensures K origin c (applicator.compile schema o) fun check c' =>
      applicator.Shapes (N c') o check := by
  have value := Occurrence.schema_ensures compiles good active
  cases applicator with
  | properties =>
    refine (Occurrence.members_ensures good).bind fun members c' good' leads ⟨h, e⟩ => ?_
    subst e
    refine (Ensures.mapM good' (fun (m : String × Value) (s : String × Node) c' =>
        s.1 = m.1 ∧ N c' m.2 (o.partPlace [m.1]) s.2) (fun m _ c'' good'' leads' => ?_)
      fun m s c' c'' leads h => ⟨h.1, compiles.stable _ _ _ _ _ leads h.2⟩).bind
      fun schemas c'' good'' leads' list => ?_
    · refine (Occurrence.subschema_ensures compiles good'' (active.leads leads') m.2 [m.1]).bind
        fun node c' good' leads hn => ?_
      exact .pure good' ⟨rfl, hn⟩
    · exact .pure good'' ⟨members, schemas, h, list, rfl⟩
  | patternProperties =>
    refine (Occurrence.members_ensures good).bind fun members c' good' leads ⟨h, e⟩ => ?_
    subst e
    refine (Occurrence.lift_ensures good' _).bind fun patterns c' good' leads ⟨hp, e⟩ => ?_
    subst e
    refine (Ensures.mapM good' (fun (m : String × Value) (node : Node) c' =>
        N c' m.2 (o.partPlace [m.1]) node) (fun m _ c'' good'' leads' => ?_)
      fun m node c' c'' leads h => compiles.stable _ _ _ _ _ leads h).bind
      fun schemas c'' good'' leads' list => ?_
    · exact Occurrence.subschema_ensures compiles good'' (active.leads leads') m.2 [m.1]
    · exact .pure good'' ⟨members, patterns, schemas, h, hp, list, rfl⟩
  | additionalProperties =>
    refine (Occurrence.lift_ensures good _).bind fun patterns c' good' leads ⟨hp, e⟩ => ?_
    subst e
    refine value.bind fun node c'' good'' leads' hn => ?_
    exact .pure good'' ⟨patterns, node, hp, hn, rfl⟩
  | propertyNames =>
    exact value.bind fun node c' good' _ hn => .pure good' ⟨node, hn, rfl⟩
  | dependencies =>
    refine (Occurrence.members_ensures good).bind fun members c' good' leads ⟨h, e⟩ => ?_
    subst e
    refine (Ensures.mapM good' (fun (m : String × Value) (d : String × Dependency Node) c' =>
        d.1 = m.1 ∧ o.DependencyShape (N c') m.1 m.2 d.2) (fun m _ c'' good'' leads' => ?_)
      fun m d c' c'' leads h => ⟨h.1, h.2.mono fun _ _ _ => compiles.stable _ _ _ _ _ leads⟩).bind
      fun dependencies c'' good'' leads' list => ?_
    · refine (Occurrence.dependency_ensures compiles good'' (active.leads leads') m.1 m.2).bind
        fun d c' good' leads hd => ?_
      exact .pure good' ⟨rfl, hd⟩
    · exact .pure good'' ⟨members, dependencies, h, list, rfl⟩
  | items =>
    cases hv : o.value with
    | array values =>
      simp only [compile, Shapes, hv]
      refine (Occurrence.schemas_ensures compiles good active values).bind
        fun nodes c' good' leads list => ?_
      exact .pure good' ⟨nodes, list, rfl⟩
    | _ =>
      simp only [compile, Shapes, hv]
      simp only [hv] at value
      exact value.bind fun node c' good' _ hn => .pure good' ⟨node, hn, rfl⟩
  | additionalItems =>
    cases hi : (o.siblings.get? "items").bind Value.asArray? with
    | some values =>
      simp only [compile, Shapes, hi]
      exact value.bind fun node c' good' _ hn => .pure good' ⟨node, hn, rfl⟩
    | none =>
      simp only [compile, Shapes, hi]
      exact .pure good rfl
  | contains =>
    exact value.bind fun node c' good' _ hn => .pure good' ⟨node, hn, rfl⟩
  | allOf =>
    exact (Occurrence.alternatives_ensures compiles good active).bind
      fun nodes c' good' _ list => .pure good' ⟨nodes, list, rfl⟩
  | anyOf =>
    exact (Occurrence.alternatives_ensures compiles good active).bind
      fun nodes c' good' _ list => .pure good' ⟨nodes, list, rfl⟩
  | oneOf =>
    exact (Occurrence.alternatives_ensures compiles good active).bind
      fun nodes c' good' _ list => .pure good' ⟨nodes, list, rfl⟩
  | not =>
    exact value.bind fun node c' good' _ hn => .pure good' ⟨node, hn, rfl⟩
  | conditional =>
    refine value.bind fun condition c₁ good₁ leads₁ hc => ?_
    refine (Occurrence.sibling_ensures compiles good₁ (active.leads leads₁) "then").bind
      fun yes c₂ good₂ leads₂ hy => ?_
    refine (Occurrence.sibling_ensures compiles good₂
      (active.leads (Leads.trans leads₁ leads₂)) "else").bind fun no c₃ good₃ leads₃ hn => ?_
    have hc := compiles.stable _ _ _ _ _ (Leads.trans leads₂ leads₃) hc
    have hy := hy.mono fun _ _ _ => compiles.stable _ _ _ _ _ leads₃
    by_cases none : (yes.isNone && no.isNone) = true
    · rw [if_pos none]
      exact .pure good₃ ⟨condition, yes, no, hc, hy, hn, by rw [if_pos none]⟩
    · rw [if_neg none]
      exact .pure good₃ ⟨condition, yes, no, hc, hy, hn, by rw [if_neg none]⟩

theorem Extension.compile_ensures (meaning : Extension) (compiler : Compiler) :
    Ensures K origin c (meaning.compile compiler schema o) fun check c' =>
      meaning.Shapes compiler (N c') o check := by
  have value := Occurrence.schema_ensures compiles good active
  cases meaning with
  | remark message params accepts => exact .pure good rfl
  | children =>
    exact (Occurrence.subschema_ensures compiles good active o.value ["child/0"]).bind
      fun node c' good' _ hn => .pure good' ⟨node, hn, rfl⟩
  | verdict => exact value.bind fun node c' good' _ hn => .pure good' ⟨node, hn, rfl⟩
  | sibling keyword =>
    exact (Occurrence.sibling_ensures compiles good active keyword).bind
      fun node? c' good' _ hs => .pure good' ⟨node?, hs, rfl⟩
  | below => exact .pure good rfl
  | refuse message => exact .throw good _
  | format =>
    simp only [compile]
    split
    · next found h => exact .pure good (by simp only [Shapes, h])
    · next h => exact .pure good (by simp only [Shapes, h])
  | probe preview =>
    have rest : ∀ {events : List Event} {c' : Compilation}, Good K origin c' →
        Ensures K origin c' (do Compilation.trace events; pure Check.probe) fun check c' =>
          (probe preview).Shapes compiler (N c') o check :=
      fun good' => (Ensures.trace good' _).bind fun _ c'' good'' _ _ => .pure good'' rfl
    cases preview with
    | true =>
      exact (value.map fun _ _ _ _ => trivial).bind fun node? c' good' _ (_ : True) => rest good'
    | false =>
      exact (Ensures.pure good trivial).bind fun node? c' good' _ (_ : True) => rest good'

theorem Builtin.compile_ensures (meaning : Builtin) (compiler : Compiler) :
    Ensures K origin c (meaning.compile compiler schema o) fun check c' =>
      meaning.Shapes compiler (N c') o check := by
  cases meaning with
  | asserts kind =>
    exact (Occurrence.lift_ensures good _).map fun assertion c' _ h => ⟨assertion, h.1, rfl⟩
  | applies applicator => exact applicator.compile_ensures compiles good active
  | format =>
    refine (Occurrence.lift_ensures good _).bind fun name c' good' _ ⟨h, e⟩ => ?_
    subst e
    have text : o.value = .string name := by
      have := Occurrence.expect_eq_ok h
      cases hv : o.value <;> rw [hv] at this <;> cases this
      rfl
    simp only [Shapes]
    split
    · next found hf => exact .pure good' ⟨name, text, by simp only [hf]⟩
    · next hf =>
      split
      · exact .throw good' _
      · exact .pure good' ⟨name, text, by simp only [hf]⟩

namespace Compiler

omit compiles active in
theorem refuseValue_ensures (compiler : Compiler) :
    Ensures K origin c (compiler.refuseValue o) fun _ _ => True := by
  have checked : ∀ validator : Validator, Ensures K origin c (do
      let verdict := validator.validate (← get).store.slots o.value
      Compilation.trace verdict.events
      unless verdict.violations.isEmpty do o.fail (.invalidValue verdict.violations))
      fun _ _ => True := by
    intro validator
    refine .get_bind ?_
    refine (Ensures.trace good _).bind fun _ c₃ good₃ _ _ => ?_
    split
    · exact .pure good₃ trivial
    · exact .throw good₃ _
  cases hr : o.keyword.requires.find? fun name => !o.siblings.contains name with
  | some name =>
    cases hv : compiler.vocabulary.valueValidators.find? o.keyword.name <;>
      simp only [refuseValue, hr, hv]
    · exact .throw_bind good _ _
    · exact .throw_bind good _ _
  | none =>
    cases hv : compiler.vocabulary.valueValidators.find? o.keyword.name with
    | none =>
      simp only [refuseValue, hr, hv]
      exact .pure good trivial
    | some validator =>
      simp only [refuseValue, hr, hv]
      exact checked validator

/-- A keyword is compiled to a check as described. Its document is asynchronous if the outcome of
    the keyword is known only later. -/
theorem check?_ensures (compiler : Compiler) :
    Ensures K origin c (compiler.check? schema o) fun check? c' =>
      compiler.CheckShape (N c') o check? ∧
        (o.keyword.behavior.isAsync = true → c'.store.isAsync o.place.entry = true) := by
  have sync {P : Prop} (h : false = true) : P := absurd h Bool.false_ne_true
  cases hb : o.keyword.behavior with
  | informative =>
    simp only [check?, CheckShape, hb]
    exact .pure good ⟨rfl, sync⟩
  | validate test traced =>
    simp only [check?, CheckShape, hb]
    exact .pure good ⟨rfl, sync⟩
  | builtin meaning =>
    simp only [check?, CheckShape, hb]
    exact (meaning.compile_ensures compiles good active compiler).bind
      fun check c' good' _ hc => .pure good' ⟨⟨check, hc, rfl⟩, sync⟩
  | extension meaning =>
    simp only [check?, CheckShape, hb]
    exact (meaning.compile_ensures compiles good active compiler).bind
      fun check c' good' _ hc => .pure good' ⟨⟨check, hc, rfl⟩, sync⟩
  | expand template =>
    simp only [check?, CheckShape, hb]
    exact (Occurrence.subschema_ensures compiles good active (template o.value o.siblings) []).bind
      fun node c' good' _ hn => .pure good' ⟨⟨node, hn, rfl⟩, sync⟩
  | async test =>
    simp only [check?, CheckShape, hb]
    refine .get_bind ?_
    split
    · next async => exact .pure good ⟨rfl, fun _ => async⟩
    · exact .throw_bind good _ _

theorem rule?_ensures (compiler : Compiler) :
    Ensures K origin c (compiler.rule? schema o) fun rule? c' =>
      compiler.RuleShape (N c') o rule? ∧
        (o.keyword.behavior.isAsync = true → c'.store.isAsync o.place.entry = true) := by
  refine (refuseValue_ensures good compiler).bind fun _ c' good' leads _ => ?_
  exact (check?_ensures compiles good' (active.leads leads) compiler).bind
    fun check? c'' good'' _ hc => .pure good'' ⟨⟨check?, hc.1, rfl⟩, hc.2⟩

end Compiler

end Keywords

namespace Compiler

variable {schema : SchemaCompiler} {N : Compilation → NodeRelation} {c : Compilation}

theorem refuseUnknown_ensures (good : Good K origin c) (compiler : Compiler) (members : Members)
    (place : Place) : Ensures K origin c (compiler.refuseUnknown members place) fun _ _ => True := by
  unfold refuseUnknown
  split
  · split
    · exact .throw good _
    · exact .pure good trivial
  · exact .pure good trivial

theorem place_of_mem_occurrences {compiler : Compiler} {members : Members} {place : Place}
    {o : Occurrence} (h : o ∈ compiler.occurrences members place) : o.place = place := by
  obtain ⟨keyword, -, eq⟩ := List.mem_filterMap.1 h
  split at eq
  · cases eq
  · obtain ⟨value, -, rfl⟩ := Option.map_eq_some_iff.1 eq
    rfl

/-- The rules of a schema are as described. Its document is asynchronous if one of them waits. -/
theorem rules_ensures (place : Place) (compiles : Compiles K origin place.entry schema N)
    (good : Good K origin c) (active : c.Active place.entry) (compiler : Compiler)
    (members : Members) :
    Ensures K origin c (compiler.rules schema members place) fun rules c' =>
      compiler.RulesShape (N c') members place rules ∧
        ∀ rule ∈ rules, ∀ test, rule.check = .deferred test → c'.store.isAsync place.entry = true := by
  refine (refuseUnknown_ensures good compiler members place).bind fun _ c' good' leads _ => ?_
  refine (Ensures.mapM good' (fun o rule? c' => compiler.RuleShape (N c') o rule? ∧
      (o.keyword.behavior.isAsync = true → c'.store.isAsync place.entry = true))
    (fun o (mem : o ∈ compiler.occurrences members place) c'' good'' leads' => ?_)
    fun o rule? c' c'' leads ⟨⟨check?, hc, e⟩, waits⟩ =>
      ⟨⟨check?, hc.mono fun _ _ _ => compiles.stable _ _ _ _ _ leads, e⟩,
        fun async => (leads.keepsRoot _).isAsync (waits async)⟩).bind
    fun rules? c'' good'' _ list => ?_
  · have at_ := place_of_mem_occurrences mem
    subst at_
    exact rule?_ensures compiles good'' (active.leads (Leads.trans leads leads')) compiler
  · refine .pure good'' ⟨⟨rules?, list.imp fun _ _ => And.left, rfl⟩, fun rule mem test own => ?_⟩
    obtain ⟨rule?, memR, e⟩ := List.mem_filterMap.1 mem
    obtain ⟨o, -, ⟨check?, hc, e'⟩, waits⟩ := exists_mem_of_forall₂ list memR
    obtain ⟨check, rfl, rfl⟩ := Option.map_eq_some_iff.1 (e'.symm.trans e)
    have own : check = .deferred test := own
    subst own
    exact waits hc.waits

end Compiler

end JsonSchema
