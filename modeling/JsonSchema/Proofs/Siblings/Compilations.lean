import JsonSchema.Proofs.Order.Comparison
import JsonSchema.Proofs.Order.Steps
import JsonSchema.Proofs.Siblings.Stores

/-!
# Compilations that pass the strictest reading of siblings

Where keywords beside a reference are forbidden, a compilation succeeds only if there are none. Then
it makes no difference whether they would be left out or compiled: the compilation goes through the
same steps, and makes the same schemas, apart from rules around references.

* `Carries`: one operation succeeds if another one does, with a related result.
* `Applicator.compile_carries` and the others: keywords, if their parts are so.
* `Compiler.node_carries`: schemas, where nothing stands beside their references.
* `Compiler.compile_carries`: whole compilations.
-/

namespace JsonSchema

/-! ## Operations -/

section Rules

variable {σ α β γ δ : Type} {B : σ → σ → Prop} {R : α → β → Prop} {S : γ → δ → Prop}
  {m : EStateM SchemaError σ α} {m' : EStateM SchemaError σ β}

/-- If the first operation succeeds, then so does the second one in related states, and the results
    and the states afterwards are related. -/
def Carries (B : σ → σ → Prop) (R : α → β → Prop) (m : EStateM SchemaError σ α)
    (m' : EStateM SchemaError σ β) : Prop :=
  ∀ s s' a t, B s s' → m s = .ok a t → ∃ b t', m' s' = .ok b t' ∧ R a b ∧ B t t'

namespace Carries

theorem pure {a : α} {b : β} (h : R a b) : Carries B R (Pure.pure a) (Pure.pure b) := by
  rintro s s' _ _ related ⟨⟩
  exact ⟨b, s', rfl, h, related⟩

theorem throw (e : SchemaError) : Carries B R (MonadExcept.throw e) m' := by
  rintro s s' a t - ⟨⟩

theorem throw_bind (e : SchemaError) (f : γ → EStateM SchemaError σ α) :
    Carries B R (MonadExcept.throw e >>= f) m' := by
  rintro s s' a t - ⟨⟩

theorem bind {f : α → EStateM SchemaError σ γ} {f' : β → EStateM SchemaError σ δ}
    (first : Carries B R m m') (second : ∀ a b, R a b → Carries B S (f a) (f' b)) :
    Carries B S (m >>= f) (m' >>= f') := by
  intro s s' c u related ok
  have ok : EStateM.bind m f s = .ok c u := ok
  show ∃ d u', EStateM.bind m' f' s' = .ok d u' ∧ _
  unfold EStateM.bind at ok ⊢
  cases run : m s with
  | error e t =>
    rw [run] at ok
    cases ok
  | ok a t =>
    rw [run] at ok
    obtain ⟨b, t', run', same, next⟩ := first s s' a t related run
    rw [run']
    exact second a b same t t' c u next ok

/-- What follows is carried by what was found before. -/
theorem bindEq {m' : EStateM SchemaError σ α} {f : α → EStateM SchemaError σ γ}
    {f' : α → EStateM SchemaError σ δ} (first : Carries B Eq m m')
    (second : ∀ a, Carries B S (f a) (f' a)) : Carries B S (m >>= f) (m' >>= f') :=
  first.bind fun a _ same => same ▸ second a

theorem get_bind {f : σ → EStateM SchemaError σ α} {f' : σ → EStateM SchemaError σ β}
    (rest : ∀ s s', B s s' → Carries B R (f s) (f' s')) : Carries B R (get >>= f) (get >>= f') :=
  fun s s' a t related ok => rest s s' related s s' a t related ok

theorem modify {change change' : σ → σ} (h : ∀ s s', B s s' → B (change s) (change' s')) :
    Carries B Eq (modify change : EStateM SchemaError σ PUnit) (modify change') := by
  rintro s s' _ _ related ⟨⟩
  exact ⟨_, _, rfl, rfl, h s s' related⟩

theorem ite {c : Prop} [Decidable c] {n : EStateM SchemaError σ α} {n' : EStateM SchemaError σ β}
    (yes : Carries B R m m') (no : Carries B R n n') :
    Carries B R (if c then m else n) (if c then m' else n') := by
  split
  · exact yes
  · exact no

theorem mapM {list : List α} {f : α → EStateM SchemaError σ γ} {f' : α → EStateM SchemaError σ δ}
    (step : ∀ a ∈ list, Carries B S (f a) (f' a)) :
    Carries B (List.Forall₂ S) (list.mapM f) (list.mapM f') := by
  induction list with
  | nil =>
    rw [List.mapM_nil, List.mapM_nil]
    exact pure .nil
  | cons a rest ih =>
    rw [List.mapM_cons, List.mapM_cons]
    refine (step a List.mem_cons_self).bind fun _ _ head => ?_
    exact (ih fun a mem => step a (List.mem_cons_of_mem _ mem)).bind fun _ _ tail =>
      pure (.cons head tail)

end Carries

end Rules

/-! ## Keywords -/

/-- Two compilations that went through the same steps, where compiled references may stand in rules
    of their own. -/
structure Compilation.Wrapped (c c' : Compilation) : Prop where
  store : c.store.Wrapped c'.store
  started : c.started = c'.started
  created : c.created = c'.created

section Keywords

open Compilation (Wrapped)

variable {α β : Type} {R : α → β → Prop} {schema schema' : SchemaCompiler} {o : Occurrence}

namespace Occurrence

/-- What is done with a part of a value that may be missing. -/
theorem lift_bind_carries {γ : Type} {x : Except Fault γ} {f : γ → CompileM α} {f' : γ → CompileM β}
    (rest : ∀ a, Carries Wrapped R (f a) (f' a)) :
    Carries Wrapped R (o.lift x >>= f) (o.lift x >>= f') := by
  cases x with
  | ok a => exact rest a
  | error fault => rintro c c' a d - ⟨⟩

variable (parts : ∀ part place,
  Carries Wrapped Node.Wrapped (schema part place) (schema' part place))

include parts

theorem sibling_carries (keyword : String) :
    Carries Wrapped (Option.Rel Node.Wrapped) (o.sibling schema keyword) (o.sibling schema' keyword) := by
  unfold sibling
  cases Members.get? o.siblings keyword with
  | none => exact .pure .none
  | some part => exact (parts _ _).bind fun _ _ wrapped => .pure (.some wrapped)

theorem schemas_carries (values : List Value) :
    Carries Wrapped (List.Forall₂ Node.Wrapped) (o.schemas schema values)
      (o.schemas schema' values) :=
  .mapM fun _ _ => parts _ _

theorem alternatives_carries :
    Carries Wrapped (List.Forall₂ Node.Wrapped) (o.alternatives schema) (o.alternatives schema') :=
  lift_bind_carries fun values => schemas_carries parts values

theorem dependency_carries (property : String) (value : Value) :
    Carries Wrapped (Dependency.Mirrors Node.Wrapped) (o.dependency schema property value)
      (o.dependency schema' property value) := by
  cases value with
  | array values =>
    unfold dependency
    simp only
    split
    · exact .pure (.names _)
    · exact .throw _
  | _ => exact (parts _ _).bind fun _ _ wrapped => .pure (.schema wrapped)

end Occurrence

open Occurrence

variable (parts : ∀ part place,
  Carries Wrapped Node.Wrapped (schema part place) (schema' part place))

/-- Elements that are related stand beside the same ones. -/
theorem forall₂_zip_right {α β γ : Type} {Q : α → β → Prop} {as : List α} {bs : List β}
    (h : List.Forall₂ Q as bs) (cs : List γ) :
    List.Forall₂ (fun a b => a.1 = b.1 ∧ Q a.2 b.2) (cs.zip as) (cs.zip bs) := by
  induction h generalizing cs with
  | nil => cases cs <;> exact .nil
  | cons head tail ih =>
    cases cs with
    | nil => exact .nil
    | cons c cs => exact .cons ⟨rfl, head⟩ (ih cs)

include parts

theorem Applicator.compile_carries (applicator : Applicator) :
    Carries Wrapped (Check.Mirrors Node.Wrapped false) (applicator.compile schema o)
      (applicator.compile schema' o) := by
  have own : Carries Wrapped Node.Wrapped (o.schema schema) (o.schema schema') := parts _ _
  cases applicator with
  | properties =>
    refine lift_bind_carries fun members => ?_
    have each : ∀ m ∈ members, Carries Wrapped
        (fun a b : String × Node => a.1 = b.1 ∧ Node.Wrapped a.2 b.2)
        (do return (m.1, ← o.subschema schema m.2 [m.1]))
        (do return (m.1, ← o.subschema schema' m.2 [m.1])) := fun m _ =>
      (parts _ _).bind fun _ _ wrapped => .pure ⟨rfl, wrapped⟩
    refine (Carries.mapM each).bind fun _ _ list => .pure (.properties (List.rel_filter ?_ list))
    exact fun a b r => by simp only [r.2.isTrivial_eq]
  | patternProperties =>
    refine lift_bind_carries fun members => lift_bind_carries fun patterns => ?_
    exact (Carries.mapM fun m _ => parts _ _).bind fun _ _ list =>
      .pure (.patternProperties (forall₂_zip_right list patterns))
  | additionalProperties =>
    exact lift_bind_carries fun patterns => own.bind fun _ _ wrapped =>
      .pure (.additionalProperties _ _ wrapped)
  | propertyNames => exact own.bind fun _ _ wrapped => .pure (.propertyNames wrapped)
  | dependencies =>
    refine lift_bind_carries fun members => ?_
    have each : ∀ m ∈ members, Carries Wrapped
        (fun a b : String × Dependency Node => a.1 = b.1 ∧ a.2.Mirrors Node.Wrapped b.2)
        (do return (m.1, ← o.dependency schema m.1 m.2))
        (do return (m.1, ← o.dependency schema' m.1 m.2)) := fun m _ =>
      (dependency_carries parts m.1 m.2).bind fun _ _ mirrors => .pure ⟨rfl, mirrors⟩
    exact (Carries.mapM each).bind fun _ _ list => .pure (.dependencies list)
  | items =>
    unfold compile
    cases o.value with
    | array values => exact (schemas_carries parts values).bind fun _ _ list => .pure (.tuple list)
    | _ => exact own.bind fun _ _ wrapped => .pure (.eachItem wrapped)
  | additionalItems =>
    unfold compile
    cases (Members.get? o.siblings "items").bind Value.asArray? with
    | some values => exact own.bind fun _ _ wrapped => .pure (.additionalItems _ wrapped)
    | none => exact .pure (.apply (.refl _))
  | contains => exact own.bind fun _ _ wrapped => .pure (.contains wrapped)
  | allOf => exact (alternatives_carries parts).bind fun _ _ list => .pure (.allOf list)
  | anyOf => exact (alternatives_carries parts).bind fun _ _ list => .pure (.anyOf list)
  | oneOf => exact (alternatives_carries parts).bind fun _ _ list => .pure (.oneOf list)
  | not => exact own.bind fun _ _ wrapped => .pure (.not wrapped)
  | conditional =>
    refine own.bind fun _ _ condition => ?_
    refine (sibling_carries parts "then").bind fun yes yes' yeses => ?_
    refine (sibling_carries parts "else").bind fun no no' nos => ?_
    cases yeses with
    | some yes => exact .pure (.conditional condition (.some yes) nos)
    | none =>
      cases nos with
      | some no => exact .pure (.conditional condition .none (.some no))
      | none => exact .pure (.apply (.refl (.always true)))

theorem Builtin.compile_carries (compiler : Compiler) (meaning : Builtin) :
    Carries Wrapped (Check.Mirrors Node.Wrapped false) (meaning.compile compiler schema o)
      (meaning.compile compiler schema' o) := by
  cases meaning with
  | asserts kind =>
    show Carries Wrapped _ (Check.assertion <$> o.lift _) (Check.assertion <$> o.lift _)
    rw [map_eq_pure_bind]
    exact lift_bind_carries fun assertion => .pure (.assertion assertion)
  | applies applicator => exact applicator.compile_carries parts
  | format =>
    refine lift_bind_carries fun name => ?_
    split
    · exact .pure (.assertion _)
    · split
      · exact .throw _
      · exact .pure (.apply (.refl _))

namespace Compiler

variable {compiler : Compiler}

theorem rule?_carries (plain : o.keyword.isPlain = true)
    (unchecked : compiler.vocabulary.valueValidators.find? o.keyword.name = none) :
    Carries Wrapped (Option.Rel (Rule.Mirrors Node.Wrapped false)) (compiler.rule? schema o)
      (compiler.rule? schema' o) := by
  have required : Carries Wrapped Eq (compiler.refuseValue o) (compiler.refuseValue o) := by
    rw [refuseValue_of_unchecked unchecked]
    split
    · exact .throw _
    · exact .pure rfl
  have checked : Carries Wrapped (Option.Rel (Check.Mirrors Node.Wrapped false))
      (compiler.check? schema o) (compiler.check? schema' o) := by
    unfold check?
    rw [Keyword.isPlain] at plain
    cases behavior : o.keyword.behavior with
    | informative => exact .pure .none
    | builtin meaning =>
      exact (meaning.compile_carries parts compiler).bind fun _ _ mirrors => .pure (.some mirrors)
    | _ =>
      rw [behavior] at plain
      cases plain
  refine required.bindEq fun _ => checked.bind fun check? check?' mirrors => ?_
  cases mirrors with
  | none => exact .pure .none
  | some mirrors => exact .pure (.some ⟨rfl, rfl, rfl, mirrors⟩)

theorem rules_carries (builtin : compiler.vocabulary.IsBuiltin) (members : Members) (place : Place) :
    Carries Wrapped (List.Forall₂ (Rule.Mirrors Node.Wrapped false))
      (compiler.rules schema members place) (compiler.rules schema' members place) := by
  have known : Carries Wrapped Eq (compiler.refuseUnknown members place)
      (compiler.refuseUnknown members place) := by
    unfold refuseUnknown
    split
    · split
      · exact .throw _
      · exact .pure rfl
    · exact .pure rfl
  have each : ∀ o ∈ compiler.occurrences members place,
      Carries Wrapped (Option.Rel (Rule.Mirrors Node.Wrapped false)) (compiler.rule? schema o)
        (compiler.rule? schema' o) := by
    intro o mem
    obtain ⟨keyword, memK, h⟩ := List.mem_filterMap.1 mem
    split at h
    · cases h
    · obtain ⟨value, -, rfl⟩ := Option.map_eq_some_iff.1 h
      exact rule?_carries parts (Draft07.isPlain (builtin.ordered keyword memK))
        (builtin.unchecked keyword memK)
  exact known.bindEq fun _ => (Carries.mapM each).bind fun _ _ list =>
    .pure (List.rel_filterMap (fun _ _ r => r) list)

end Compiler

end Keywords

/-! ## Schemas -/

theorem Node.Wrapped.rules {as bs : List (Rule Check)}
    (h : List.Forall₂ (Rule.Mirrors Node.Wrapped false) as bs) :
    (Node.rules as).Wrapped (.rules bs) := .of_wrapsIn (.rules h)

theorem Compiler.ofRules_wrapped {as bs : List (Rule Check)}
    (h : List.Forall₂ (Rule.Mirrors Node.Wrapped false) as bs) :
    (ofRules as).Wrapped (ofRules bs) := by
  unfold ofRules
  cases h with
  | nil => exact .refl _
  | cons head tail => exact .rules (.cons head tail)

/-- The same options, with another choice of what becomes of keywords beside references. -/
def Options.extending (options : Options) (mode : ReferenceSiblings) : Options :=
  { options with extendRefs := mode }

namespace Compiler

/-- The same compiler, with another choice of what becomes of keywords beside references. -/
def extending (compiler : Compiler) (mode : ReferenceSiblings) : Compiler :=
  { compiler with options := compiler.options.extending mode }

variable {compiler : Compiler} {schema schema' : SchemaCompiler}

theorem optionsAt_extending (mode : ReferenceSiblings) (place : Place) :
    (compiler.extending mode).optionsAt place = (compiler.optionsAt place).extending mode := by
  unfold optionsAt
  split <;> rfl

/-- Keywords are compiled in the same way. -/
theorem rules_extending (mode : ReferenceSiblings) (members : Members) (place : Place) :
    (compiler.extending mode).rules schema members place = compiler.rules schema members place := by
  have builtin (meaning : Builtin) (o : Occurrence) :
      meaning.compile (compiler.extending mode) schema o = meaning.compile compiler schema o := by
    cases meaning with
    | format =>
      simp only [Builtin.compile, Builtin.compileFormat, optionsAt_extending]
      rfl
    | _ => rfl
  have extension (meaning : Extension) (o : Occurrence) :
      meaning.compile (compiler.extending mode) schema o = meaning.compile compiler schema o := by
    cases meaning with
    | probe =>
      simp only [Extension.compile, optionsAt_extending]
      rfl
    | _ => rfl
  have each : (compiler.extending mode).rule? schema = compiler.rule? schema := by
    funext o
    unfold rule? check?
    simp only [builtin, extension]
    rfl
  unfold rules refuseUnknown
  rw [each, optionsAt_extending]
  rfl

/-! ### Nothing beside a reference -/

variable (builtin : compiler.vocabulary.IsBuiltin)
  (defined : ∀ keyword ∈ compiler.vocabulary.ordered,
    compiler.vocabulary.get? keyword.name = some keyword)
  (lenient : compiler.options.unknownKeywords ≠ .fail)

include builtin in
/-- A keyword that only informs compiles to nothing. -/
theorem rule?_of_informative {o : Occurrence} (mem : o.keyword ∈ compiler.vocabulary.ordered)
    (informs : o.keyword.behavior.isInformative = true) : compiler.rule? schema o = pure none := by
  have requires : Draft07.keywords.all (·.requires.isEmpty) = true := by decide +kernel
  have requires := List.isEmpty_iff.1 (List.all_eq_true.1 requires _ (builtin.ordered _ mem))
  unfold rule? check?
  rw [refuseValue_of_unchecked (builtin.unchecked _ mem), requires]
  cases behavior : o.keyword.behavior with
  | informative => rfl
  | _ =>
    rw [behavior] at informs
    cases informs

include builtin defined lenient in
/-- Members of which none would check anything compile to no rules. -/
theorem rules_of_quiet {members : Members} (quiet : (Members.names members).any compiler.checks = false)
    (place : Place) : compiler.rules schema members place = pure [] := by
  have each : ∀ o ∈ compiler.occurrences members place, compiler.rule? schema o = pure none := by
    intro o mem
    obtain ⟨keyword, memK, h⟩ := List.mem_filterMap.1 mem
    split at h
    · cases h
    · next other =>
      obtain ⟨value, found, rfl⟩ := Option.map_eq_some_iff.1 h
      refine rule?_of_informative builtin memK ?_
      have named := List.any_eq_false.1 quiet keyword.name (List.mem_map_of_mem (Members.mem_of_get? found))
      simpa [checks, other, defined keyword memK] using named
  have none_ : ∀ list : List Occurrence, (∀ o ∈ list, compiler.rule? schema o = pure none) →
      list.mapM (compiler.rule? schema) = pure (list.map fun _ => none) := by
    intro list each
    induction list with
    | nil => rfl
    | cons o rest ih =>
      rw [List.mapM_cons, each o List.mem_cons_self, pure_bind,
        ih fun o mem => each o (List.mem_cons_of_mem _ mem), pure_bind]
      rfl
  have known : compiler.refuseUnknown members place = pure () := by
    unfold refuseUnknown optionsAt
    rw [if_neg]
    split
    · exact lenient
    · exact lenient
  show (do
    compiler.refuseUnknown members place
    return (← (compiler.occurrences members place).mapM (compiler.rule? schema)).filterMap id) = _
  rw [known, none_ _ each, pure_bind, pure_bind]
  congr 1
  simp

/-! ### References and schemas -/

open Compilation (Wrapped)

theorem resolve_carries (source : EntryId) (base reference : String) :
    Carries Wrapped Eq (resolve source base reference) (resolve source base reference) := by
  have remembers (target : EntryId) : Carries Wrapped Eq
      (do
        modify fun c : Compilation =>
          { c with store := c.store.modify source (·.remember (resolveUrl base reference) target) }
        return (target, resolveUrl base reference) : CompileM (EntryId × String))
      (do
        modify fun c : Compilation =>
          { c with store := c.store.modify source (·.remember (resolveUrl base reference) target) }
        return (target, resolveUrl base reference)) := by
    refine .bindEq (.modify fun c c' wrapped => ⟨?_, wrapped.started, wrapped.created⟩) fun _ => .pure rfl
    exact wrapped.store.modify source fun e e' wrapped => wrapped.remember _ _
  unfold resolve
  refine .get_bind fun c c' wrapped => ?_
  have bound : (c.store.entry? source).bind (·.refs.find? (resolveUrl base reference)) =
      (c'.store.entry? source).bind (·.refs.find? (resolveUrl base reference)) :=
    wrapped.store.bind_eq source fun e e' wrapped => by rw [wrapped.refs_eq]
  simp only [bound, wrapped.store.isLive_eq, wrapped.store.resolve_eq]
  split
  · exact .pure rfl
  · split
    · exact .bindEq (.pure rfl) fun _ => remembers _
    · next root base' pointer part _ =>
      obtain ⟨id, isNew, store⟩ := wrapped.store.fragment root base' pointer part
      refine .bindEq (.modify fun d d' wrapped => ?_) fun _ => .bindEq (.pure id) fun _ => remembers _
      refine ⟨store, wrapped.started, ?_⟩
      simp only [id, isNew, wrapped.created]
    · exact .throw_bind _ _

/-- The same proxy. -/
def SameProxy (a b : Node) : Prop := a = b ∧ ∃ target reference, a = .ref target reference

theorem arrive_carries (place : Place) (found : EntryId × String) :
    Carries Wrapped SameProxy (arrive place found) (arrive place found) := by
  refine .get_bind fun c c' wrapped => ?_
  simp only [wrapped.store.isAsync_eq]
  split
  · exact .throw_bind _ _
  · exact .pure ⟨rfl, _, _, rfl⟩

section Node

variable {begin begin' : EntryId → Bool → CompileM Unit}
  (begins : ∀ id underMeta, Carries Wrapped Eq (begin id underMeta) (begin' id underMeta))

include begins

/-- A reference is compiled to the same proxy. -/
theorem reference_carries (value : Value) (place : Place) :
    Carries Wrapped SameProxy (reference begin value place) (reference begin' value place) := by
  cases value with
  | string text =>
    rw [reference_eq, reference_eq]
    exact (resolve_carries _ _ _).bindEq fun found => (begins _ _).bindEq fun _ =>
      arrive_carries place found
  | _ => exact .throw _

variable (strict : compiler.options.extendRefs = .fail)
  (parts : ∀ part place, Carries Wrapped Node.Wrapped (schema part place) (schema' part place))

include builtin defined lenient strict parts

/-- A schema that compiles where nothing may stand beside references compiles under any other
    choice. -/
theorem node_carries (mode : ReferenceSiblings) (value : Value) (outside : Place) :
    Carries Wrapped Node.Wrapped (compiler.node schema begin value outside)
      ((compiler.extending mode).node schema' begin' value outside) := by
  cases value with
  | bool verdict => exact .pure (.refl _)
  | object members =>
    have inside : Carries Wrapped Eq (baseInside members outside) (baseInside members outside) := by
      unfold baseInside
      split
      · exact .pure rfl
      · split
        · exact .pure rfl
        · split
          · exact .pure rfl
          · exact .throw _
    refine inside.bindEq fun base => ?_
    simp only [rules_extending, extendRefs_optionsAt]
    split
    · exact (rules_carries parts builtin _ _).bind fun _ _ rules => .pure (ofRules_wrapped rules)
    · next text found =>
      refine (reference_carries begins text _).bind ?_
      rintro _ _ ⟨rfl, target, reference, rfl⟩
      rw [strict]
      cases siblings : (Members.names members).any compiler.checks with
      | true => exact .throw_bind _ _
      | false =>
        cases mode with
        | ignore => exact .pure (.refl _)
        | fail =>
          rw [show (Members.names members).any (compiler.extending .fail).checks = false from siblings]
          exact .pure (.refl _)
        | apply =>
          simp only [rules_of_quiet builtin defined lenient siblings, pure_bind]
          exact .pure (.of_wrapsIn (.proxy _ target reference))
  | _ => exact .throw _

end Node

/-! ### Entries -/

theorem entry_carries
    (schemas : ∀ value place, Carries Wrapped Node.Wrapped (schema value place) (schema' value place))
    (id : EntryId) (underMeta : Bool) :
    Carries Wrapped Eq (entry schema id underMeta) (entry schema' id underMeta) := by
  unfold entry
  refine .get_bind fun c c' wrapped => ?_
  rcases option_rel_cases (wrapped.store.entries id) with ⟨none, none'⟩ | ⟨e, e', found, found', same⟩
  · rw [none]
    exact .throw _
  · rw [found, found']
    simp only [same.progress.isStarted_eq, same.document_eq, same.id_eq, same.isMeta_eq,
      same.congr Entry.isFragment fun _ => rfl]
    split
    · exact .pure rfl
    · refine .bindEq (.modify fun d d' wrapped => ?_) fun _ => (schemas _ _).bind fun node node' nodes => ?_
      · exact ⟨wrapped.store.modify id fun _ _ => Entry.Wrapped.begin,
          congrArg (id :: ·) wrapped.started, wrapped.created⟩
      · refine .modify fun d d' wrapped => ?_
        exact ⟨wrapped.store.modify id fun _ _ same => same.finish nodes, wrapped.started, wrapped.created⟩

variable (strict : compiler.options.extendRefs = .fail)

include builtin defined lenient strict

theorem schema_carries (mode : ReferenceSiblings) (fuel : Nat) (value : Value) (place : Place) :
    Carries Wrapped Node.Wrapped (compiler.schema fuel value place)
      ((compiler.extending mode).schema fuel value place) := by
  induction fuel generalizing value place with
  | zero => exact .throw _
  | succ fuel ih =>
    exact node_carries builtin defined lenient (entry_carries ih) strict ih mode value place

/-- A compilation that succeeds where nothing may stand beside references succeeds under any other
    choice, and leaves the same, apart from rules around references. -/
theorem compile_carries (mode : ReferenceSiblings) {s s' : Store} (wrapped : s.Wrapped s') {id : EntryId}
    (ok : (compiler.compile id s).1 = .ok ()) :
    ((compiler.extending mode).compile id s').1 = .ok () ∧
      (compiler.compile id s).2.1.Wrapped ((compiler.extending mode).compile id s').2.1 := by
  have carried := entry_carries (schema_carries builtin defined lenient strict mode (depthOf s)) id false
  unfold compile at ok ⊢
  rw [← wrapped.depthOf_eq]
  cases run : (entry (compiler.schema (depthOf s)) id false).run { store := s } with
  | error e c =>
    rw [run] at ok
    cases ok
  | ok u c =>
    obtain ⟨u', c', run', -, next⟩ := carried { store := s } { store := s' } u c ⟨wrapped, rfl, rfl⟩ run
    rw [show (entry ((compiler.extending mode).schema (depthOf s)) id false).run { store := s' } = _ from run']
    exact ⟨rfl, next.store⟩

end Compiler

end JsonSchema
