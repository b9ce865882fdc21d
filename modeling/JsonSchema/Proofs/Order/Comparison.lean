import JsonSchema.Proofs.Compilation.Pairing
import JsonSchema.Proofs.Compilation.Parts
import JsonSchema.Proofs.Meaning.Draft07
import JsonSchema.Proofs.Order.Spots

/-!
# Comparing compilations

Two compilations of the same schemas go through the same steps, apart from the entries that only
one of them has to compile. The rules here say of built-in keywords that whatever is kept by the
compilation of their parts, and by following references, is kept by them.

* `Members.Part`: the subschemas that built-in keywords compile.
* `Comparison`: what is compared; `Compares`: the rule by which steps are put together.
* `Compiler.compares_node`: a schema is compared by comparing its parts and its reference.
-/

namespace JsonSchema

/-! ## Subschemas -/

namespace Nesting

/-- The subschemas in the value of a keyword. -/
def parts : Nesting → Value → List Value
  | schema, value => [value]
  | array, .array items => items
  | schemaOrArray, .array items => items
  | schemaOrArray, value => [value]
  | map, .object members => members.map (·.2)
  | _, _ => []

end Nesting

namespace Draft07

/-- Where subschemas sit inside the value of a built-in keyword. -/
def nestingOf (name : String) : Nesting :=
  ((keywords.find? (·.name = name)).map (·.nesting)).getD .none

end Draft07

/-- Whether a keyword has a built-in meaning, and looks for subschemas where the built-in keyword
    of the same name does. -/
def Keyword.isPlain (keyword : Keyword) : Bool :=
  match keyword.behavior with
  | .informative | .builtin (.asserts _) | .builtin .format => true
  | .builtin (.applies applicator) => Draft07.nestingOf keyword.name = applicator.nesting
  | _ => false

theorem Draft07.isPlain {keyword : Keyword} (mem : keyword ∈ keywords) : keyword.isPlain = true := by
  have all : keywords.all Keyword.isPlain = true := by decide +kernel
  exact List.all_eq_true.1 all keyword mem

/-- A value is one of the subschemas that built-in keywords among these members have. -/
def Members.Part (members : Members) (part : Value) : Prop :=
  ∃ name value, members.get? name = some value ∧ part ∈ (Draft07.nestingOf name).parts value

theorem Place.Like.inner {outside outside' : Place} (places : outside.Like outside')
    (members : Members) : (outside.inner members).Like (outside'.inner members) :=
  ⟨by rw [Place.inner, Place.inner, places.base, places.applyId], places.schemaPath, rfl⟩

/-- A place of a subschema directly below the inside of a schema. -/
structure Place.Under (place inside : Place) : Prop where
  entry : place.entry = inside.entry
  base : place.base = inside.base
  underMeta : place.underMeta = inside.underMeta
  applyId : place.applyId = true

/-! ## Comparing -/

/-- A compilation gave up because schemas nest too deep. -/
def SchemaError.IsDeep (e : SchemaError) : Prop := ∃ path, e = .malformed (.nestingAt path)

/-- How two compilations are compared. -/
structure Comparison where
  /-- What holds of the two between two steps. -/
  meets : Compilation → Compilation → Prop
  /-- The spots where the first one may begin entries; if it begins others, nothing is said. -/
  within : Spot → Prop
  /-- How both may fail. -/
  together : SchemaError → SchemaError → Prop
  /-- How the first one may fail alone. -/
  first : SchemaError → Prop
  /-- How the second one may fail alone. -/
  second : SchemaError → Prop
  /-- Both may find the same fault. -/
  same : ∀ e, ¬ e.IsDeep → together e e
  of_first : ∀ e e', first e → together e e'
  of_second : ∀ e e', second e' → together e e'
  /-- If something is left open then all failures of the first one are. -/
  lax : (∀ spot, within spot) ∨ ∀ e, first e

namespace Comparison

/-- The first compilation began entries only where it may. -/
def Inside (C : Comparison) (c : Compilation) : Prop :=
  ∀ spot, c.store.StartedAt spot → C.within spot

/-- What is said of the outcomes of two steps. -/
def Outcomes (C : Comparison) {α β : Type} :
    EStateM.Result SchemaError Compilation α → EStateM.Result SchemaError Compilation β → Prop
  | .ok _ d, .ok _ d' => C.Inside d → C.meets d d'
  | .ok _ d, .error e' _ => C.Inside d → C.second e'
  | .error e _, .ok _ _ => C.first e
  | .error e _, .error e' _ => C.together e e'

/-- The first one fails alone, whatever becomes of the second one. -/
theorem error_of_first (C : Comparison) {α β : Type} {e : SchemaError} {c : Compilation}
    (alone : C.first e) (r : EStateM.Result SchemaError Compilation β) :
    C.Outcomes (.error e c : EStateM.Result SchemaError Compilation α) r := by
  cases r with
  | ok b d' => exact alone
  | error e' d' => exact C.of_first e e' alone

/-- The second one fails alone, whatever becomes of the first one. -/
theorem error_of_second (C : Comparison) {α β : Type} {e' : SchemaError} {c' : Compilation}
    (alone : C.second e') (r : EStateM.Result SchemaError Compilation α) :
    C.Outcomes r (.error e' c' : EStateM.Result SchemaError Compilation β) := by
  cases r with
  | ok a d => exact fun _ => alone
  | error e d => exact C.of_second e e' alone

end Comparison

/-- A step of a compilation only adds to what was there. -/
def CompileM.Evolves {α : Type} (m : CompileM α) : Prop :=
  ∀ c a d, m c = .ok a d → c.store.Evolves d.store

/-- Two steps are as compared. -/
def Compares (C : Comparison) {α β : Type} (m : CompileM α) (m' : CompileM β) : Prop :=
  m.Evolves ∧ ∀ c c', C.meets c c' → C.Outcomes (m c) (m' c')

theorem Comparison.Inside.back {C : Comparison} {c d : Compilation} (evolves : c.store.Evolves d.store)
    (inside : C.Inside d) : C.Inside c := fun spot started =>
  inside spot (evolves.startedAt started)

open CompileM (bind_ok bind_error)

section Rules

variable {C : Comparison} {α β γ δ : Type} {m : CompileM α} {m' : CompileM β}

theorem CompileM.Evolves.pure (a : α) : (Pure.pure a : CompileM α).Evolves := by
  intro c _ d ok
  cases ok
  exact .refl _

theorem CompileM.Evolves.bind {f : α → CompileM γ} (first : m.Evolves)
    (second : ∀ a, (f a).Evolves) : (m >>= f).Evolves := by
  intro c x d₂ ok
  cases hm : m c with
  | error e d =>
    rw [bind_error hm] at ok
    cases ok
  | ok a d =>
    rw [bind_ok hm] at ok
    exact (first c a d hm).trans (second a d x d₂ ok)

/-- The outcomes of two steps and of what follows them. -/
theorem Comparison.Outcomes.bind {f : α → CompileM γ} {f' : β → CompileM δ} {c c' : Compilation}
    (first : C.Outcomes (m c) (m' c')) (evolves : ∀ a, (f a).Evolves)
    (second : ∀ a b d d', m c = .ok a d → m' c' = .ok b d' → C.meets d d' →
      C.Outcomes (f a d) (f' b d')) : C.Outcomes ((m >>= f) c) ((m' >>= f') c') := by
  cases hm : m c with
  | error e d =>
    rw [bind_error hm]
    rw [hm] at first
    cases hm' : m' c' with
    | error e' d' =>
      rw [bind_error hm']
      rw [hm'] at first
      exact first
    | ok b d' =>
      rw [bind_ok hm']
      rw [hm'] at first
      cases f' b d' with
      | error e' _ => exact C.of_first e e' first
      | ok y _ => exact first
  | ok a d =>
    rw [bind_ok hm]
    rw [hm] at first
    cases hm' : m' c' with
    | error e' d' =>
      rw [bind_error hm']
      rw [hm'] at first
      cases hf : f a d with
      | error e d₂ =>
        rcases C.lax with all | open_
        · exact C.of_second e e' (first fun spot _ => all spot)
        · exact C.of_first e e' (open_ e)
      | ok x d₂ => exact fun inside => first (inside.back (evolves a d x d₂ hf))
    | ok b d' =>
      rw [bind_ok hm']
      rw [hm'] at first
      by_cases inside : C.Inside d
      · exact second a b d d' hm hm' (first inside)
      · -- the first one began what it should not, so nothing is said from here on
        have open_ : ∀ e, C.first e := C.lax.resolve_left fun all => inside fun spot _ => all spot
        cases hf : f a d with
        | error e d₂ =>
          cases f' b d' with
          | error e' _ => exact C.of_first e e' (open_ e)
          | ok y _ => exact open_ e
        | ok x d₂ =>
          have beyond : ¬ C.Inside d₂ := fun all => inside (all.back (evolves a d x d₂ hf))
          cases f' b d' with
          | error e' _ => exact fun all => absurd all beyond
          | ok y _ => exact fun all => absurd all beyond

end Rules

namespace Compares

variable {C : Comparison} {α β γ δ : Type} {m : CompileM α} {m' : CompileM β}

theorem pure (a : α) (b : β) :
    Compares C (Pure.pure a : CompileM α) (Pure.pure b : CompileM β) :=
  ⟨.pure a, fun _ _ meets _ => meets⟩

theorem throw {e : SchemaError} (shallow : ¬ e.IsDeep) :
    Compares C (MonadExcept.throw e : CompileM α) (MonadExcept.throw e : CompileM β) :=
  ⟨fun _ _ _ ok => (by cases ok), fun _ _ _ => C.same e shallow⟩

theorem bind [Nonempty β] {f : α → CompileM γ} {f' : β → CompileM δ} (first : Compares C m m')
    (second : ∀ a b, Compares C (f a) (f' b)) : Compares C (m >>= f) (m' >>= f') := by
  obtain ⟨any⟩ := ‹Nonempty β›
  refine ⟨.bind first.1 fun a => (second a any).1, fun c c' meets => ?_⟩
  exact (first.2 c c' meets).bind (fun a => (second a any).1) fun a b d d' _ _ meets =>
    (second a b).2 d d' meets

theorem mapM [Nonempty γ] {f : α → CompileM β} {f' : δ → CompileM γ} {as : List α} {bs : List δ}
    (step : List.Forall₂ (fun a b => Compares C (f a) (f' b)) as bs) :
    Compares C (as.mapM f) (bs.mapM f') := by
  induction step with
  | nil =>
    rw [List.mapM_nil, List.mapM_nil]
    exact pure _ _
  | cons head tail ih =>
    rw [List.mapM_cons, List.mapM_cons]
    exact head.bind fun _ _ => ih.bind fun _ _ => pure _ _

theorem mapM_self [Nonempty γ] {f : α → CompileM β} {f' : α → CompileM γ} {as : List α}
    (step : ∀ a ∈ as, Compares C (f a) (f' a)) : Compares C (as.mapM f) (as.mapM f') :=
  mapM (List.forall₂_same.2 step)

end Compares

/-! ## Built-in keywords -/

/-- The same keyword at another place. -/
def Occurrence.moved (o : Occurrence) (place : Place) : Occurrence := { o with place }

@[simp] theorem Occurrence.moved_keyword (o : Occurrence) (place : Place) :
    (o.moved place).keyword = o.keyword := rfl

@[simp] theorem Occurrence.moved_value (o : Occurrence) (place : Place) :
    (o.moved place).value = o.value := rfl

@[simp] theorem Occurrence.moved_siblings (o : Occurrence) (place : Place) :
    (o.moved place).siblings = o.siblings := rfl

theorem SchemaError.not_isDeep_compilation (keyword : String) (fault : Fault) :
    ¬ (SchemaError.compilation keyword fault).IsDeep := fun ⟨_, h⟩ => by cases h

theorem SchemaError.not_isDeep_missing (reference document : String) :
    ¬ (SchemaError.missing reference document).IsDeep := fun ⟨_, h⟩ => by cases h

theorem SchemaError.not_isDeep_referenceAt (path : String) :
    ¬ (SchemaError.malformed (.referenceAt path)).IsDeep := fun ⟨_, h⟩ => by cases h

instance : Nonempty Node := ⟨.always true⟩

instance : Nonempty Check := ⟨.probe⟩

instance {α : Type} [Nonempty α] : Nonempty (Dependency α) := ⟨.names []⟩

/-- The compilation of the subschemas of a schema is as compared. -/
def ComparesParts (C : Comparison) (members : Members) (inside inside' : Place)
    (schema schema' : SchemaCompiler) : Prop :=
  ∀ part place place', members.Part part → place.Under inside → place'.Under inside' →
    place.Like place' → Compares C (schema part place) (schema' part place')

section Keywords

variable {C : Comparison} {schema schema' : SchemaCompiler} {o : Occurrence} {inside' : Place}
  (places : o.place.Like inside')
  (parts : ComparesParts C o.siblings o.place inside' schema schema')

namespace Occurrence

theorem moved_like (places : o.place.Like inside') : o.Like (o.moved inside') :=
  ⟨rfl, rfl, fun _ _ => rfl, places⟩

theorem fail_compares {α β : Type} (fault : Fault) :
    Compares C (o.fail fault : CompileM α) ((o.moved inside').fail fault : CompileM β) :=
  .throw (SchemaError.not_isDeep_compilation _ _)

/-- Both look at the value in the same way. -/
theorem lift_bind_compares {α β γ : Type} {x : Except Fault α} {f : α → CompileM β}
    {f' : α → CompileM γ} (rest : ∀ a, x = .ok a → Compares C (f a) (f' a)) :
    Compares C (o.lift x >>= f) ((o.moved inside').lift x >>= f') := by
  cases x with
  | ok a => exact rest a rfl
  | error fault => exact .throw (SchemaError.not_isDeep_compilation _ _)

include places parts

theorem subschema_compares {part : Value} (among : o.siblings.Part part) (steps : List String) :
    Compares C (o.subschema schema part steps) ((o.moved inside').subschema schema' part steps) :=
  parts part (o.partPlace steps) ((o.moved inside').partPlace steps) among ⟨rfl, rfl, rfl, rfl⟩
    ⟨rfl, rfl, rfl, rfl⟩ ((moved_like places).partPlace steps)

theorem sibling_compares {keyword : String} (nests : Draft07.nestingOf keyword = .schema) :
    Compares C (o.sibling schema keyword) ((o.moved inside').sibling schema' keyword) := by
  unfold sibling
  rw [moved_siblings]
  cases found : Members.get? o.siblings keyword with
  | none => exact .pure _ _
  | some part =>
    have among : o.siblings.Part part := ⟨keyword, part, found, by rw [nests]; exact List.mem_cons_self⟩
    have compared := parts part (o.siblingPlace keyword) ((o.moved inside').siblingPlace keyword) among
      ⟨rfl, rfl, rfl, rfl⟩ ⟨rfl, rfl, rfl, rfl⟩ ((moved_like places).siblingPlace keyword)
    exact compared.bind fun _ _ => .pure _ _

theorem schemas_compares {values : List Value} (among : ∀ value ∈ values, o.siblings.Part value) :
    Compares C (o.schemas schema values) ((o.moved inside').schemas schema' values) :=
  .mapM_self fun v mem =>
    subschema_compares places parts (among v.1 (List.fst_mem_of_mem_zipIdx mem)) [toString v.2]

variable (own : Members.get? o.siblings o.keyword.name = some o.value)

omit places parts in
theorem part_of_mem {nesting : Nesting} (nests : Draft07.nestingOf o.keyword.name = nesting)
    {part : Value} (mem : part ∈ nesting.parts o.value)
    (own : Members.get? o.siblings o.keyword.name = some o.value) : o.siblings.Part part :=
  ⟨_, _, own, by rw [nests]; exact mem⟩

include own

theorem alternatives_compares (nests : Draft07.nestingOf o.keyword.name = .array) :
    Compares C (o.alternatives schema) ((o.moved inside').alternatives schema') := by
  refine lift_bind_compares fun values h => ?_
  have listed : o.value = .array values := by
    have found := (Option.filter_eq_some_iff.1 (expect_eq_ok h)).1
    cases hv : o.value <;> rw [hv] at found <;> cases found
    rfl
  refine schemas_compares places parts fun value mem => part_of_mem nests ?_ own
  rw [listed]
  exact mem

theorem dependency_compares (nests : Draft07.nestingOf o.keyword.name = .map) {members : Members}
    (hv : o.value = .object members) {m : String × Value} (mem : m ∈ members) :
    Compares C (o.dependency schema m.1 m.2) ((o.moved inside').dependency schema' m.1 m.2) := by
  have among : o.siblings.Part m.2 := part_of_mem nests (by rw [hv]; exact List.mem_map_of_mem mem) own
  obtain ⟨property, value⟩ := m
  have compared := subschema_compares places parts among [property]
  unfold dependency
  cases value with
  | array values =>
    simp only
    split
    · exact .pure _ _
    · exact fail_compares _
  | _ => exact compared.bind fun _ _ => .pure _ _

end Occurrence

open Occurrence

include places parts in
theorem Applicator.compile_compares {applicator : Applicator}
    (own : Members.get? o.siblings o.keyword.name = some o.value)
    (nests : Draft07.nestingOf o.keyword.name = applicator.nesting) :
    Compares C (applicator.compile schema o) (applicator.compile schema' (o.moved inside')) := by
  have among {part : Value} (mem : part ∈ applicator.nesting.parts o.value) : o.siblings.Part part :=
    part_of_mem nests mem own
  have sub {part : Value} (mem : part ∈ applicator.nesting.parts o.value) (steps : List String) :=
    subschema_compares places parts (among mem) steps
  have members {β : Type} {f f' : Members → CompileM β}
      (rest : ∀ members, o.value = .object members → Compares C (f members) (f' members)) :
      Compares C (o.members >>= f) ((o.moved inside').members >>= f') := by
    refine lift_bind_compares fun members h => rest members ?_
    have found := expect_eq_ok h
    cases hv : o.value <;> rw [hv] at found <;> cases found
    rfl
  cases applicator with
  | properties =>
    refine members fun ms hv => .bind (.mapM_self fun m mem => ?_) fun _ _ => .pure _ _
    exact (sub (by rw [hv]; exact List.mem_map_of_mem mem) [m.1]).bind fun _ _ => .pure _ _
  | patternProperties =>
    refine members fun ms hv => lift_bind_compares fun _ _ => ?_
    refine .bind (.mapM_self fun m mem => ?_) fun _ _ => .pure _ _
    exact sub (by rw [hv]; exact List.mem_map_of_mem mem) [m.1]
  | additionalProperties =>
    refine lift_bind_compares fun _ _ => (sub List.mem_cons_self []).bind fun _ _ => .pure _ _
  | dependencies =>
    refine members fun ms hv => .bind (.mapM_self fun m mem => ?_) fun _ _ => .pure _ _
    exact (dependency_compares places parts own nests hv mem).bind fun _ _ => .pure _ _
  | items =>
    unfold compile
    simp only [moved_value]
    cases hv : o.value with
    | array values =>
      refine .bind (schemas_compares places parts fun v mem => among ?_) fun _ _ => .pure _ _
      rw [hv]
      exact mem
    | _ =>
      refine .bind (sub ?_ []) fun _ _ => .pure _ _
      rw [hv]
      exact List.mem_cons_self
  | additionalItems =>
    unfold compile
    simp only [moved_siblings]
    cases (Members.get? o.siblings "items").bind Value.asArray? with
    | some values => exact (sub List.mem_cons_self []).bind fun _ _ => .pure _ _
    | none => exact .pure _ _
  | propertyNames | contains | not => exact (sub List.mem_cons_self []).bind fun _ _ => .pure _ _
  | allOf | anyOf | oneOf =>
    exact (alternatives_compares places parts own nests).bind fun _ _ => .pure _ _
  | conditional =>
    refine (sub List.mem_cons_self []).bind fun _ _ => ?_
    refine (sibling_compares places parts (by decide +kernel)).bind fun yes yes' => ?_
    refine (sibling_compares places parts (by decide +kernel)).bind fun no no' => ?_
    by_cases trivial : (yes.isNone && no.isNone) = true <;>
      by_cases trivial' : (yes'.isNone && no'.isNone) = true <;>
      simp only [trivial, trivial', if_true] <;> exact .pure _ _

include places parts in
theorem Builtin.compile_compares {meaning : Builtin} (compiler : Compiler)
    (own : Members.get? o.siblings o.keyword.name = some o.value)
    (nests : ∀ applicator, meaning = .applies applicator →
      Draft07.nestingOf o.keyword.name = applicator.nesting) :
    Compares C (meaning.compile compiler schema o)
      (meaning.compile compiler schema' (o.moved inside')) := by
  cases meaning with
  | asserts kind =>
    show Compares C (Check.assertion <$> o.lift _) (Check.assertion <$> (o.moved inside').lift _)
    rw [map_eq_pure_bind, map_eq_pure_bind]
    exact lift_bind_compares fun _ _ => .pure _ _
  | applies applicator => exact applicator.compile_compares places parts own (nests applicator rfl)
  | format =>
    refine lift_bind_compares fun name _ => ?_
    have same : (compiler.optionsAt (o.moved inside').place).unknownFormats =
        (compiler.optionsAt o.place).unknownFormats := by
      unfold Compiler.optionsAt
      split <;> split <;> rfl
    rw [same]
    cases FormatTable.get? compiler.formats name with
    | some found => exact .pure _ _
    | none =>
      cases (compiler.optionsAt o.place).unknownFormats with
      | fail => exact .throw fun ⟨_, h⟩ => by cases h
      | ignore => exact .pure _ _

end Keywords

/-! ## Tables of built-in keywords -/

/-- A table with no keywords but built-in ones, of which the values are not checked. -/
structure VocabularyTable.IsBuiltin (table : VocabularyTable) : Prop where
  ordered : ∀ keyword ∈ table.ordered, keyword ∈ Draft07.keywords
  unchecked : ∀ keyword ∈ table.ordered, table.valueValidators.find? keyword.name = none

namespace Compiler

variable {C : Comparison} {compiler : Compiler} {schema schema' : SchemaCompiler}

theorem refuseValue_of_unchecked {o : Occurrence}
    (unchecked : compiler.vocabulary.valueValidators.find? o.keyword.name = none) :
    compiler.refuseValue o =
      match o.keyword.requires.find? fun name => !o.siblings.contains name with
      | some name => o.fail (.requires name)
      | none => pure () := by
  unfold refuseValue
  simp only [unchecked]
  cases o.keyword.requires.find? fun name => !o.siblings.contains name <;> rfl

theorem refuseValue_compares {o : Occurrence} {inside' : Place}
    (unchecked : compiler.vocabulary.valueValidators.find? o.keyword.name = none) :
    Compares C (compiler.refuseValue o) (compiler.refuseValue (o.moved inside')) := by
  rw [refuseValue_of_unchecked unchecked, refuseValue_of_unchecked (o := o.moved inside') unchecked]
  show Compares C _ (match o.keyword.requires.find? fun name => !o.siblings.contains name with
    | some _ => _ | none => _)
  cases o.keyword.requires.find? fun name => !o.siblings.contains name with
  | some name => exact Occurrence.fail_compares _
  | none => exact .pure _ _

theorem check?_compares {o : Occurrence} {inside' : Place} (places : o.place.Like inside')
    (parts : ComparesParts C o.siblings o.place inside' schema schema')
    (own : Members.get? o.siblings o.keyword.name = some o.value)
    (plain : o.keyword.isPlain = true) :
    Compares C (compiler.check? schema o) (compiler.check? schema' (o.moved inside')) := by
  unfold check?
  rw [Occurrence.moved_keyword]
  rw [Keyword.isPlain] at plain
  cases behavior : o.keyword.behavior with
  | informative => exact .pure _ _
  | builtin meaning =>
    refine .bind (meaning.compile_compares places parts compiler own ?_) fun _ _ => .pure _ _
    rintro applicator rfl
    rw [behavior] at plain
    exact of_decide_eq_true plain
  | _ =>
    rw [behavior] at plain
    cases plain

theorem rule?_compares {o : Occurrence} {inside' : Place} (places : o.place.Like inside')
    (parts : ComparesParts C o.siblings o.place inside' schema schema')
    (own : Members.get? o.siblings o.keyword.name = some o.value)
    (plain : o.keyword.isPlain = true)
    (unchecked : compiler.vocabulary.valueValidators.find? o.keyword.name = none) :
    Compares C (compiler.rule? schema o) (compiler.rule? schema' (o.moved inside')) :=
  .bind (refuseValue_compares unchecked) fun _ _ =>
    (check?_compares places parts own plain).bind fun _ _ => .pure _ _

variable (builtin : compiler.vocabulary.IsBuiltin)

include builtin

theorem rules_compares {members : Members} {inside inside' : Place} (places : inside.Like inside')
    (parts : ComparesParts C members inside inside' schema schema') :
    Compares C (compiler.rules schema members inside) (compiler.rules schema' members inside') := by
  refine .bind ?_ fun _ _ => ?_
  · unfold refuseUnknown
    have same : (compiler.optionsAt inside').unknownKeywords =
        (compiler.optionsAt inside).unknownKeywords := by
      unfold optionsAt
      split <;> split <;> rfl
    rw [same, places.schemaPath]
    split
    · split
      · exact .throw (SchemaError.not_isDeep_compilation _ _)
      · exact .pure _ _
    · exact .pure _ _
  · refine .bind (.mapM ?_) fun _ _ => .pure _ _
    show List.Forall₂ _ (compiler.occurrences members inside) (compiler.occurrences members inside')
    have moved : compiler.occurrences members inside' =
        (compiler.occurrences members inside).map (·.moved inside') := by
      rw [occurrences, occurrences, List.map_filterMap]
      refine List.filterMap_congr fun keyword _ => ?_
      split
      · rfl
      · rw [Option.map_map]
        rfl
    rw [moved, List.forall₂_map_right_iff, List.forall₂_same]
    intro o mem
    obtain ⟨keyword, memK, h⟩ := List.mem_filterMap.1 mem
    split at h
    · cases h
    · obtain ⟨value, found, rfl⟩ := Option.map_eq_some_iff.1 h
      exact rule?_compares places parts found (Draft07.isPlain (builtin.ordered keyword memK))
        (builtin.unchecked keyword memK)

/-! ## Schemas -/

omit builtin in
theorem bind_baseInside_compares {α β : Type} {members : Members} {outside outside' : Place}
    (places : outside.Like outside') {f : String → CompileM α} {f' : String → CompileM β}
    (rest : Compares C (f (innerBase members outside.base outside.applyId))
      (f' (innerBase members outside'.base outside'.applyId))) :
    Compares C (baseInside members outside >>= f) (baseInside members outside' >>= f') := by
  unfold baseInside
  unfold innerBase at rest
  rw [← places.base, ← places.applyId] at rest
  rw [← places.base, ← places.applyId, ← places.schemaPath]
  cases found : Members.get? members "$id" with
  | none =>
    rw [found] at rest
    exact rest
  | some value =>
    rw [found] at rest
    cases counts : outside.applyId with
    | false =>
      rw [counts] at rest
      cases value <;> exact rest
    | true =>
      rw [counts] at rest
      cases value with
      | string id => exact rest
      | _ => exact .throw fun ⟨_, h⟩ => by cases h

/-- A schema is compared by comparing its subschemas and its reference. -/
theorem compares_node {begin begin' : EntryId → Bool → CompileM Unit} {value : Value}
    {outside outside' : Place} (places : outside.Like outside')
    (parts : ∀ members, value = .object members →
      ComparesParts C members (outside.inner members) (outside'.inner members) schema schema')
    (references : ∀ members text, value = .object members → Members.get? members "$ref" = some text →
      Compares C (reference begin text (outside.inner members))
        (reference begin' text (outside'.inner members))) :
    Compares C (compiler.node schema begin value outside)
      (compiler.node schema' begin' value outside') := by
  cases value with
  | bool verdict => exact .pure _ _
  | object members =>
    have parts := parts members rfl
    have inner := places.inner members
    refine bind_baseInside_compares places ?_
    cases found : Members.get? members "$ref" with
    | none => exact (rules_compares builtin inner parts).bind fun _ _ => .pure _ _
    | some text =>
      refine (references members text rfl found).bind fun target target' => ?_
      simp only [extendRefs_optionsAt]
      cases compiler.options.extendRefs with
      | ignore => exact .pure _ _
      | fail =>
        by_cases beside : (Members.names members).any compiler.checks = true
        · simp only [beside, if_true, places.schemaPath]
          exact .bind (.throw (SchemaError.not_isDeep_compilation _ _)) fun _ _ => .pure _ _
        · simp only [beside]
          exact .pure _ _
      | apply => exact (rules_compares builtin inner parts).bind fun _ _ => .pure _ _
  | _ =>
    show Compares C (throw _) (throw _)
    rw [places.schemaPath]
    exact .throw fun ⟨_, h⟩ => by cases h

end Compiler

end JsonSchema
