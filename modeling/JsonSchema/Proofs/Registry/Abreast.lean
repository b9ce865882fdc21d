import JsonSchema.Compilation.Schema
import JsonSchema.Proofs.Registry.Reachable
import JsonSchema.Proofs.Validation.Abridging

/-!
# Registries that report more or less

Two registries do the same, and one of them stops validations at the first violation. They hold
the same documents and the same compiled schemas all the time, and fail together.

* `Options.reporting`, `Compiler.reporting`: the same with the option for what is reported.
* `Compiler.compile_reporting`: it makes no difference to compilations.
* `Abreast`: operations that have related outcomes in related states.
* `Registry.Beside`: two registries that differ in what they report.
* `Registry.addSchemaWith_abreast`, `Registry.compile_abreast` and the others: one rule for each
  operation that leaves the keywords as they are.
-/

namespace JsonSchema

/-! ## Options for reports -/

/-- The options under which everything is found, or only the first violation. -/
def Options.reporting (options : Options) (allErrors : Bool) : Options := { options with allErrors }

section Compilations

variable {schema : SchemaCompiler} {begin : EntryId → Bool → CompileM Unit}
  (compiler : Compiler) (allErrors : Bool)

/-- A compiler under these options. -/
def Compiler.reporting : Compiler :=
  { compiler with options := compiler.options.reporting allErrors }

namespace Compiler

theorem optionsAt_reporting (place : Place) :
    (compiler.reporting allErrors).optionsAt place =
      (compiler.optionsAt place).reporting allErrors := by
  unfold optionsAt
  split
  · rfl
  · rfl

theorem builtin_reporting (meaning : Builtin) (o : Occurrence) :
    meaning.compile (compiler.reporting allErrors) schema o = meaning.compile compiler schema o := by
  cases meaning with
  | format =>
    simp only [Builtin.compile, Builtin.compileFormat, optionsAt_reporting]
    rfl
  | asserts | applies => rfl

theorem extension_reporting (meaning : Extension) (o : Occurrence) :
    meaning.compile (compiler.reporting allErrors) schema o = meaning.compile compiler schema o := by
  cases meaning with
  | probe =>
    simp only [Extension.compile, optionsAt_reporting]
    rfl
  | _ => rfl

theorem check?_reporting (o : Occurrence) :
    (compiler.reporting allErrors).check? schema o = compiler.check? schema o := by
  unfold check?
  simp only [builtin_reporting, extension_reporting]

theorem rules_reporting (members : Members) (place : Place) :
    (compiler.reporting allErrors).rules schema members place =
      compiler.rules schema members place := by
  have each : (compiler.reporting allErrors).rule? schema = compiler.rule? schema := by
    funext o
    unfold rule?
    rw [check?_reporting]
    rfl
  unfold rules refuseUnknown
  rw [each, optionsAt_reporting]
  rfl

theorem node_reporting (value : Value) (place : Place) :
    (compiler.reporting allErrors).node schema begin value place =
      compiler.node schema begin value place := by
  unfold node
  simp only [rules_reporting, optionsAt_reporting]
  rfl

theorem schema_reporting (fuel : Nat) :
    (compiler.reporting allErrors).schema fuel = compiler.schema fuel := by
  induction fuel with
  | zero => rfl
  | succ fuel ih =>
    funext value place
    rw [Compiler.schema, Compiler.schema, ih, node_reporting]

/-- A compilation is the same whether everything is to be found or only the first violation. -/
theorem compile_reporting (id : EntryId) (store : Store) :
    (compiler.reporting allErrors).compile id store = compiler.compile id store := by
  unfold compile
  rw [schema_reporting]

end Compiler

end Compilations

/-- The same error, or a refusal for violations that abridge those of the other one. -/
inductive SchemaError.Abridges : SchemaError → SchemaError → Prop
  | same (e : SchemaError) : Abridges e e
  | refused {short full : Violations} (h : short.Abridges full) :
      Abridges (.invalid short) (.invalid full)

/-! ## Operations side by side -/

section Rules

variable {σ α β α' β' : Type} {B : σ → σ → Prop} {R : α → α' → Prop} {S : β → β' → Prop}
  {m : EStateM SchemaError σ α} {m' : EStateM SchemaError σ α'}

/-- Related outcomes: both are results, or both are errors. -/
def Outcomes (B : σ → σ → Prop) (R : α → α' → Prop) :
    EStateM.Result SchemaError σ α → EStateM.Result SchemaError σ α' → Prop
  | .ok a s, .ok a' s' => R a a' ∧ B s s'
  | .error e s, .error e' s' => e.Abridges e' ∧ B s s'
  | _, _ => False

/-- Operations that have related outcomes in related states. -/
def Abreast (B : σ → σ → Prop) (R : α → α' → Prop) (m : EStateM SchemaError σ α)
    (m' : EStateM SchemaError σ α') : Prop :=
  ∀ s s', B s s' → Outcomes B R (m s) (m' s')

namespace Abreast

/-- Such operations either both succeed or both fail. -/
theorem cases (h : Abreast B R m m') {s s' : σ} (beside : B s s') :
    (∃ a t a' t', m s = .ok a t ∧ m' s' = .ok a' t' ∧ R a a' ∧ B t t') ∨
      ∃ e t e' t', m s = .error e t ∧ m' s' = .error e' t' ∧ e.Abridges e' ∧ B t t' := by
  have outcomes := h s s' beside
  cases run : m s <;> cases run' : m' s' <;> rw [run, run'] at outcomes
  · exact .inl ⟨_, _, _, _, rfl, rfl, outcomes⟩
  · exact outcomes.elim
  · exact outcomes.elim
  · exact .inr ⟨_, _, _, _, rfl, rfl, outcomes⟩

theorem of_outcomes (h : ∀ s s', B s s' → Outcomes B R (m s) (m' s')) : Abreast B R m m' := h

theorem pure {a : α} {a' : α'} (h : R a a') : Abreast B R (pure a) (pure a') :=
  fun _ _ beside => ⟨h, beside⟩

theorem throw {e e' : SchemaError} (h : e.Abridges e') :
    Abreast B R (MonadExcept.throw e) (MonadExcept.throw e') :=
  fun _ _ beside => ⟨h, beside⟩

theorem get_bind {f : σ → EStateM SchemaError σ α} {f' : σ → EStateM SchemaError σ α'}
    (rest : ∀ s s', B s s' → Abreast B R (f s) (f' s')) : Abreast B R (get >>= f) (get >>= f') :=
  fun s s' beside => rest s s' beside s s' beside

theorem modify {change change' : σ → σ} (h : ∀ s s', B s s' → B (change s) (change' s')) :
    Abreast B Eq (modify change : EStateM SchemaError σ PUnit) (modify change') :=
  fun s s' beside => ⟨rfl, h s s' beside⟩

theorem bind {f : α → EStateM SchemaError σ β} {f' : α' → EStateM SchemaError σ β'}
    (first : Abreast B R m m') (second : ∀ a a', R a a' → Abreast B S (f a) (f' a')) :
    Abreast B S (m >>= f) (m' >>= f') := by
  intro s s' beside
  show Outcomes B S (EStateM.bind m f s) (EStateM.bind m' f' s')
  unfold EStateM.bind
  rcases first.cases beside with ⟨a, t, a', t', run, run', related, next⟩ |
    ⟨e, t, e', t', run, run', related, next⟩
  · rw [run, run']
    exact second a a' related t t' next
  · rw [run, run']
    exact ⟨related, next⟩

theorem throw_bind {e e' : SchemaError} (h : e.Abridges e') {f : α → EStateM SchemaError σ β}
    {f' : α' → EStateM SchemaError σ β'} :
    Abreast B S (MonadExcept.throw e >>= f) (MonadExcept.throw e' >>= f') :=
  fun _ _ beside => ⟨h, beside⟩

theorem tryCatch {f f' : SchemaError → EStateM SchemaError σ α} {m m' : EStateM SchemaError σ α}
    {R : α → α → Prop} (first : Abreast B R m m')
    (second : ∀ e e', e.Abridges e' → Abreast B R (f e) (f' e')) :
    Abreast B R (tryCatch m f) (tryCatch m' f') := by
  intro s s' beside
  show Outcomes B R (EStateM.tryCatch m f s) (EStateM.tryCatch m' f' s')
  unfold EStateM.tryCatch
  rcases first.cases beside with ⟨a, t, a', t', run, run', related, next⟩ |
    ⟨e, t, e', t', run, run', related, next⟩
  · rw [run, run']
    exact ⟨related, next⟩
  · rw [run, run']
    exact second e e' related t t' next

/-- The same with a result that is the same in both. -/
theorem bindEq {m m' : EStateM SchemaError σ α} {f : α → EStateM SchemaError σ β}
    {f' : α → EStateM SchemaError σ β'} (first : Abreast B Eq m m')
    (second : ∀ a, Abreast B S (f a) (f' a)) : Abreast B S (m >>= f) (m' >>= f') :=
  first.bind fun a _ same => same ▸ second a

theorem map {f : α → β} {f' : α' → β'} (first : Abreast B R m m')
    (h : ∀ a a', R a a' → S (f a) (f' a')) : Abreast B S (f <$> m) (f' <$> m') := by
  rw [map_eq_pure_bind, map_eq_pure_bind]
  exact first.bind fun a a' related => pure (h a a' related)

theorem ite {c : Prop} [Decidable c] {n : EStateM SchemaError σ α} {n' : EStateM SchemaError σ α'}
    (yes : Abreast B R m m') (no : Abreast B R n n') :
    Abreast B R (if c then m else n) (if c then m' else n') := by
  split
  · exact yes
  · exact no

theorem mapM {f f' : α → EStateM SchemaError σ β} (step : ∀ a, Abreast B Eq (f a) (f' a))
    (list : List α) : Abreast B Eq (list.mapM f) (list.mapM f') := by
  induction list with
  | nil =>
    rw [List.mapM_nil, List.mapM_nil]
    exact pure rfl
  | cons a rest ih =>
    rw [List.mapM_cons, List.mapM_cons]
    exact (step a).bindEq fun _ => ih.bindEq fun _ => pure rfl

theorem foldlM {f f' : β → α → EStateM SchemaError σ β}
    (step : ∀ b a, Abreast B Eq (f b a) (f' b a)) (list : List α) (b : β) :
    Abreast B Eq (list.foldlM f b) (list.foldlM f' b) := by
  induction list generalizing b with
  | nil =>
    rw [List.foldlM_nil, List.foldlM_nil]
    exact pure rfl
  | cons a rest ih =>
    rw [List.foldlM_cons, List.foldlM_cons]
    exact (step b a).bindEq fun b => ih b

theorem forM {f f' : α → EStateM SchemaError σ PUnit} (step : ∀ a, Abreast B Eq (f a) (f' a))
    (list : List α) : Abreast B Eq (list.forM f) (list.forM f') := by
  induction list with
  | nil => exact pure rfl
  | cons a rest ih => exact (step a).bindEq fun _ => ih

end Abreast

end Rules

/-! ## Registries -/

/-- Validators that differ in how much they report. -/
def Validator.Beside (v v' : Validator) : Prop :=
  ∃ w : Validator, v = w.reporting false ∧ v' = w.reporting true

namespace Registry

/-- A registry with another record of what it found, that finds everything or only the first
    violation. -/
def reporting (r : Registry) (allErrors : Bool) (errors : Option Violations)
    (events : List Event) : Registry :=
  { r with options := r.options.reporting allErrors, errors, events }

/-- Registries that differ in what they report. -/
inductive Beside : Registry → Registry → Prop
  | intro (r : Registry) (errors errors' : Option Violations) (events events' : List Event) :
      Beside (r.reporting false errors events) (r.reporting true errors' events')

theorem Beside.store_eq {r r' : Registry} (h : Beside r r') : r.store = r'.store := by
  cases h
  rfl

section Steps

variable {α α' : Type} {R : α → α' → Prop} {m : RegistryM α} {m' : RegistryM α'}

theorem Beside.after {r r' : Registry} (beside : Beside r r') (h : Abreast Beside R m m') :
    Beside (m.after r) (m'.after r') := by
  rcases h.cases beside with ⟨a, t, a', t', run, run', -, next⟩ | ⟨e, t, e', t', run, run', -, next⟩
  · rw [RegistryM.after, RegistryM.after, run, run']
    exact next
  · rw [RegistryM.after, RegistryM.after, run, run']
    exact next

theorem get_abreast {f : Registry → RegistryM α} {f' : Registry → RegistryM α'}
    (rest : ∀ (r : Registry) errors errors' events events',
      Abreast Beside R (f (r.reporting false errors events))
        (f' (r.reporting true errors' events'))) :
    Abreast Beside R (get >>= f) (get >>= f') := by
  refine .get_bind ?_
  rintro _ _ ⟨r, errors, errors', events, events'⟩
  exact rest r errors errors' events events'

theorem modify_abreast {change change' : Registry → Registry}
    (h : ∀ (r : Registry) errors errors' events events',
      Beside (change (r.reporting false errors events))
        (change' (r.reporting true errors' events'))) :
    Abreast Beside Eq (modify change : RegistryM PUnit) (modify change') := by
  refine .modify ?_
  rintro _ _ ⟨r, errors, errors', events, events'⟩
  exact h r errors errors' events events'

theorem updateStore_abreast (change : Store → Store) :
    Abreast Beside Eq (updateStore change) (updateStore change) :=
  modify_abreast fun r _ _ _ _ => .intro { r with store := change r.store } _ _ _ _

theorem trace_abreast (events events' : List Event) :
    Abreast Beside Eq (trace events) (trace events') :=
  modify_abreast fun r _ _ before before' => .intro r _ _ (before ++ events) (before' ++ events')

theorem lift_abreast (x : Except SchemaError α) : Abreast Beside Eq (lift x) (lift x) := by
  cases x with
  | ok a => exact .pure rfl
  | error e => exact .throw (.same e)

theorem orElseUndo_abreast {m m' : RegistryM α} {R : α → α → Prop} {undo : RegistryM Unit}
    (first : Abreast Beside R m m') (undoes : Abreast Beside Eq undo undo) :
    Abreast Beside R (orElseUndo m undo) (orElseUndo m' undo) :=
  first.tryCatch fun _ _ related => undoes.bindEq fun _ => .throw related

end Steps

-- from here on the rules are enough
attribute [irreducible] Abreast

/-! ## Checking documents -/

theorem compileEntry_abreast (id : EntryId) :
    Abreast Beside Validator.Beside (compileEntry id) (compileEntry id) := by
  have made : Abreast Beside Validator.Beside
      (do return (← get).validator id) (do return (← get).validator id) :=
    get_abreast fun r _ _ _ _ => .pure ⟨r.validator id, rfl, rfl⟩
  refine get_abreast fun r errors errors' events events' => .ite made ?_
  rw [show (r.reporting false errors events).compiler = r.compiler.reporting false from rfl,
    show (r.reporting true errors' events').compiler = r.compiler.reporting true from rfl,
    Compiler.compile_reporting, Compiler.compile_reporting]
  show Abreast Beside _ (do
      updateStore fun _ => (r.compiler.compile id r.store).2.1
      _) _
  exact .bindEq (updateStore_abreast fun _ => (r.compiler.compile id r.store).2.1) fun _ =>
    .bindEq (trace_abreast _ _) fun _ => .bindEq (lift_abreast _) fun _ => made

theorem apply_abreast {v v' : Validator} (beside : v.Beside v') (data : Value) :
    Abreast Beside Violations.Abridges (apply v data) (apply v' data) := by
  obtain ⟨w, rfl, rfl⟩ := beside
  exact get_abreast fun r _ _ _ _ => .bindEq (trace_abreast _ _) fun _ =>
    .pure (w.validate_abridges r.store.slots data)

theorem record_abreast {short full : Violations} (h : short.Abridges full) :
    Abreast Beside Eq (record short) (record full) := by
  refine .bindEq (modify_abreast ?_) fun _ => .pure h.isEmpty_eq
  intro r₀ errors errors' events events'
  exact .intro r₀ _ _ events events'

theorem validateAgainst_abreast (metaSchema : EntryId) (document : Value) (refuse : Bool) :
    Abreast Beside Eq (validateAgainst metaSchema document refuse)
      (validateAgainst metaSchema document refuse) := by
  refine (compileEntry_abreast metaSchema).bind fun v v' beside =>
    (apply_abreast beside document).bind fun short full abridges =>
      (record_abreast abridges).bindEq fun passed => .ite (.pure rfl) ?_
  exact get_abreast fun _ _ _ _ _ => .ite (.throw_bind (.refused abridges)) (.pure rfl)

theorem missingMeta_abreast (name : String) (refuse : Bool) :
    Abreast Beside Eq (missingMeta name refuse) (missingMeta name refuse) := by
  refine get_abreast fun r _ _ _ _ => ?_
  dsimp only [reporting, Options.reporting]
  cases r.options.missingMeta with
  | permissive => exact .pure rfl
  | strict =>
    exact .bindEq (record_abreast (.refl _)) fun _ => .ite (.throw_bind (.same _)) (.pure rfl)

theorem validateSchema_abreast (document : Value) (refuse : Bool) :
    Abreast Beside Eq (validateSchema document refuse) (validateSchema document refuse) := by
  refine get_abreast fun r _ _ _ _ => ?_
  dsimp only [reporting, Options.reporting]
  split
  · exact validateAgainst_abreast _ document refuse
  · exact missingMeta_abreast _ refuse

/-! ## Taking documents in -/

theorem checkOwn_abreast (entry : EntryId) (document : Value) (own : Bool) :
    Abreast Beside Eq (checkOwn entry document own) (checkOwn entry document own) := by
  cases own with
  | false => exact .pure rfl
  | true =>
    exact .bindEq (orElseUndo_abreast (validateAgainst_abreast _ _ _) (updateStore_abreast _))
      fun _ => .pure rfl

theorem placeEntry_abreast (vocabulary : VocabularyTable) (document : Value) (key : CacheKey)
    (id : String) (isMeta named own : Bool) :
    Abreast Beside Eq (placeEntry vocabulary document key id isMeta named own)
      (placeEntry vocabulary document key id isMeta named own) :=
  .bindEq (lift_abreast _) fun _ => get_abreast fun _ _ _ _ _ =>
    .bindEq (updateStore_abreast _) fun _ => checkOwn_abreast _ _ _

theorem insertEntry_abreast (document : Document) (key : CacheKey) (id : String)
    (isMeta validate register : Bool) :
    Abreast Beside Eq (insertEntry document key id isMeta validate register)
      (insertEntry document key id isMeta validate register) := by
  refine get_abreast fun r _ _ _ _ => .ite (.throw_bind (.same _)) ?_
  all_goals refine .ite (.bindEq (validateSchema_abreast _ _) fun _ => ?_) ?_
  all_goals exact placeEntry_abreast r.vocabulary document.value key id isMeta _ _

theorem addEntry_abreast (document : Document) (id : String) (isMeta validate register : Bool) :
    Abreast Beside Eq (addEntry document id isMeta validate register)
      (addEntry document id isMeta validate register) := by
  refine get_abreast fun r _ _ _ _ => ?_
  dsimp only [reporting, Options.reporting]
  split
  · exact .ite (.bindEq (updateStore_abreast _) fun _ => .pure rfl) (.pure rfl)
  · exact insertEntry_abreast document _ id isMeta validate register

theorem nameEntry_abreast (entry : EntryId) (key : String) :
    Abreast Beside Eq (nameEntry entry key) (nameEntry entry key) := by
  unfold nameEntry
  exact .ite (.pure rfl) (.bindEq (updateStore_abreast _) fun _ => .pure rfl)

theorem addSchemaWith_abreast (document : Document) (add : AddOptions) :
    Abreast Beside Eq (addSchemaWith document add) (addSchemaWith document add) := by
  unfold addSchemaWith
  refine .bindEq (lift_abreast _) fun id => ?_
  generalize normalizeId (add.key.getD id) = key
  refine get_abreast fun r _ _ _ _ => ?_
  have named := (addEntry_abreast document id add.isMeta (!add.skipValidation) true).bindEq
    fun entry => nameEntry_abreast entry key
  exact .ite (.throw_bind (.same _)) named

theorem addSchemas_abreast (documents : List Document) :
    Abreast Beside Eq (addSchemas documents) (addSchemas documents) :=
  .mapM (fun document => addSchemaWith_abreast document _) documents

/-! ## Compiling and validating -/

theorem compile_abreast (document : Document) :
    Abreast Beside Validator.Beside (compile document) (compile document) := by
  refine .bindEq (lift_abreast _) fun id => get_abreast fun r _ _ _ _ =>
    (addEntry_abreast document id false true r.options.addUsedSchema).bindEq fun entry => ?_
  exact orElseUndo_abreast (compileEntry_abreast entry) (.ite (.pure rfl) (updateStore_abreast _))

/-- Validators that differ in how much they report, or none. -/
theorem getSchema_abreast (name : String) :
    Abreast Beside (Option.Rel Validator.Beside) (getSchema name) (getSchema name) := by
  have compiled (entry : EntryId) : Abreast Beside (Option.Rel Validator.Beside)
      (some <$> compileEntry entry) (some <$> compileEntry entry) :=
    (compileEntry_abreast entry).map fun _ _ => .some
  refine get_abreast fun r _ _ _ _ => ?_
  dsimp only [reporting]
  split
  · exact compiled _
  · split
    · exact compiled _
    · refine .bindEq (updateStore_abreast _) fun _ =>
        .map (orElseUndo_abreast (compileEntry_abreast _) ?_) fun _ _ => .some
      exact .ite (updateStore_abreast _) (.pure rfl)
    · exact .pure .none

theorem missingDocuments_abreast (document : Value) :
    Abreast Beside Eq (missingDocuments document) (missingDocuments document) :=
  get_abreast fun _ _ _ _ _ => .bindEq (lift_abreast _) fun _ => .bindEq (lift_abreast _) fun _ => .pure rfl

theorem validate_abreast (name : String) (data : Value) :
    Abreast Beside Eq (validate name data) (validate name data) := by
  refine (getSchema_abreast name).bind fun v? v?' related => ?_
  cases related with
  | none => exact .throw (.same _)
  | some beside => exact (apply_abreast beside data).bind fun _ _ => record_abreast

theorem validateValue_abreast (document : Document) (data : Value) :
    Abreast Beside Eq (validateValue document data) (validateValue document data) :=
  (compile_abreast document).bind fun _ _ beside =>
    (apply_abreast beside data).bind fun _ _ => record_abreast

/-! ## Removing, formats, creating -/

theorem removeSchema_abreast (target : RemoveTarget) :
    Abreast Beside Eq (removeSchema target) (removeSchema target) := by
  refine get_abreast fun r _ _ _ _ => ?_
  exact .foldlM (fun _ _ => get_abreast fun _ _ _ _ _ => .bindEq (updateStore_abreast _) fun _ => .pure rfl)
    (r.victims target) 0

theorem addFormat_abreast (name : String) (format : Format) :
    Abreast Beside Eq (addFormat name format) (addFormat name format) := by
  refine modify_abreast ?_
  intro r₀ errors errors' events events'
  exact .intro { r₀ with formats := FormatTable.insert r₀.formats name format } _ _ _ _

theorem copy_abreast (value : Value) : Abreast Beside Eq (copy value) (copy value) := by
  refine get_abreast fun r _ _ _ _ => .bindEq (modify_abreast ?_) fun _ => .pure rfl
  intro r₀ errors errors' events events'
  exact .intro { r₀ with copies := r.copies + 1 } _ _ _ _

theorem installMeta_abreast : Abreast Beside Eq installMeta installMeta := by
  unfold installMeta
  refine (copy_abreast Draft07.metaSchema).bindEq fun document => ?_
  refine (addSchemaWith_abreast document { skipValidation := true, isMeta := true }).bindEq
    fun _ => ?_
  generalize Draft07.metaId = name
  refine modify_abreast ?_
  intro r₀ errors errors' events events'
  exact .intro { r₀ with defaultMeta := some name } errors errors' events events'

/-- Registries that are created with options for reports differ in nothing else. -/
theorem create_beside (options : Options) :
    Beside (create (options.reporting false)) (create (options.reporting true)) := by
  have blank_ : Beside (blank (options.reporting false)) (blank (options.reporting true)) := by
    unfold blank
    simp only [show ∀ b, (options.reporting b).overwriteKeywords = options.overwriteKeywords from
      fun _ => rfl]
    generalize VocabularyTable.draft07 options.overwriteKeywords = vocabulary
    exact .intro { options, vocabulary } none none [] []
  rw [create_eq, create_eq]
  show Beside (if options.installMeta then _ else _) (if options.installMeta then _ else _)
  split
  · exact blank_.after installMeta_abreast
  · exact blank_

end Registry

end JsonSchema
