import JsonSchema.Proofs.Order.Answers
import JsonSchema.Proofs.Registry.Steps
import JsonSchema.Proofs.Registry.Stopping
import JsonSchema.Proofs.Siblings.Compilations

/-!
# Registries that read siblings of references differently

What becomes of keywords beside a reference is an option of the registry. Documents that compile
where such keywords are forbidden compile under the other choices, too, and accept the same data.

* `Registry.SameContents`: registries that differ in nothing but this option and its traces in
  compiled schemas.
* `Registry.compile_carries`: a document that compiles where siblings are forbidden.
* `Registry.run_siblings_agree`: what its validators accept.
-/

namespace JsonSchema

namespace Registry

/-! ## Registries with the same contents -/

/-- The same registry, with another choice of what becomes of keywords beside references. -/
def extending (r : Registry) (mode : ReferenceSiblings) : Registry :=
  { r with options := r.options.extending mode }

/-- Two registries hold the same documents under the same names, and have compiled the same of them.
    They may differ in what becomes of keywords beside references, in whether compiled references
    stand in rules of their own, and in what they found and traced so far. -/
structure SameContents (r r' : Registry) : Prop where
  options : r'.options = r.options.extending r'.options.extendRefs
  vocabulary : r'.vocabulary = r.vocabulary
  formats : r'.formats = r.formats
  defaultMeta : r'.defaultMeta = r.defaultMeta
  store : r.store.Wrapped r'.store

/-- A registry has the same contents under any choice. -/
theorem sameContents_extending (r : Registry) (mode : ReferenceSiblings) :
    r.SameContents (r.extending mode) := ⟨rfl, rfl, rfl, rfl, .refl _⟩

/-- A registry with built-in keywords only, in which none of them may stand beside a reference and
    unknown ones are not refused. -/
structure IsStrict (r : Registry) : Prop where
  builtin : r.vocabulary.IsBuiltin
  defined : ∀ keyword ∈ r.vocabulary.ordered, r.vocabulary.get? keyword.name = some keyword
  strict : r.options.extendRefs = .fail
  lenient : r.options.unknownKeywords ≠ .fail

/-- A strict registry, and one with the same contents. -/
structure Beneath (r r' : Registry) : Prop where
  strict : r.IsStrict
  same : r.SameContents r'

namespace SameContents

variable {r r' : Registry} (same : r.SameContents r')

include same

theorem compiler_eq : r'.compiler = r.compiler.extending r'.options.extendRefs := by
  unfold compiler Compiler.extending
  rw [same.vocabulary, same.formats]
  exact congrArg (Compiler.mk r.vocabulary r.formats) same.options

theorem validateSchema_eq : r'.options.validateSchema = r.options.validateSchema := by
  rw [same.options]
  rfl

theorem serialize_eq : r'.options.serialize = r.options.serialize := by
  rw [same.options]
  rfl

theorem addUsedSchema_eq : r'.options.addUsedSchema = r.options.addUsedSchema := by
  rw [same.options]
  rfl

theorem metaDefault_eq : r'.options.defaultMeta = r.options.defaultMeta := by
  rw [same.options]
  rfl

theorem missingMeta_eq : r'.options.missingMeta = r.options.missingMeta := by
  rw [same.options]
  rfl

theorem isCompiled_eq (id : EntryId) : r'.isCompiled id = r.isCompiled id := by
  rw [isCompiled, isCompiled]
  have slots := same.store.slots id
  generalize r.store.slots id = node at slots ⊢
  generalize r'.store.slots id = node' at slots ⊢
  cases slots <;> rfl

/-- The validators of an entry are the same. -/
theorem validator_eq (id : EntryId) : r'.validator id = r.validator id := by
  rw [validator, validator, same.store.isAsync_eq, same.options]
  rfl

/-- Validators accept the same data. -/
theorem validate_iff (v : Validator) (data : Value) :
    (v.validate r.store.slots data).violations = [] ↔
      (v.validate r'.store.slots data).violations = [] :=
  v.validate_wrapped same.store.slots data

theorem resolve_iff (v : Validator) (data : Value) :
    (v.resolve r.store.slots data).violations = [] ↔
      (v.resolve r'.store.slots data).violations = [] :=
  v.resolve_wrapped same.store.slots data

end SameContents

/-! ## Operations -/

section Steps

variable {α β : Type} {R : α → β → Prop} {m : RegistryM α} {m' : RegistryM β}

/-- What happens to the store of the first registry happens to that of the second one. -/
theorem updateStore_carries {change change' : Store → Store}
    (h : ∀ s s' : Store, s.Wrapped s' → (change s).Wrapped (change' s')) :
    Carries Beneath Eq (updateStore change) (updateStore change') := by
  refine .modify fun r r' beneath => ⟨⟨?_, ?_, ?_, ?_⟩, ⟨?_, ?_, ?_, ?_, ?_⟩⟩
  · exact beneath.strict.builtin
  · exact beneath.strict.defined
  · exact beneath.strict.strict
  · exact beneath.strict.lenient
  · exact beneath.same.options
  · exact beneath.same.vocabulary
  · exact beneath.same.formats
  · exact beneath.same.defaultMeta
  · exact h _ _ beneath.same.store

/-- Traces and findings may differ. -/
theorem notes_carries {change change' : Registry → Registry}
    (h : ∀ r, ∃ errors events, change r = { r with errors, events })
    (h' : ∀ r, ∃ errors events, change' r = { r with errors, events }) :
    Carries Beneath Eq (modify change : RegistryM PUnit) (modify change') := by
  refine .modify fun r r' beneath => ?_
  obtain ⟨errors, events, changed⟩ := h r
  obtain ⟨errors', events', changed'⟩ := h' r'
  rw [changed, changed']
  obtain ⟨⟨builtin, defined, strict, lenient⟩, ⟨options, vocabulary, formats, defaultMeta, store⟩⟩ := beneath
  exact ⟨⟨builtin, defined, strict, lenient⟩, ⟨options, vocabulary, formats, defaultMeta, store⟩⟩

theorem trace_carries (events events' : List Event) :
    Carries Beneath Eq (trace events) (trace events') :=
  notes_carries (fun r => ⟨r.errors, _, rfl⟩) fun r => ⟨r.errors, _, rfl⟩

theorem lift_carries (x : Except SchemaError α) : Carries Beneath Eq (lift x) (lift x) := by
  cases x with
  | ok a => exact .pure rfl
  | error e => exact .throw e

/-- An operation that is undone when it fails succeeds if it is not undone. -/
theorem orElseUndo_carries {m' : RegistryM β} (first : Carries Beneath R m m')
    (undo undo' : RegistryM Unit) :
    Carries Beneath R (orElseUndo m undo) (orElseUndo m' undo') := by
  intro r r' a s beneath ok
  have ok : EStateM.tryCatch m (fun e => do undo; throw e) r = .ok a s := ok
  show ∃ b s', EStateM.tryCatch m' (fun e => do undo'; throw e) r' = .ok b s' ∧ _
  unfold EStateM.tryCatch at ok ⊢
  cases run : m r with
  | ok b t =>
    rw [run] at ok
    obtain ⟨c, t', run', related, next⟩ := first r r' b t beneath run
    rw [run']
    cases ok
    exact ⟨c, t', rfl, related, next⟩
  | error e t =>
    rw [run] at ok
    have ok : EStateM.bind undo (fun _ => throw e) t = .ok a s := ok
    unfold EStateM.bind at ok
    cases undone : undo t <;> rw [undone] at ok <;> cases ok

end Steps

/-! ## Checking documents -/

/-- An entry that compiles where siblings are forbidden compiles, and its validator is the same. -/
theorem compileEntry_carries (id : EntryId) :
    Carries Beneath Eq (compileEntry id) (compileEntry id) := by
  have made : Carries Beneath Eq (do return (← get).validator id : RegistryM Validator)
      (do return (← get).validator id) :=
    .get_bind fun r r' beneath => .pure (beneath.same.validator_eq id).symm
  refine .get_bind fun r r' beneath => ?_
  rw [beneath.same.isCompiled_eq, beneath.same.compiler_eq]
  cases r.isCompiled id with
  | true => exact made
  | false =>
    obtain ⟨⟨builtin, defined, strict, lenient⟩, same⟩ := beneath
    have compiled (ok : (r.compiler.compile id r.store).1 = .ok ()) :=
      Compiler.compile_carries builtin defined lenient strict r'.options.extendRefs same.store ok
    show Carries Beneath Eq (do
        updateStore fun _ => (r.compiler.compile id r.store).2.1
        trace (r.compiler.compile id r.store).2.2
        lift (r.compiler.compile id r.store).1
        return (← get).validator id : RegistryM Validator) (do
        updateStore fun _ => ((r.compiler.extending r'.options.extendRefs).compile id r'.store).2.1
        trace _
        lift ((r.compiler.extending r'.options.extendRefs).compile id r'.store).1
        return (← get).validator id)
    cases outcome : (r.compiler.compile id r.store).1 with
    | error e => rintro s s' a t - ⟨⟩
    | ok done =>
      obtain ⟨outcome', stores⟩ := compiled outcome
      rw [outcome']
      exact .bindEq (updateStore_carries fun _ _ _ => stores) fun _ =>
        .bindEq (trace_carries _ _) fun _ => .bindEq (lift_carries _) fun _ => made

theorem apply_carries (v : Validator) (data : Value) :
    Carries Beneath (fun found found' => found = [] ↔ found' = []) (apply v data) (apply v data) :=
  .get_bind fun _ _ beneath => .bindEq (trace_carries _ _) fun _ =>
    .pure (beneath.same.validate_iff v data)

theorem record_carries {found found' : Violations} (same : found = [] ↔ found' = []) :
    Carries Beneath Eq (record found) (record found') := by
  refine .bindEq (notes_carries (fun r => ⟨_, r.events, rfl⟩) fun r => ⟨_, r.events, rfl⟩) fun _ =>
    .pure ?_
  rw [Bool.eq_iff_iff, List.isEmpty_iff, List.isEmpty_iff, same]

theorem validateAgainst_carries (metaSchema : EntryId) (document : Value) (refuse : Bool) :
    Carries Beneath Eq (validateAgainst metaSchema document refuse)
      (validateAgainst metaSchema document refuse) := by
  refine (compileEntry_carries metaSchema).bindEq fun v => (apply_carries v document).bind
    fun found found' same => (record_carries same).bindEq fun passed => ?_
  cases passed with
  | true => exact .pure rfl
  | false =>
    refine .get_bind fun r r' beneath => ?_
    rw [beneath.same.validateSchema_eq]
    cases refuse && decide (r.options.validateSchema ≠ .log) with
    | true => exact .throw_bind _ _
    | false => exact .pure rfl

theorem missingMeta_carries (name : String) (refuse : Bool) :
    Carries Beneath Eq (missingMeta name refuse) (missingMeta name refuse) := by
  refine .get_bind fun r r' beneath => ?_
  rw [beneath.same.missingMeta_eq]
  cases r.options.missingMeta with
  | permissive => exact .pure rfl
  | strict =>
    refine .bindEq (record_carries .rfl) fun _ => ?_
    cases refuse with
    | true => exact .throw_bind _ _
    | false => exact .pure rfl

theorem validateSchema_carries (document : Value) (refuse : Bool) :
    Carries Beneath Eq (validateSchema document refuse) (validateSchema document refuse) := by
  refine .get_bind fun r r' beneath => ?_
  simp only [beneath.same.metaDefault_eq, beneath.same.defaultMeta, beneath.same.store.lookup_eq]
  split
  · exact validateAgainst_carries _ document refuse
  · exact missingMeta_carries _ refuse

/-! ## Taking documents in -/

theorem checkOwn_carries (entry : EntryId) (document : Value) (own : Bool) :
    Carries Beneath Eq (checkOwn entry document own) (checkOwn entry document own) := by
  cases own with
  | false => exact .pure rfl
  | true =>
    exact .bindEq (orElseUndo_carries (validateAgainst_carries _ _ _) _ _) fun _ => .pure rfl

/-- A document gets the same place in both stores. -/
theorem placeEntry_carries (vocabulary : VocabularyTable) (document : Value) (key : CacheKey)
    (id : String) (isMeta named own : Bool) :
    Carries Beneath Eq (placeEntry vocabulary document key id isMeta named own)
      (placeEntry vocabulary document key id isMeta named own) := by
  refine .bindEq (lift_carries _) fun index => .get_bind fun r r' beneath => ?_
  dsimp only
  rw [beneath.same.store.size]
  exact .bindEq (updateStore_carries fun _ _ _ => beneath.same.store.insertDocument _ key named)
    fun _ => checkOwn_carries _ document own

theorem insertEntry_carries (document : Document) (key : CacheKey) (id : String)
    (isMeta validate register : Bool) :
    Carries Beneath Eq (insertEntry document key id isMeta validate register)
      (insertEntry document key id isMeta validate register) := by
  refine .get_bind fun r r' beneath => ?_
  rw [beneath.same.store.isTaken_eq, beneath.same.validateSchema_eq, beneath.same.vocabulary]
  refine .ite (.throw_bind _ _) ?_
  refine .ite ((validateSchema_carries document.value true).bindEq fun _ => ?_) ?_
  all_goals exact placeEntry_carries r.vocabulary document.value key id isMeta _ _

/-- A document that is taken in but not as a meta-schema. -/
theorem addEntry_carries (document : Document) (id : String) (validate register : Bool) :
    Carries Beneath Eq (addEntry document id false validate register)
      (addEntry document id false validate register) := by
  refine .get_bind fun r r' beneath => ?_
  have known (key : CacheKey) : Option.Rel (fun a b : EntryId × Entry => a.1 = b.1)
      ((r.store.cache.find? key).bind fun entry => (r.store.entry? entry).map (entry, ·))
      ((r'.store.cache.find? key).bind fun entry => (r'.store.entry? entry).map (entry, ·)) := by
    rw [beneath.same.store.cache]
    cases r'.store.cache.find? key with
    | none => exact .none
    | some entry =>
      rcases option_rel_cases (beneath.same.store.entries entry) with
        ⟨none, none'⟩ | ⟨e, e', found, found', -⟩
      · rw [Option.bind_some, Option.bind_some, none, none']
        exact .none
      · rw [Option.bind_some, Option.bind_some, found, found']
        exact .some rfl
  rw [beneath.same.serialize_eq]
  rcases option_rel_cases (known (r.options.serialize.key document)) with
    ⟨none, none'⟩ | ⟨⟨entry, e⟩, ⟨_, e'⟩, found, found', rfl⟩
  · simp only [none, none']
    exact insertEntry_carries document _ id false validate register
  · simp only [found, found']
    exact .pure rfl

/-! ## Compiling -/

/-- A document that compiles where siblings are forbidden compiles under any other choice, to the
    same validator. -/
theorem compile_carries (document : Document) :
    Carries Beneath Eq (compile document) (compile document) := by
  refine .bindEq (lift_carries _) fun id => .get_bind fun r r' beneath => ?_
  rw [beneath.same.addUsedSchema_eq]
  exact (addEntry_carries document id true r.options.addUsedSchema).bindEq fun entry =>
    orElseUndo_carries (compileEntry_carries entry) _ _

/-- After any operations, a keyword that is applied is the one of its name. -/
theorem get?_of_ordered (options : Options) (operations : List Operation) {keyword : Keyword}
    (mem : keyword ∈ ((create options).run operations).vocabulary.ordered) :
    ((create options).run operations).vocabulary.get? keyword.name = some keyword := by
  have tidy := run_checks options operations
  have defined := tidy.ordered keyword mem
  cases found : ((create options).run operations).vocabulary.get? keyword.name with
  | none => exact absurd (List.find?_eq_none.1 found keyword defined) (by simp)
  | some other =>
    have name : other.name = keyword.name := by simpa using List.find?_some found
    rw [List.inj_on_of_nodup_map tidy.distinct (List.mem_of_find?_eq_some found) defined name]

/-- The keywords beside references are an option that may only refuse. After any operations, as long
    as only built-in keywords are defined and unknown ones are not refused: a document that compiles
    where keywords beside references are forbidden compiles in any registry of the same contents where
    they are ignored or applied. The validators accept the same data, whether deferred tests are waited
    for or not. -/
theorem run_siblings_agree (options : Options) (operations : List Operation)
    (builtin : ∀ keyword ∈ ((create options).run operations).vocabulary.ordered,
      keyword ∈ Draft07.keywords)
    (strict : options.extendRefs = .fail) (lenient : options.unknownKeywords ≠ .fail)
    (document : Document) :
    let r := (create options).run operations
    (compile document).Returns r fun v s => ∀ r', r.SameContents r' →
      ∃ s', compile document r' = .ok v s' ∧ s.SameContents s' ∧ ∀ data,
        ((v.validate s.store.slots data).violations = [] ↔
          (v.validate s'.store.slots data).violations = []) ∧
        ((v.resolve s.store.slots data).violations = [] ↔
          (v.resolve s'.store.slots data).violations = []) := by
  intro r
  have options_eq : r.options = options := (reached_steps options operations).1
  have isStrict : r.IsStrict :=
    ⟨isBuiltin_run options operations builtin, fun _ => get?_of_ordered options operations,
      options_eq ▸ strict, options_eq ▸ lenient⟩
  refine .intro fun v s ok r' same => ?_
  obtain ⟨v', s', ok', rfl, beneath⟩ := compile_carries document r r' v s ⟨isStrict, same⟩ ok
  exact ⟨s', ok', beneath.same, fun data =>
    ⟨beneath.same.validate_iff v data, beneath.same.resolve_iff v data⟩⟩

/-- A document with a reference to a part of itself, and nothing beside it. -/
def selfReferring : Document where
  value := .object [
    ("properties", .object [("next", .object [("$ref", .string "#")])]),
    ("required", .array [.string "name"])]
  identity := .given 0

/-- Nothing is known at first, and a choice is made about keywords beside references. -/
def choosing (mode : ReferenceSiblings) : Options := unassuming.extending mode

/-- Without a meta-schema, registries have the same contents under any choice when they are created. -/
theorem create_sameContents {options : Options} (bare : options.installMeta = false)
    (mode : ReferenceSiblings) :
    (create options).SameContents (create (options.extending mode)) := by
  have blank_ : (blank options).SameContents (blank (options.extending mode)) := by
    unfold blank
    rw [show (options.extending mode).overwriteKeywords = options.overwriteKeywords from rfl]
    generalize VocabularyTable.draft07 options.overwriteKeywords = vocabulary
    exact ⟨rfl, rfl, rfl, rfl, .refl _⟩
  have bare' : (options.extending mode).installMeta = false := bare
  rw [create_eq, create_eq, if_neg (bare ▸ Bool.false_ne_true), if_neg (bare' ▸ Bool.false_ne_true)]
  exact blank_

theorem compiles_selfReferring : ∃ v s, compile selfReferring ((create (choosing .fail)).run []) = .ok v s :=
  RegistryM.exists_ok_of_run' (by decide +kernel)

/-- A document that refers to itself compiles under each choice, and its validators accept the same
    data. -/
theorem run_siblings_agree_selfReferring :
    ∃ v s, compile selfReferring (create (choosing .fail)) = .ok v s ∧
      (∃ s', compile selfReferring (create (choosing .ignore)) = .ok v s' ∧ ∀ data,
        (v.validate s.store.slots data).violations = [] ↔
          (v.validate s'.store.slots data).violations = []) ∧
      ∃ s', compile selfReferring (create (choosing .apply)) = .ok v s' ∧ ∀ data,
        (v.validate s.store.slots data).violations = [] ↔
          (v.validate s'.store.slots data).violations = [] := by
  obtain ⟨v, s, compiled⟩ := compiles_selfReferring
  have agree := (run_siblings_agree (choosing .fail) []
    (ordered_run _ [] fun _ mem => nomatch mem) rfl (by decide) selfReferring).of_ok compiled
  have bare : (choosing .fail).installMeta = false := rfl
  have contents (mode : ReferenceSiblings) :
      (create (choosing .fail)).SameContents (create (choosing mode)) := create_sameContents bare mode
  obtain ⟨s₁, compiled₁, -, same₁⟩ := agree _ (contents .ignore)
  obtain ⟨s₂, compiled₂, -, same₂⟩ := agree _ (contents .apply)
  exact ⟨v, s, compiled, ⟨s₁, compiled₁, fun data => (same₁ data).1⟩, s₂, compiled₂,
    fun data => (same₂ data).1⟩

end Registry

end JsonSchema
