import JsonSchema.Proofs.Registry.Loading
import Mathlib.Data.List.Nodup

/-!
# Reachable registries

What holds of a registry after any operations, in any order, the failing ones included.

* `Operation`: everything a user of a registry can ask for.
* `Operation.after_good`, `Registry.run_good`: one operation, and a run of operations.
* `Registry.run_represented`: the tables, the entries and the compiled schemas of a store that
  was reached agree, and no place is given out twice.
-/

namespace JsonSchema

/-! ## Operations -/

/-- An operation that a user of a registry can ask for. -/
inductive Operation : Type 1 where
  | add (document : Document) (options : Registry.AddOptions)
  | addAll (documents : List Document)
  | compile (document : Document)
  /-- A compilation that loads what it lacks. -/
  | compileWith {σ : Type} (loader : Loader σ) (source : σ) (fetcher : Fetcher)
      (document : Document) (rounds : Nat)
  | get (name : String)
  | check (document : Value) (refuse : Bool)
  | validate (name : String) (data : Value)
  | validateValue (document : Document) (data : Value)
  | remove (target : RemoveTarget)
  | addKeyword (keyword : Keyword)
  | addVocabulary (vocabulary : Vocabulary)
  | removeKeyword (name : String)
  | removeVocabulary (name : String)
  | addFormat (name : String) (format : Format)

namespace Operation

/-- What an operation leaves, whatever its outcome. -/
def after (operation : Operation) (r : Registry) : Registry :=
  match operation with
  | add document options => (Registry.addSchemaWith document options).after r
  | addAll documents => (Registry.addSchemas documents).after r
  | compile document => (Registry.compile document).after r
  | compileWith loader source fetcher document rounds =>
    ((Loading.compile loader document rounds).after { registry := r, fetcher, source }).registry
  | get name => (Registry.getSchema name).after r
  | check document refuse => (Registry.validateSchema document refuse).after r
  | validate name data => (Registry.validate name data).after r
  | validateValue document data => (Registry.validateValue document data).after r
  | remove target => (Registry.removeSchema target).after r
  | addKeyword keyword => (Registry.addKeyword keyword).after r
  | addVocabulary vocabulary => (Registry.addVocabulary vocabulary).after r
  | removeKeyword name => (Registry.removeKeyword name).after r
  | removeVocabulary name => (Registry.removeVocabulary name).after r
  | addFormat name format => (Registry.addFormat name format).after r

/-- Whether an operation defines or removes keywords. -/
def redefines : Operation → Bool
  | addKeyword _ | addVocabulary _ | removeKeyword _ | removeVocabulary _ => true
  | _ => false

/-- What compilations may read after an operation, where this is not what they read before. -/
def Leaves (operation : Operation) (r : Registry) (compiler : Compiler) : Prop :=
  match operation with
  | addFormat name format =>
    compiler = { r.compiler with formats := FormatTable.insert r.formats name format }
  | operation => operation.redefines = true

end Operation

/-- A registry after operations, in their order. -/
def Registry.run (r : Registry) (operations : List Operation) : Registry :=
  operations.foldl (fun r operation => operation.after r) r

/-! ## One operation -/

section Step

variable {K : EntryId → Compiler → Prop} {r : Registry}

/-- An operation leaves a good registry and gives no place out twice. Where it changes
    keywords or formats, the compiler that is there afterwards has to be one of those that
    may be used. -/
theorem Operation.after_good (good : r.Good K) (operation : Operation)
    (any : ∀ compiler, operation.Leaves r compiler → ∀ id, K id compiler) :
    (operation.after r).Good K ∧ r.store.Succeeds (operation.after r).store := by
  cases operation with
  | add document options => exact (Registry.addSchemaWith_ensures good document options).after
  | addAll documents => exact (Registry.addSchemas_ensures good documents).after
  | compile document => exact (Registry.compile_ensures good document).after
  | compileWith loader source fetcher document rounds =>
    exact Loading.compile_keeps loader document rounds { registry := r, fetcher, source } good
  | get name => exact (Registry.getSchema_ensures good name).after
  | check document refuse => exact (Registry.validateSchema_ensures good document refuse).after
  | validate name data => exact (Registry.validate_ensures good name data).after
  | validateValue document data => exact (Registry.validateValue_ensures good document data).after
  | remove target => exact (Registry.removeSchema_ensures good target).after
  | addKeyword keyword => exact (Registry.addKeyword_ensures (any · rfl) good keyword).after
  | addVocabulary vocabulary =>
    exact (Registry.addVocabulary_ensures (any · rfl) good vocabulary).after
  | removeKeyword name => exact (Registry.removeKeyword_ensures (any · rfl) good name).after
  | removeVocabulary name => exact (Registry.removeVocabulary_ensures (any · rfl) good name).after
  | addFormat name format =>
    exact (Registry.addFormat_ensures good name format (any _ rfl)).after

end Step

/-! ## Runs -/

namespace Store

/-- Nothing is wrong with the store that holds nothing. -/
theorem settled_empty (K : EntryId → Compiler → Prop) : ({} : Store).Settled K where
  linked :=
    { schemasKeyed := Bindings.keyed_nil, refsKeyed := Bindings.keyed_nil
      fragmentsKeyed := Bindings.keyed_nil, cacheKeyed := Bindings.keyed_nil
      schemas := fun _ h => (List.not_mem_nil h).elim
      refs := fun _ h => (List.not_mem_nil h).elim
      cached := fun _ h => (List.not_mem_nil h).elim
      fragments := fun _ h => (List.not_mem_nil h).elim
      agree := fun _ _ _ h => (nomatch h)
      document := fun _ _ h => (nomatch h)
      fragment := fun _ _ h => (nomatch h) }
  uniform _ _ _ h := by cases h
  current _ _ h := by cases h
  holds _ _ _ _ h := by cases h
  leads _ _ _ _ h := by cases h
  admits _ _ _ _ h := by cases h
  idle _ _ h := by cases h

end Store

namespace Registry

variable {K : EntryId → Compiler → Prop}

/-- A registry with the built-in keywords and formats, and nothing else. -/
def blank (options : Options) : Registry :=
  { options, vocabulary := VocabularyTable.draft07 options.overwriteKeywords }

theorem create_eq (options : Options) :
    create options =
      if options.installMeta then installMeta.after (blank options) else blank options := by
  rw [RegistryM.after_eq]
  unfold create blank
  by_cases install : options.installMeta = true
  · rw [if_pos install, if_pos install]
    generalize EStateM.run installMeta _ = result
    cases result with
    | ok _ r => rfl
    | error _ r => rfl
  · rw [if_neg install, if_neg install]

/-- A registry that was just created is good. -/
theorem create_good (options : Options) (k : ∀ id, K id (blank options).compiler) :
    (create options).Good K := by
  have start : Good K (blank options) := ⟨Store.settled_empty K, k⟩
  rw [create_eq]
  split
  · exact (installMeta_ensures start).after.1
  · exact start

/-- A registry that was just created compiles with the built-in keywords and formats. -/
theorem compiler_create (options : Options) : (create options).compiler = (blank options).compiler :=
  (create_good (K := fun _ => (· = (blank options).compiler)) options fun _ => rfl).now

theorem run_good {r : Registry} (good : r.Good K) (operations : List Operation)
    (any : ∀ compiler id, K id compiler) :
    (r.run operations).Good K ∧ r.store.Succeeds (r.run operations).store := by
  induction operations generalizing r with
  | nil => exact ⟨good, .refl _⟩
  | cons operation rest ih =>
    obtain ⟨good', succeeds⟩ := operation.after_good good fun compiler _ => any compiler
    obtain ⟨good'', succeeds'⟩ := ih good'
    exact ⟨good'', succeeds.trans succeeds'⟩

/-- A registry that was reached by any operations at all. -/
theorem reached_good (options : Options) (operations : List Operation) :
    ((create options).run operations).Good fun _ _ => True :=
  (run_good (create_good options fun _ => trivial) operations fun _ _ => trivial).1

end Registry

/-! ## Representation -/

/-- A compiled schema is what the compilation of the document of an entry gave. -/
def Entry.Compiles (e : Entry) (id : EntryId) (node : Node) : Prop :=
  ∃ (compiler : Compiler) (fuel : Nat) (underMeta : Bool) (c c' : Compilation),
    compiler.schema fuel e.document (e.place id underMeta) c = .ok node c'

namespace Store

/-- Whether an entry is there and is no fragment. -/
def holdsDocument (s : Store) (id : EntryId) : Bool :=
  ((s.entry? id).map fun e => !e.isFragment).getD false

/-- How the tables, the entries and the compiled schemas of a store represent documents. -/
structure Represents (s : Store) : Prop where
  schemas : ∀ b ∈ s.schemas, s.isLive b.2 = true
  refs : ∀ b ∈ s.refs, s.isLive b.2 = true
  fragments : ∀ b ∈ s.fragments, s.isLive b.2 = true
  cache : ∀ b ∈ s.cache, s.isLive b.2 = true
  /-- A document belongs to itself, and is found under its cache key. -/
  document : ∀ id e, s.entry? id = some e → e.isFragment = false →
    e.root = id ∧ ∃ key, e.cacheKey = some key ∧ s.cache.find? key = some id
  /-- No two documents share a cache key. -/
  unique : ∀ id id' e e', s.entry? id = some e → s.entry? id' = some e' →
    e.isFragment = false → e'.isFragment = false → e.cacheKey = e'.cacheKey → id = id'
  /-- The cache holds as many documents as there are. -/
  count : s.cache.length = (s.live.filter s.holdsDocument).length
  /-- A fragment belongs to a document, is found there by its pointer, and is a meta-schema if
      the document is. -/
  fragment : ∀ id e, s.entry? id = some e → e.isFragment = true →
    ∃ d, s.entry? e.root = some d ∧ d.isFragment = false ∧
      s.fragments.find? (e.root, e.pointer) = some id ∧ e.isMeta = d.isMeta
  /-- No text is the name of one document and the identifier of another. -/
  agree : ∀ name a b, s.schemas.find? name = some a → s.refs.find? name = some b → a = b
  /-- A compiled schema was compiled from the document at its place. -/
  slots : ∀ id node, s.slots id = some node → ∃ e, s.entry? id = some e ∧ e.Compiles id node

variable {s : Store}

theorem isFragment_eq_false_iff {e : Entry} : e.isFragment = false ↔ e.pointer = "" := by
  rw [Entry.isFragment, Bool.not_eq_false', String.isEmpty_iff]

theorem isFragment_eq_true_iff {e : Entry} : e.isFragment = true ↔ e.pointer ≠ "" := by
  rw [← Bool.not_eq_false, isFragment_eq_false_iff]

/-- Cache keys and documents correspond to each other. -/
theorem Linked.length_cache (linked : s.Linked) :
    s.cache.length = (s.live.filter s.holdsDocument).length := by
  have once : (s.cache.map (·.2)).Nodup := by
    refine List.Nodup.map_on ?_ (List.Nodup.of_map _ linked.cacheKeyed)
    intro a ha b hb same
    obtain ⟨e, found, -, key⟩ := linked.cached a ha
    obtain ⟨e', found', -, key'⟩ := linked.cached b hb
    rw [same, found'] at found
    cases found
    rw [key] at key'
    exact Prod.ext (Option.some.inj key') same
  have members : ∀ id, id ∈ s.cache.map (·.2) ↔ id ∈ s.live.filter s.holdsDocument := by
    intro id
    rw [List.mem_filter, mem_live, List.mem_map]
    constructor
    · rintro ⟨b, mem, rfl⟩
      obtain ⟨e, found, doc, -⟩ := linked.cached b mem
      refine ⟨⟨e, found⟩, ?_⟩
      rw [holdsDocument, found, Option.map_some, Option.getD_some, isFragment_eq_false_iff.2 doc]
      rfl
    · rintro ⟨⟨e, found⟩, holds⟩
      rw [holdsDocument, found, Option.map_some, Option.getD_some, Bool.not_eq_true'] at holds
      obtain ⟨-, key, -, cached⟩ := linked.document id e found (isFragment_eq_false_iff.1 holds)
      exact ⟨(key, id), Bindings.mem_of_find? cached, rfl⟩
  rw [← List.length_map (·.2)]
  exact ((List.perm_ext_iff_of_nodup once (List.Nodup.sublist List.filter_sublist s.nodup_live)).2
    members).length_eq

theorem done_of_slots {id : EntryId} {node : Node} (h : s.slots id = some node) :
    ∃ e refs, s.entry? id = some e ∧ e.progress = .done node refs := by
  obtain ⟨e, found, hn⟩ := Option.bind_eq_some_iff.1 h
  cases hp : e.progress <;> rw [hp] at hn <;> cases hn
  exact ⟨e, _, found, hp⟩

/-- A settled store represents documents. -/
theorem Settled.represents {K : EntryId → Compiler → Prop} (settled : s.Settled K) : s.Represents := by
  have linked := settled.linked
  have document : ∀ id e, s.entry? id = some e → e.isFragment = false →
      e.root = id ∧ ∃ key, e.cacheKey = some key ∧ s.cache.find? key = some id :=
    fun id e found doc => linked.document id e found (isFragment_eq_false_iff.1 doc)
  refine
    { schemas := fun b mem => ?_, refs := fun b mem => ?_, fragments := fun b mem => ?_
      cache := fun b mem => ?_, document := document, unique := ?_, count := linked.length_cache
      fragment := ?_, agree := linked.agree, slots := ?_ }
  · obtain ⟨e, found, -⟩ := linked.schemas b mem
    exact isLive_of_entry found
  · obtain ⟨e, found, -⟩ := linked.refs b mem
    exact isLive_of_entry found
  · obtain ⟨e, found, -⟩ := linked.fragments b mem
    exact isLive_of_entry found
  · obtain ⟨e, found, -⟩ := linked.cached b mem
    exact isLive_of_entry found
  · intro id id' e e' found found' doc doc' same
    obtain ⟨-, key, hk, cached⟩ := document id e found doc
    obtain ⟨-, key', hk', cached'⟩ := document id' e' found' doc'
    rw [hk, hk'] at same
    cases same
    rw [cached] at cached'
    exact Option.some.inj cached'
  · intro id e found part
    obtain ⟨-, bound, d, foundD, docD, -⟩ :=
      linked.fragment id e found (isFragment_eq_true_iff.1 part)
    exact ⟨d, foundD, isFragment_eq_false_iff.2 docD, bound,
      settled.uniform id e d found foundD⟩
  · intro id node slot
    obtain ⟨e, refs, found, done⟩ := done_of_slots slot
    obtain ⟨compiler, fuel, underMeta, -, ⟨c, c', run⟩, -⟩ :=
      settled.holds id e node refs found done
    exact ⟨e, found, compiler, fuel, underMeta, c, c', run⟩

end Store

/-- After any operations the store represents documents, and whatever follows gives no place
    out twice. -/
theorem Registry.run_represented (options : Options) (operations more : List Operation) :
    ((create options).run operations).store.Represents ∧
      ((create options).run operations).store.Succeeds
        (((create options).run operations).run more).store := by
  have good := reached_good options operations
  exact ⟨good.settled.represents, (run_good good more fun _ _ => trivial).2⟩

end JsonSchema
