import JsonSchema.Proofs.Awaiting.Registries
import JsonSchema.Proofs.Compilation.Visits
import JsonSchema.Proofs.Registry.Steps
import JsonSchema.Proofs.Registry.Tables
import JsonSchema.Proofs.Registry.Transactions

/-!
# How often the keywords of a document are compiled

A registry that compiles a document compiles other entries before it, those of meta-schemas. In all
of that it comes to no keyword of an entry twice, and to none of an entry that was compiled before. It
comes to nothing when the document is compiled again.

* `VocabularyTable.isParted`: tables of built-in keywords and of keywords that compile no schemas.
* `RegistryM.Visits`: an operation comes to keywords of the entries that it begins only, and to none of
  them twice.
* `Registry.run_compiles_once`: the compilation of a document after any operations, and any later one.
-/

namespace JsonSchema

/-! ## Tables of keywords -/

/-- Whether a keyword compiles no schemas, or what is inside its own value, or is `if` and compiles its
    siblings. -/
def Keyword.keepsApart (keyword : Keyword) : Bool :=
  keyword.behavior.isFlat || match keyword.behavior with
    | .builtin (.applies .conditional) => keyword.name == "if"
    | .builtin (.applies _) => !(["if", "then", "else"].contains keyword.name)
    | _ => false

namespace Keyword

variable {keyword other : Keyword}

theorem compiled_of_isFlat (flat : keyword.behavior.isFlat = true) : keyword.compiled = [] := by
  unfold compiled
  split
  · next behavior =>
    rw [behavior] at flat
    cases flat
  · next behavior =>
    rw [behavior] at flat
    cases flat
  · rfl

theorem isOrderly_of_keepsApart (apart : keyword.keepsApart = true) : keyword.IsOrderly := by
  rcases Bool.or_eq_true .. ▸ apart with flat | applies
  · exact .inl flat
  · right
    split at applies
    · next behavior => exact ⟨_, behavior, fun _ => beq_iff_eq.1 applies⟩
    · next applicator other behavior => exact ⟨applicator, behavior, fun same => absurd same other⟩
    · cases applies

theorem compiled_of_keepsApart (apart : keyword.keepsApart = true) : keyword.compiled = [] ∨
    keyword.name ∉ ["if", "then", "else"] ∧ keyword.compiled = [keyword.name] ∨
    keyword.name = "if" ∧ keyword.compiled = ["if", "then", "else"] := by
  rcases Bool.or_eq_true .. ▸ apart with flat | applies
  · exact .inl (compiled_of_isFlat flat)
  · right
    unfold compiled
    split at applies
    · next behavior =>
      obtain name := beq_iff_eq.1 applies
      exact .inr ⟨name, by simp only [behavior, name]⟩
    · next applicator other behavior =>
      refine .inl ⟨by simpa using applies, ?_⟩
      simp only [behavior]
    · cases applies

/-- Keywords of different names compile what is inside different members of a schema. -/
theorem parted_of_keepsApart (apart : keyword.keepsApart = true) (apart' : other.keepsApart = true)
    (ne : keyword.name ≠ other.name) : ∀ name ∈ keyword.compiled, name ∉ other.compiled := by
  intro name mem mem'
  rcases compiled_of_keepsApart apart with none_ | ⟨alone, own⟩ | ⟨if_, all_⟩
  · rw [none_] at mem
    cases mem
  · rw [own, List.mem_singleton] at mem
    subst mem
    rcases compiled_of_keepsApart apart' with none_ | ⟨-, own'⟩ | ⟨-, all_'⟩
    · rw [none_] at mem'
      cases mem'
    · rw [own', List.mem_singleton] at mem'
      exact ne mem'
    · exact alone (all_' ▸ mem')
  · rw [all_] at mem
    rcases compiled_of_keepsApart apart' with none_ | ⟨alone', own'⟩ | ⟨if_', -⟩
    · rw [none_] at mem'
      cases mem'
    · rw [own', List.mem_singleton] at mem'
      exact alone' (mem' ▸ mem)
    · exact ne (if_.trans if_'.symm)

end Keyword

theorem Draft07.keepsApart (keyword : Keyword) (mem : keyword ∈ Draft07.keywords) :
    keyword.keepsApart = true := by
  have all_ : (Draft07.keywords.all Keyword.keepsApart) = true := by decide
  exact List.all_eq_true.1 all_ keyword mem

/-- Built-in keywords, and keywords of one's own that compile no schemas. -/
theorem VocabularyTable.isParted {table : VocabularyTable}
    (distinct : (table.ordered.map (·.name)).Nodup)
    (known : ∀ keyword ∈ table.ordered, keyword ∈ Draft07.keywords ∨ keyword.behavior.isFlat = true) :
    table.IsParted := by
  have apart (keyword : Keyword) (mem : keyword ∈ table.ordered) : keyword.keepsApart = true :=
    (known keyword mem).elim (Draft07.keepsApart keyword) fun flat => by
      rw [Keyword.keepsApart, flat, Bool.true_or]
  exact ⟨distinct, fun keyword mem => Keyword.isOrderly_of_keepsApart (apart keyword mem),
    fun keyword mem other mem' => Keyword.parted_of_keepsApart (apart keyword mem) (apart other mem')⟩

theorem VocabularyTable.mem_keywords_of_define {table : VocabularyTable} {keyword k : Keyword}
    (mem : k ∈ (table.define keyword).keywords) : k ∈ table.keywords ∨ k = keyword := by
  rw [define, addKeyword] at mem
  cases staged : table.stage keyword none with
  | error e =>
    rw [staged] at mem
    exact .inl mem
  | ok next =>
    rw [staged] at mem
    change k ∈ (next.reorder.toOption.getD table).keywords at mem
    cases ordered : next.reorder with
    | error e =>
      rw [ordered] at mem
      exact .inl mem
    | ok last =>
      rw [ordered] at mem
      obtain rfl := reorder_ok ordered
      exact ((mem_keywords_of_stage staged).1 mem).imp_left And.left

/-- The keywords of a registry that was created and given some keywords, beside the built-in ones. -/
theorem Registry.mem_keywords_of_definitions (options : Options) {keywords : List Keyword}
    (plain : ∀ keyword ∈ keywords, keyword.valueSchema = none) {k : Keyword}
    (mem : k ∈ ((create options).run (Operation.definitions [] keywords)).vocabulary.keywords) :
    k ∈ Draft07.keywords ∨ k ∈ keywords := by
  have table : (create options).vocabulary = VocabularyTable.draft07 options.overwriteKeywords := by
    have same := congrArg Compiler.vocabulary (compiler_create options)
    simpa only [compiler, blank] using same
  rw [run_definitions [] keywords plain, table] at mem
  clear plain
  induction keywords using List.reverseRecOn with
  | nil =>
    simp only [List.foldl_nil, VocabularyTable.keywords_draft07] at mem
    exact .inl mem
  | append_singleton keywords keyword ih =>
    simp only [List.foldl_append, List.foldl_cons, List.foldl_nil] at mem
    rcases VocabularyTable.mem_keywords_of_define mem with old | rfl
    · exact (ih old).imp_right (List.mem_append_left _)
    · exact .inr (List.mem_append_right _ List.mem_cons_self)

/-! ## Parts of operations -/

/-- Compiles an entry, and says something before and after every keyword. -/
def Transaction.saying (marks : Occurrence → List Event) : Transaction := fun compiler =>
  compiler.watchedCompile (Compiler.saying marks)

/-- Keywords compile what is inside different members of a schema, and no object in a document has two
    members of one name. -/
structure Registry.IsPlain (r : Registry) : Prop where
  parted : r.vocabulary.IsParted
  sorted : r.store.Sorted

namespace RegistryM

open Registry (IsPlain)

variable {α β : Type}

/-- An operation that succeeded. There are some keywords that it came to, each in an entry that was
    begun, and no two at one position. If something is said before and after every keyword, it succeeds
    in the same way, and what is said besides is what is said of these keywords. -/
structure Visited (watched : (Occurrence → List Event) → RegistryM α) (r : Registry) (a : α)
    (r' : Registry) : Prop where
  continues : r.store.Continues r'.store
  plain : r'.IsPlain
  visits : ∃ (visits : List Occurrence) (added : List Event), (visits.map Occurrence.position).Nodup ∧
    (∀ o ∈ visits, r.store.Begins r'.store o) ∧ r'.events = r.events ++ added ∧
    ∀ marks events, ∃ new, new.Perm (added ++ visits.flatMap fun o => marks o ++ marks o) ∧
      watched marks { r with events } = .ok a { r' with events := events ++ new }

/-- Whenever the operation succeeds, it comes to no keyword twice. -/
def Visits (m : RegistryM α) (watched : (Occurrence → List Event) → RegistryM α) : Prop :=
  ∀ r a r', r.IsPlain → m r = .ok a r' → Visited watched r a r'

namespace Visits

variable {m : RegistryM α} {w : (Occurrence → List Event) → RegistryM α}

/-- A step that comes to nothing, and that does not look at the trace. -/
theorem of_still (still : ∀ r a r', r.IsPlain → m r = .ok a r' →
    r.store.Continues r'.store ∧ r'.IsPlain ∧ ∃ added, r'.events = r.events ++ added ∧
      ∀ events, m { r with events } = .ok a { r' with events := events ++ added }) :
    Visits m fun _ => m := by
  intro r a r' plain ran
  obtain ⟨continues, plain', added, said, again⟩ := still r a r' plain ran
  refine ⟨continues, plain', [], added, List.nodup_nil, ?_, said, fun marks events => ?_⟩
  · exact fun o mem => absurd mem List.not_mem_nil
  · exact ⟨added, by rw [List.flatMap_nil, List.append_nil], again events⟩

theorem pure (a : α) : Visits (Pure.pure a : RegistryM α) fun _ => Pure.pure a :=
  of_still fun r b r' plain ran => by
    cases ran
    exact ⟨.refl _, plain, [], (List.append_nil _).symm, fun events => by rw [List.append_nil]; rfl⟩

theorem throw (e : SchemaError) :
    Visits (MonadExcept.throw e : RegistryM α) fun _ => MonadExcept.throw e :=
  of_still fun r a r' _ ran => by cases ran

theorem throw_bind (e : SchemaError) {f : α → RegistryM β}
    {g : (Occurrence → List Event) → α → RegistryM β} :
    Visits (MonadExcept.throw e >>= f) fun marks => MonadExcept.throw e >>= g marks :=
  fun r a r' _ ran => by cases ran

/-- A change that is the same whatever was said before. -/
theorem modify {change : Registry → Registry} (added : List Event)
    (continues : ∀ r : Registry, r.store.Continues (change r).store)
    (plain : ∀ r : Registry, r.IsPlain → (change r).IsPlain)
    (blind : ∀ r events, change { r with events } = { change r with events := events ++ added }) :
    Visits (modify change : RegistryM PUnit) fun _ => modify change :=
  of_still fun r a r' isPlain ran => by
    cases ran
    refine ⟨continues r, plain r isPlain, added, ?_, fun events => ?_⟩
    · exact congrArg Registry.events (blind r r.events)
    · show EStateM.Result.ok _ (change { r with events }) = _
      rw [blind]

theorem trace (events : List Event) :
    Visits (Registry.trace events) fun _ => Registry.trace events :=
  modify events (fun _ => .refl _) (fun _ plain => ⟨plain.parted, plain.sorted⟩) fun _ _ => rfl

/-- A step that looks at the registry, but not at the trace. -/
theorem get_bind {f : Registry → RegistryM α} {g : (Occurrence → List Event) → Registry → RegistryM α}
    (blind : ∀ marks r events, g marks { r with events } = g marks r)
    (rest : ∀ r, r.IsPlain → Visits (f r) (g · r)) :
    Visits (get >>= f) fun marks => get >>= g marks := by
  intro r a r' plain ran
  obtain ⟨continues, plain', visits, added, once, inside, said, again⟩ := rest r plain r a r' plain ran
  refine ⟨continues, plain', visits, added, once, inside, said, fun marks events => ?_⟩
  obtain ⟨new, perm, run⟩ := again marks events
  refine ⟨new, perm, ?_⟩
  show g marks { r with events } { r with events } = _
  rw [blind, run]

/-- What the second operation comes to was not begun by the first one. -/
theorem bind {f : α → RegistryM β} {g : (Occurrence → List Event) → α → RegistryM β}
    (first : Visits m w) (second : ∀ a, Visits (f a) (g · a)) :
    Visits (m >>= f) fun marks => w marks >>= g marks := by
  intro r b r'' plain ran
  cases run : m r with
  | error e r' =>
    rw [bind_error run] at ran
    cases ran
  | ok a r' =>
    rw [bind_ok run] at ran
    obtain ⟨continues, plain', visits, added, once, inside, said, again⟩ := first r a r' plain run
    obtain ⟨continues', plain'', visits', added', once', inside', said', again'⟩ :=
      second a r' b r'' plain' ran
    refine ⟨continues.trans continues', plain'', visits ++ visits', added ++ added', ?_, ?_, ?_, ?_⟩
    · refine Occurrence.nodup_append once once' fun o mem o' mem' entry => ?_
      exact absurd (entry ▸ (inside o mem).isStarted) (inside' o' mem').1
    · intro o mem
      rcases List.mem_append.1 mem with mem | mem
      · exact (inside o mem).later continues'
      · exact (inside' o mem).earlier continues
    · rw [said', said, List.append_assoc]
    · intro marks events
      obtain ⟨new, perm, run⟩ := again marks events
      obtain ⟨new', perm', run'⟩ := again' marks (events ++ new)
      refine ⟨new ++ new', perm_append_marked perm perm', ?_⟩
      rw [bind_ok run, run', List.append_assoc]

theorem lift (x : Except SchemaError α) : Visits (Registry.lift x) fun _ => Registry.lift x := by
  cases x with
  | ok a => exact pure a
  | error e => exact throw e

/-- Nothing is undone after an operation that succeeds. -/
theorem orElseUndo (first : Visits m w) (undo : RegistryM Unit) :
    Visits (Registry.orElseUndo m undo) fun marks => Registry.orElseUndo (w marks) undo := by
  have kept {m : RegistryM α} {r r' : Registry} {a : α} (run : m r = .ok a r') :
      Registry.orElseUndo m undo r = .ok a r' := by
    show EStateM.tryCatch m _ r = _
    rw [EStateM.tryCatch, run]
  intro r a r' plain ran
  have run : m r = .ok a r' := by
    cases run : m r with
    | ok b r₁ =>
      rw [kept run] at ran
      exact ran
    | error e r₁ =>
      have ran : (undo >>= fun _ => (MonadExcept.throw e : RegistryM α)) r₁ = .ok a r' := by
        rw [← ran]
        show _ = EStateM.tryCatch m _ r
        rw [EStateM.tryCatch, run]
        rfl
      cases undone : undo r₁ with
      | ok _ r₂ =>
        rw [bind_ok undone] at ran
        cases ran
      | error _ r₂ =>
        rw [bind_error undone] at ran
        cases ran
  obtain ⟨continues, plain', visits, added, once, inside, said, again⟩ := first r a r' plain run
  refine ⟨continues, plain', visits, added, once, inside, said, fun marks events => ?_⟩
  obtain ⟨new, perm, run'⟩ := again marks events
  exact ⟨new, perm, kept run'⟩

end Visits

end RegistryM

namespace Registry

open RegistryM (Visits)

/-! ## The parts of a compilation -/

/-- The compilation of an entry, unless that was done before. -/
theorem compileEntry_visits (id : EntryId) :
    Visits (compileEntry id) fun marks => compileEntryWith (.saying marks) id := by
  intro r v r' plain ran
  change compileEntryWith Compiler.compile id r = .ok v r' at ran
  by_cases compiled : r.isCompiled id = true
  · rw [compileEntryWith_of_compiled compiled] at ran
    cases ran
    refine ⟨.refl _, plain, [], [], List.nodup_nil, fun o mem => absurd mem List.not_mem_nil,
      (List.append_nil _).symm, fun marks events => ⟨[], .refl _, ?_⟩⟩
    rw [List.append_nil]
    exact compileEntryWith_of_compiled (r := { r with events }) compiled
  · have parted : r.compiler.vocabulary.IsParted := plain.parted
    have spec := @Compiler.compile_visits r.compiler parted r.store plain.sorted id
    generalize made : r.compiler.compile id r.store = result at spec
    obtain ⟨outcome, store, added⟩ := result
    rw [compileEntryWith_of_idle compiled made] at ran
    cases outcome with
    | error e => cases ran
    | ok _ =>
      cases ran
      obtain ⟨continues, sorted, visits, once, inside, again⟩ := spec rfl
      refine ⟨continues, ⟨plain.parted, sorted⟩, visits, added, once, inside, rfl,
        fun marks events => ?_⟩
      obtain ⟨new, perm, run⟩ := again marks
      have run : Transaction.saying marks r.compiler id r.store = (.ok (), store, new) := run
      exact ⟨new, perm, compileEntryWith_of_idle (r := { r with events }) compiled run⟩

theorem record_visits (violations : Violations) :
    Visits (record violations) fun _ => record violations :=
  .bind (.modify [] (fun _ => .refl _) (fun _ plain => ⟨plain.parted, plain.sorted⟩) fun _ _ => by
    rw [List.append_nil]) fun _ => .pure _

theorem validateAgainst_visits (metaSchema : EntryId) (document : Value) (refuse : Bool) :
    Visits (validateAgainst metaSchema document refuse) fun marks =>
      validateAgainstWith (.saying marks) metaSchema document refuse := by
  refine .bind (compileEntry_visits metaSchema) fun v => ?_
  refine .bind (w := fun _ => apply v document) ?_ fun violations => ?_
  · exact .get_bind (fun _ _ _ => rfl) fun r _ => .bind (.trace _) fun _ => .pure _
  refine .bind (w := fun _ => record violations) (record_visits violations) fun passed => ?_
  cases passed with
  | true => exact .pure true
  | false =>
    refine .get_bind (fun _ _ _ => rfl) fun r _ => ?_
    dsimp only
    split
    · exact .bind (.throw _) fun _ => .pure _
    · exact .pure _

theorem missingMeta_visits (metaId : String) (refuse : Bool) :
    Visits (missingMeta metaId refuse) fun _ => missingMeta metaId refuse := by
  refine .get_bind (fun _ _ _ => rfl) fun r _ => ?_
  dsimp only
  split
  · exact .pure _
  · refine .bind (record_visits _) fun _ => ?_
    cases refuse with
    | true => exact .bind (.throw _) fun _ => .pure _
    | false => exact .pure _

theorem validateSchema_visits (document : Value) (refuse : Bool) :
    Visits (validateSchema document refuse) fun marks =>
      validateSchemaWith (.saying marks) document refuse := by
  refine .get_bind (fun _ _ _ => rfl) fun r _ => ?_
  dsimp only
  generalize (document.metaSchemaId? <|> r.options.defaultMeta.map normalizeId <|> r.defaultMeta) =
    metaId
  cases metaId.bind r.store.lookup with
  | some entry => exact validateAgainst_visits entry document refuse
  | none => exact missingMeta_visits _ refuse

/-- A document is given a place. -/
theorem placeEntryWith_visits (vocabulary : VocabularyTable) {document : Value}
    (sorted : document.Sorted) (key : CacheKey) (id : String) (isMeta named own : Bool) :
    Visits (placeEntryWith Compiler.compile vocabulary document key id isMeta named own) fun marks =>
      placeEntryWith (.saying marks) vocabulary document key id isMeta named own := by
  refine .bind (.lift _) fun index => ?_
  let e (self : EntryId) : Entry :=
    { id, document, localRefs := index.localRefs, refTargets := index.refTargets
      cacheKey := some key, isMeta, root := self }
  let place : RegistryM EntryId := do
    let store := (← get).store
    updateStore fun _ => store.insertDocument (e ⟨store.entries.size⟩) key named
    return ⟨store.entries.size⟩
  have placed : Visits place fun _ => place := .of_still fun r self r' plain ran => by
    cases ran
    refine ⟨fun id f found => ?_, ⟨plain.parted, fun id f found => ?_⟩, [], ?_, fun events => ?_⟩
    · exact ⟨f, Store.entry?_insertDocument_of_some found, rfl, fun h => h⟩
    · rcases Store.entry?_of_insertDocument found with old | ⟨-, rfl⟩
      · exact plain.sorted id f old
      · exact sorted
    · exact (List.append_nil _).symm
    · rw [List.append_nil]
      rfl
  show Visits (place >>= fun self => checkOwnWith Compiler.compile self document own) fun marks =>
    place >>= fun self => checkOwnWith (.saying marks) self document own
  refine placed.bind fun self => ?_
  cases own with
  | false => exact .pure self
  | true =>
    exact .bind (.orElseUndo (validateAgainst_visits self document true) _) fun _ => .pure self

theorem insertEntry_visits {document : Document} (sorted : document.value.Sorted) (key : CacheKey)
    (id : String) (isMeta validate register : Bool) :
    Visits (insertEntry document key id isMeta validate register) fun marks =>
      insertEntryWith (.saying marks) document key id isMeta validate register := by
  have place (r : Registry) (own : Bool) :=
    placeEntryWith_visits r.vocabulary sorted key id isMeta (register && !id.isEmpty) own
  refine .get_bind (fun _ _ _ => rfl) fun r _ => ?_
  dsimp only
  by_cases taken : (register && !id.isEmpty && r.store.isTaken id) = true
  · simp only [if_pos taken]
    exact .throw_bind _
  · simp only [if_neg taken]
    let checked := validate && r.options.validateSchema ≠ .disabled
    let isOwnMeta := !id.isEmpty && document.value.metaSchemaId? = some id
    by_cases other : (checked && !isOwnMeta) = true
    · simp only [checked, isOwnMeta] at other
      simp only [if_pos other]
      exact (validateSchema_visits document.value true).bind fun _ => place r (checked && isOwnMeta)
    · simp only [checked, isOwnMeta] at other
      simp only [if_neg other]
      exact place r (checked && isOwnMeta)

/-- The entry of a document. -/
theorem addEntry_visits {document : Document} (sorted : document.value.Sorted) (id : String)
    (validate register : Bool) :
    Visits (addEntry document id false validate register) fun marks =>
      addEntryWith (.saying marks) document id false validate register := by
  refine .get_bind (fun _ _ _ => rfl) fun r _ => ?_
  dsimp only
  generalize ((r.store.cache.find? (r.options.serialize.key document)).bind fun entry =>
    (r.store.entry? entry).map (entry, ·)) = known
  cases known with
  | some known => exact .pure known.1
  | none => exact insertEntry_visits sorted _ id false validate register

/-- The compilation of a document. -/
theorem compile_visits {document : Document} (sorted : document.value.Sorted) :
    Visits (compile document) fun marks => compileWith (.saying marks) document := by
  refine .bind (.lift _) fun id => .get_bind (fun _ _ _ => rfl) fun r _ => ?_
  refine (addEntry_visits sorted id true r.options.addUsedSchema).bind fun entry => ?_
  exact (compileEntry_visits entry).orElseUndo _

/-! ## Compilations of documents -/

/-- A keyword that is noted whenever it is compiled. -/
def counted : Keyword := { name := "counted", behavior := .extension (.probe false) }

/-- Nothing is known at first, and documents are told apart by where they are. -/
def separate : Options := { serialize := .disabled, installMeta := false }

/-- A registry with that keyword. -/
abbrev counting : Registry := (create separate).run (Operation.definitions [] [counted])

/-- A document with a single place where the keyword stands, and with a reference to it. -/
def quoting : Document where
  value := .object
    [("allOf", .array [.object [("$ref", .string "#/properties/a")]]),
     ("properties", .object [("a", .object [("counted", .bool true)])])]
  identity := .given 0

theorem compiles_quoting : ∃ v r', compile quoting counting = .ok v r' :=
  RegistryM.exists_ok_of_run' (by decide +kernel)

theorem sorted_quoting : quoting.value.Sorted := by
  simp only [quoting, Value.Sorted, Value.SortedMembers, Value.SortedItems, Members.names]
  decide

theorem sorted_counting : counting.store.Sorted := by
  have empty : counting.store = {} := by
    rw [counting, run_definitions _ _ (by simp [counted])]
    rfl
  intro id e found
  rw [empty] at found
  cases found

end Registry

end JsonSchema
