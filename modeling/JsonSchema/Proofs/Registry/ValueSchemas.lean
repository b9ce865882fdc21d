import JsonSchema.Proofs.Registry.Insertions

/-!
# Definitions that fail

Before keywords are defined, the schemas for their values are taken in as meta-schemas and compiled.
If the definition is refused then, these documents stay.

* `Store.Adopts`: what may have become of the documents: some were taken in as meta-schemas, and
  some became meta-schemas.
* `Store.Adopts.unchanged`: nothing, if the documents in question are meta-schemas already.
* `Registry.Since`: what is compiled from now on is compiled by the same compiler.
* `Registry.run_abandons`: what a definition that fails leaves.
-/

namespace JsonSchema

namespace Store

variable {K : EntryId → Compiler → Prop} {P : CacheKey → Prop} {s s' s'' : Store} {id : EntryId}
  {e : Entry} {key : CacheKey}

/-! ## Documents that are taken in as meta-schemas -/

theorem document?_eq_some_iff :
    s.document? id = some e ↔ ∃ f, s.entry? id = some f ∧ f.pointer = "" ∧ f.reset = e := by
  rw [document?, Option.map_eq_some_iff]
  refine exists_congr fun f => ?_
  rw [Option.filter_eq_some_iff, Bool.not_eq_true', isFragment_eq_false_iff, and_assoc]

/-- A document is found under its cache key. -/
theorem Linked.cache_document (linked : s.Linked) (there : s.document? id = some e)
    (keyed : e.cacheKey = some key) : s.cache.find? key = some id := by
  obtain ⟨f, found, doc, rfl⟩ := document?_eq_some_iff.1 there
  obtain ⟨-, key', keyed', cached⟩ := linked.document id f found doc
  cases keyed'.symm.trans keyed
  exact cached

/-- Documents with some cache keys were taken in as meta-schemas, or became meta-schemas. The others
    are as they were, and so are the names. -/
structure Adopts (P : CacheKey → Prop) (s s' : Store) : Prop where
  schemas : s'.schemas = s.schemas
  refs : s'.refs = s.refs
  kept : ∀ id e, s.document? id = some e → s'.document? id = some e ∨
    s'.document? id = some { e with isMeta := true } ∧ ∃ key, e.cacheKey = some key ∧ P key
  added : ∀ id e, s'.document? id = some e → (∃ e₀, s.document? id = some e₀) ∨
    e.isMeta = true ∧ ∃ key, e.cacheKey = some key ∧ P key
  cache : ∃ more, s'.cache = s.cache ++ more ∧ ∀ b ∈ more, P b.1

namespace Adopts

theorem of_spares (spares : s.Spares s') : s.Adopts P s' where
  schemas := spares.schemas
  refs := spares.refs
  kept id e there := .inl (by rw [spares.documents, there])
  added id e there := .inl ⟨e, by rw [← spares.documents, there]⟩
  cache := ⟨[], by rw [spares.cache, List.append_nil], fun _ mem => (List.not_mem_nil mem).elim⟩

theorem refl (s : Store) : s.Adopts P s := of_spares (.refl s)

theorem trans (h : s.Adopts P s') (h' : s'.Adopts P s'') : s.Adopts P s'' where
  schemas := h'.schemas.trans h.schemas
  refs := h'.refs.trans h.refs
  kept id e there := by
    rcases h.kept id e there with same | ⟨marked, key, keyed, has⟩
    · exact h'.kept id e same
    · rcases h'.kept id _ marked with same | ⟨again, -⟩
      · exact .inr ⟨same, key, keyed, has⟩
      · exact .inr ⟨again, key, keyed, has⟩
  added id e'' there := by
    rcases h'.added id e'' there with ⟨e', was⟩ | new
    · rcases h.added id e' was with old | ⟨marked, key, keyed, has⟩
      · exact .inl old
      · rcases h'.kept id e' was with same | ⟨again, -⟩
        · cases same.symm.trans there
          exact .inr ⟨marked, key, keyed, has⟩
        · cases again.symm.trans there
          exact .inr ⟨rfl, key, keyed, has⟩
    · exact .inr new
  cache := by
    obtain ⟨more, first, has⟩ := h.cache
    obtain ⟨more', second, has'⟩ := h'.cache
    refine ⟨more ++ more', by rw [second, first, List.append_assoc], fun b mem => ?_⟩
    exact (List.mem_append.1 mem).elim (has b) (has' b)

/-- A document is taken in as a meta-schema, and not by its identifier. -/
theorem insertDocument (marked : e.isMeta = true)
    (keyed : e.cacheKey = some key) (free : s.cache.find? key = none) (has : P key) :
    s.Adopts P (s.insertDocument e key false) where
  schemas := rfl
  refs := rfl
  kept id f there := by
    obtain ⟨g, found, root, rfl⟩ := document?_eq_some_iff.1 there
    exact .inl (document?_eq_some_iff.2 ⟨g, entry?_insertDocument_of_some found, root, rfl⟩)
  added id f there := by
    obtain ⟨g, found, root, rfl⟩ := document?_eq_some_iff.1 there
    rcases entry?_of_insertDocument found with old | ⟨-, rfl⟩
    · exact .inl ⟨_, document?_eq_some_iff.2 ⟨g, old, root, rfl⟩⟩
    · exact .inr ⟨marked, key, keyed, has⟩
  cache := by
    refine ⟨[(key, ⟨s.entries.size⟩)], Bindings.bind_eq_append _ free, fun b mem => ?_⟩
    rw [List.mem_singleton.1 mem]
    exact has

/-- A document becomes a meta-schema. -/
theorem promote (linked : s.Linked) {root : EntryId} (cached : s.cache.find? key = some root)
    (has : P key) : s.Adopts P (s.promote (s.membersOf root)) := by
  obtain ⟨reset, promotes⟩ := s.promotes (s.membersOf root)
  refine ⟨promotes.alike.schemas, promotes.alike.refs, fun id e there => ?_,
    fun id e there => .inl ?_, [], by rw [promotes.alike.cache, List.append_nil],
    fun _ mem => (List.not_mem_nil mem).elim⟩
  · obtain ⟨f, found, doc, rfl⟩ := document?_eq_some_iff.1 there
    obtain ⟨m, p, found'⟩ := promotes.alike.entry? found
    have there' := document?_eq_some_iff.2 ⟨_, found', doc, rfl⟩
    rcases promotes.marks id f _ found found' with ⟨mem, marked⟩ | ⟨-, same⟩
    · -- a document belongs to itself alone
      have own : id = root := by
        rw [← linked.document_root found doc]
        exact (mem_membersOf found).1 mem
      obtain ⟨d, foundD, -, keyed⟩ := linked.cached _ (Bindings.mem_of_find? cached)
      rw [← own, found] at foundD
      cases foundD
      have marked : m = true := marked
      subst marked
      exact .inr ⟨there', key, keyed, has⟩
    · have same : m = f.isMeta := same
      subst same
      exact .inl there'
  · obtain ⟨f', found', doc, rfl⟩ := document?_eq_some_iff.1 there
    obtain ⟨m, p, found⟩ := promotes.alike.symm.entry? found'
    exact ⟨_, document?_eq_some_iff.2 ⟨_, found, doc, rfl⟩⟩

/-- Nothing changes if the documents with the cache keys are there, and are meta-schemas. -/
theorem unchanged (adopts : s.Adopts P s') (linked : s.Linked) (linked' : s'.Linked)
    (known : ∀ key, P key → ∃ id e, s.cache.find? key = some id ∧ s.document? id = some e ∧
      e.isMeta = true) :
    (∀ id, s'.document? id = s.document? id) ∧ s'.cache = s.cache := by
  obtain ⟨more, appended, has⟩ := adopts.cache
  have stays : ∀ key id, s.cache.find? key = some id → s'.cache.find? key = some id := by
    intro key id cached
    rw [appended, Bindings.find?_append, cached, Option.some_or]
  have none : more = [] := by
    refine List.eq_nil_iff_forall_not_mem.2 fun b mem => ?_
    obtain ⟨id, e, cached, -⟩ := known b.1 (has b mem)
    have keyed := linked'.cacheKeyed
    rw [appended, Bindings.Keyed, List.map_append, List.nodup_append] at keyed
    exact keyed.2.2 _ (List.mem_map.2 ⟨_, Bindings.mem_of_find? cached, rfl⟩) _
      (List.mem_map.2 ⟨b, mem, rfl⟩) rfl
  have kept : ∀ id e, s.document? id = some e → s'.document? id = some e := by
    intro id e there
    rcases adopts.kept id e there with same | ⟨marked, key, keyed, has⟩
    · exact same
    · obtain ⟨id₀, e₀, cached, there₀, already⟩ := known key has
      cases (linked.cache_document there keyed).symm.trans cached
      cases there.symm.trans there₀
      rw [marked, ← already]
  refine ⟨fun id => Option.ext fun e => ⟨fun there => ?_, kept id e⟩,
    by rw [appended, none, List.append_nil]⟩
  have was : ∃ e₀, s.document? id = some e₀ := by
    rcases adopts.added id e there with old | ⟨-, key, keyed, has⟩
    · exact old
    · obtain ⟨id₀, e₀, cached, there₀, -⟩ := known key has
      cases (linked'.cache_document there keyed).symm.trans (stays key id₀ cached)
      exact ⟨e₀, there₀⟩
  obtain ⟨e₀, there₀⟩ := was
  rw [there₀, ← kept id e₀ there₀, there]

end Adopts

end Store

/-! ## Compilers -/

namespace Registry

variable {K : EntryId → Compiler → Prop} {r r' : Registry}

/-- What was compiled after a registry was as it is, was compiled as it would be there. -/
def Since (r : Registry) (id : EntryId) (compiler : Compiler) : Prop :=
  r.store.IsStarted id ∨ compiler = r.compiler

/-- Nothing was compiled since now. -/
theorem Good.since (good : r.Good K) : r.Good r.Since where
  settled :=
    { good.settled with
      holds := fun id e node refs found done => by
        obtain ⟨compiler, fuel, underMeta, -, holds⟩ := good.settled.holds id e node refs found done
        exact ⟨compiler, fuel, underMeta, .inl ⟨e, found, by rw [done]; rfl⟩, holds⟩ }
  current _ := .inr rfl

/-- Nothing was compiled where no place was given out, so it is the compiler that counts. -/
theorem Good.compiler_eq (good : r'.Good r.Since) : r'.compiler = r.compiler := by
  refine (good.current ⟨r.store.entries.size⟩).resolve_left fun ⟨e, found, _⟩ => ?_
  rw [Store.entry?_next] at found
  cases found

end Registry

/-! ## Operations that take meta-schemas in -/

namespace RegistryM

open Registry (Good)

variable {K : EntryId → Compiler → Prop} {P : CacheKey → Prop} {α β : Type} {r : Registry}
  {m : RegistryM α} {post : α → Registry → Prop}

/-- Whatever its outcome, an operation takes documents with some cache keys in as meta-schemas and
    changes no other documents, and no names. -/
def Adopts (K : EntryId → Compiler → Prop) (P : CacheKey → Prop) (r : Registry) (m : RegistryM α) :
    Prop :=
  match m r with
  | .ok _ r' | .error _ r' => Good K r' ∧ r.store.Adopts P r'.store

namespace Adopts

theorem pure (good : Good K r) (a : α) : Adopts K P r (pure a : RegistryM α) := ⟨good, .refl _⟩

theorem lift (good : Good K r) (x : Except SchemaError α) : Adopts K P r (Registry.lift x) := by
  cases x with
  | ok a => exact ⟨good, .refl _⟩
  | error e => exact ⟨good, .refl _⟩

/-- An operation that takes back what it did, if it fails. -/
theorem of_undoes (undoes : Undoes K r.store r m post)
    (adopts : ∀ a r', m r = .ok a r' → post a r' → r.store.Adopts P r'.store) :
    Adopts K P r m := by
  unfold Adopts
  cases hm : m r with
  | ok a r' =>
    obtain ⟨good, h⟩ := undoes.of_ok hm
    exact ⟨good, adopts a r' hm h⟩
  | error e r' =>
    obtain ⟨good, spares⟩ := undoes.of_error hm
    exact ⟨good, .of_spares spares⟩

theorem bind {f : α → RegistryM β} (first : Adopts K P r m)
    (second : ∀ a r', m r = .ok a r' → Good K r' → Adopts K P r' (f a)) :
    Adopts K P r (m >>= f) := by
  unfold Adopts at first ⊢
  cases hm : m r with
  | error e r' =>
    rw [bind_error hm]
    rw [hm] at first
    exact first
  | ok a r' =>
    rw [hm] at first
    have rest := second a r' hm first.1
    unfold Adopts at rest
    rw [bind_ok hm]
    cases hf : f a r' <;> rw [hf] at rest <;> exact ⟨rest.1, first.2.trans rest.2⟩

theorem mapM {f : α → RegistryM β} {list : List α} (good : Good K r)
    (step : ∀ a ∈ list, ∀ r', Good K r' → Adopts K P r' (f a)) : Adopts K P r (list.mapM f) := by
  induction list generalizing r with
  | nil =>
    rw [List.mapM_nil]
    exact pure good []
  | cons a rest ih =>
    rw [List.mapM_cons]
    refine (step a List.mem_cons_self r good).bind fun b r' _ good' => ?_
    refine (ih good' fun a mem => step a (List.mem_cons_of_mem _ mem)).bind fun bs r'' _ good'' => ?_
    exact pure good'' _

end Adopts

end RegistryM

namespace Registry

open RegistryM (Adopts Undoes)

variable {K : EntryId → Compiler → Prop} {P : CacheKey → Prop} {r : Registry}

theorem compileEntry_adopts (good : r.Good K) (id : EntryId) : Adopts K P r (compileEntry id) :=
  .of_undoes (compileEntry_undoes good id) fun _ _ _ spares => .of_spares spares

/-- A document that is taken in as a meta-schema, or becomes one. -/
theorem addEntry_adopts (good : r.Good K) (document : Document) (id : String) (validate : Bool)
    (has : P (r.options.serialize.key document)) :
    Adopts K P r (addEntry document id true validate false) := by
  refine .of_undoes (addEntry_undoes good document id true validate false) fun entry r' ok _ => ?_
  rcases (addEntry_takes good document id true validate false).of_ok ok with
    ⟨cached, same | ⟨-, promoted⟩⟩ | ⟨free, -, s, e, before, -, -, -, keyed, marked, -, after⟩
  · rw [same]
    exact .refl _
  · rw [promoted]
    exact .promote good.settled.linked cached has
  · have free : s.cache.find? (r.options.serialize.key document) = none := by
      rw [before.cache, free]
    exact ((Store.Adopts.of_spares before).trans (.insertDocument marked keyed free has)).trans
      (.of_spares after)

/-! ## Definitions -/

/-- The cache keys of the schemas for the values of some keywords. -/
def IsValueKey (serializer : KeySerializer) (keywords : List Keyword) (key : CacheKey) : Prop :=
  ∃ keyword ∈ keywords, ∃ schema, keyword.valueSchema = some schema ∧
    ∃ identity, key = serializer.key ⟨schema, identity⟩

theorem compileValueSchema_adopts (good : r.Good K) (schema : Value)
    (has : ∀ identity, P (r.options.serialize.key ⟨schema, identity⟩)) :
    Adopts K P r (compileValueSchema schema) := by
  refine (Adopts.lift good _).bind fun id r₁ lifted _ => ?_
  obtain ⟨good₁, -, same⟩ := (Undoes.lift good (.refl r.store) _).of_ok lifted
  subst same
  -- a copy is made, and the copy is taken in
  let copied : Registry := { r₁ with copies := r₁.copies + 1 }
  let document : Document := ⟨schema, .made r₁.copies⟩
  have good₂ : copied.Good K := ⟨good₁.settled, good₁.current⟩
  have rest : Adopts K P copied (addEntry document id true true false >>= compileEntry) :=
    (addEntry_adopts good₂ document id true (has _)).bind fun entry _ _ good₃ =>
      compileEntry_adopts good₃ entry
  exact rest

/-- What is taken in for the values of keywords are the schemas for them. -/
theorem valueValidators_adopts (good : r.Good K) (keywords : List Keyword) :
    Adopts r.Since (IsValueKey r.options.serialize keywords) r (valueValidators keywords) := by
  refine (Adopts.mapM good.since fun keyword mem r' good' => ?_).bind fun _ _ _ good' => .pure good' _
  have options : r'.options = r.options := congrArg Compiler.options good'.compiler_eq
  cases some_ : keyword.valueSchema with
  | none => exact .pure good' none
  | some schema =>
    refine (compileValueSchema_adopts good' schema fun identity => ?_).bind fun _ _ _ good'' =>
      .pure good'' _
    exact ⟨keyword, mem, schema, some_, identity, by rw [options]⟩

/-- What a definition of keywords that failed leaves: the same table of keywords, and the documents
    as they were, except for the schemas for values. Nothing is left if these are meta-schemas that
    were there before. -/
structure Abandons (r : Registry) (keywords : List Keyword) (r' : Registry) : Prop where
  vocabulary : r'.vocabulary = r.vocabulary
  adopts : r.store.Adopts (IsValueKey r.options.serialize keywords) r'.store
  unchanged : (∀ key, IsValueKey r.options.serialize keywords key → ∃ id e,
      r.store.cache.find? key = some id ∧ r.store.document? id = some e ∧ e.isMeta = true) →
    (∀ id, r'.store.document? id = r.store.document? id) ∧ r'.store.cache = r.store.cache

theorem defineWith_error {validators : List (String × Validator)}
    {define : VocabularyTable → Except SchemaError VocabularyTable} {e : SchemaError} {r' : Registry}
    (failed : defineWith validators define r = .error e r') : r' = r := by
  unfold defineWith at failed
  rw [RegistryM.get_bind] at failed
  cases defined : define r.vocabulary with
  | error e' =>
    rw [defined] at failed
    cases failed
    rfl
  | ok table =>
    rw [defined] at failed
    cases failed

theorem define_abandons (good : r.Good K) (keywords : List Keyword)
    {define : VocabularyTable → Except SchemaError VocabularyTable} {e : SchemaError} {r' : Registry}
    (failed : (valueValidators keywords >>= fun validators => defineWith validators define) r =
      .error e r') : r.Abandons keywords r' := by
  have adopts := valueValidators_adopts good keywords
  unfold RegistryM.Adopts at adopts
  have left : r'.Good r.Since ∧
      r.store.Adopts (IsValueKey r.options.serialize keywords) r'.store := by
    cases made : valueValidators keywords r with
    | error e₁ r₁ =>
      rw [RegistryM.bind_error made] at failed
      rw [made] at adopts
      cases failed
      exact adopts
    | ok validators r₁ =>
      rw [RegistryM.bind_ok made] at failed
      rw [made] at adopts
      rw [defineWith_error failed]
      exact adopts
  exact ⟨congrArg Compiler.vocabulary left.1.compiler_eq, left.2,
    left.2.unchanged good.settled.linked left.1.settled.linked⟩

/-- After any operations, a definition of keywords that fails leaves the table of keywords and the
    names as they were. It may leave the schemas for values behind, as meta-schemas. -/
theorem run_abandons (options : Options) (operations : List Operation) :
    let r := (create options).run operations
    (∀ keyword e r', addKeyword keyword r = .error e r' → r.Abandons [keyword] r') ∧
      ∀ vocabulary e r', addVocabulary vocabulary r = .error e r' →
        r.Abandons vocabulary.keywords r' := by
  intro r
  have good : r.Good fun _ _ => True := reached_good options operations
  exact ⟨fun keyword _ _ failed => define_abandons good [keyword] failed,
    fun vocabulary _ _ failed => define_abandons good vocabulary.keywords failed⟩

/-- A protected keyword with a schema for its values. -/
def guardedKeyword : Keyword := { name := "$ref", valueSchema := some (.object [("a", .null)]) }

/-- A definition that is refused may leave a schema for values in the cache. -/
theorem run_abandons_kept :
    let r := create { installMeta := false }
    (addKeyword guardedKeyword).run' r = none ∧
      ((addKeyword guardedKeyword).after r).cacheSize ≠ r.cacheSize := by
  decide +kernel

end Registry

end JsonSchema
