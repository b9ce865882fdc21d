import JsonSchema.Proofs.Registry.Reachable
import JsonSchema.Proofs.Registry.Sparing

/-!
# Operations that fail

An operation that takes documents in, compiles them or validates data leaves nothing behind
when it fails.

* `RegistryM.Undoes`: the rule by which operations that take back what they did are put
  together.
* `Registry.addSchemaWith_undoes`, `Registry.compile_undoes`, `Registry.getSchema_undoes` and the
  others: one rule for each operation.
* `Registry.run_spares`: whatever was done before, a failure spares what is there.
-/

namespace JsonSchema

namespace RegistryM

open Registry (Good)

variable {K : EntryId → Compiler → Prop} {α β : Type} {s : Store} {r : Registry} {m : RegistryM α}
  {post : α → Registry → Prop}

/-- An operation that fails spares what there is. -/
def Spares (m : RegistryM α) (r : Registry) : Prop :=
  ∀ e r', m.run r = .error e r' → r.store.Spares r'.store

/-- An operation that is part of one that began with the store `s` either succeeds with a result
    as described, or fails and takes back what was done since. -/
def Undoes (K : EntryId → Compiler → Prop) (s : Store) (r : Registry) (m : RegistryM α)
    (post : α → Registry → Prop) : Prop :=
  match m r with
  | .ok a r' => Good K r' ∧ post a r'
  | .error _ r' => Good K r' ∧ s.Spares r'.store

namespace Undoes

theorem pure (good : Good K r) {a : α} (h : post a r) : Undoes K s r (pure a : RegistryM α) post :=
  ⟨good, h⟩

theorem throw (good : Good K r) (spares : s.Spares r.store) (e : SchemaError) :
    Undoes K s r (MonadExcept.throw e : RegistryM α) post := ⟨good, spares⟩

theorem throw_bind (good : Good K r) (spares : s.Spares r.store) (e : SchemaError)
    (f : β → RegistryM α) : Undoes K s r (MonadExcept.throw e >>= f) post := ⟨good, spares⟩

theorem get_bind {f : Registry → RegistryM α} (rest : Undoes K s r (f r) post) :
    Undoes K s r (get >>= f) post := rest

theorem bind {f : α → RegistryM β} {post' : β → Registry → Prop} (first : Undoes K s r m post)
    (second : ∀ a r', Good K r' → post a r' → Undoes K s r' (f a) post') :
    Undoes K s r (m >>= f) post' := by
  unfold Undoes at first ⊢
  cases hm : m r with
  | error e r' =>
    rw [bind_error hm]
    rw [hm] at first
    exact first
  | ok a r' =>
    rw [bind_ok hm]
    rw [hm] at first
    exact second a r' first.1 first.2

theorem imp {post' : α → Registry → Prop} (first : Undoes K s r m post)
    (h : ∀ a r', post a r' → post' a r') : Undoes K s r m post' := by
  unfold Undoes at first ⊢
  cases hm : m r with
  | error e r' =>
    rw [hm] at first
    exact first
  | ok a r' =>
    rw [hm] at first
    exact ⟨first.1, h a r' first.2⟩

theorem map {f : α → β} {post' : β → Registry → Prop} (first : Undoes K s r m post)
    (h : ∀ a r', post a r' → post' (f a) r') : Undoes K s r (f <$> m) post' := by
  rw [map_eq_pure_bind]
  exact first.bind fun a r' good ha => pure good (h a r' ha)

/-- A step that changes neither the store nor what compilations read. -/
theorem quiet (good : Good K r) (change : Registry → Registry)
    (store : (change r).store = r.store) (compiler : (change r).compiler = r.compiler) :
    Undoes K s r (modify change) fun _ r' => r'.store = r.store := by
  refine ⟨⟨?_, ?_⟩, store⟩
  · rw [store]
    exact good.settled
  · rw [compiler]
    exact good.current

theorem updateStore (good : Good K r) (change : Store → Store)
    (settled : (change r.store).Settled K) :
    Undoes K s r (Registry.updateStore change) fun _ r' => r'.store = change r.store :=
  ⟨⟨settled, good.current⟩, rfl⟩

theorem lift (good : Good K r) (spares : s.Spares r.store) (x : Except SchemaError α) :
    Undoes K s r (Registry.lift x) fun a r' => x = .ok a ∧ r' = r := by
  cases x with
  | ok a => exact .pure good ⟨rfl, rfl⟩
  | error e => exact .throw good spares e

/-- An operation that never fails has nothing to take back. -/
theorem of_ensures (ensured : Ensures K r m post) (total : ∀ e r', m r ≠ .error e r') :
    Undoes K s r m post := by
  unfold Ensures at ensured
  unfold Undoes
  cases hm : m r with
  | error e r' => exact absurd hm (total e r')
  | ok a r' =>
    rw [hm] at ensured
    exact ⟨ensured.1, ensured.2.2⟩

/-- What a success gives besides. -/
theorem both {post' : α → Registry → Prop} (undoes : Undoes K s r m post)
    (ensured : Ensures K r m post') : Undoes K s r m fun a r' => post a r' ∧ post' a r' := by
  unfold Ensures at ensured
  unfold Undoes at undoes ⊢
  cases hm : m r with
  | error e r' =>
    rw [hm] at undoes
    exact undoes
  | ok a r' =>
    rw [hm] at undoes ensured
    exact ⟨undoes.1, undoes.2, ensured.2.2⟩

/-- A part of an operation may begin with what was spared so far. -/
theorem after (first : Undoes K r.store r m post) (spares : s.Spares r.store) :
    Undoes K s r m post := by
  unfold Undoes at first ⊢
  cases hm : m r with
  | error e r' =>
    rw [hm] at first
    exact ⟨first.1, spares.trans first.2⟩
  | ok a r' =>
    rw [hm] at first
    exact first

/-- An operation after which the place is given back that was given out before. -/
theorem orElseRemove {K' : EntryId → Compiler → Prop} {id : EntryId} (first : Undoes K r.store r m post)
    (settled : s.Settled K') (gains : s.Gains r.store id) :
    Undoes K s r (Registry.orElseUndo m (Registry.updateStore (·.remove id))) post := by
  unfold Undoes at first ⊢
  show match EStateM.tryCatch m _ r with
    | .ok a r' => _
    | .error _ r' => _
  unfold EStateM.tryCatch
  cases hm : m r with
  | ok a r' =>
    rw [hm] at first
    exact first
  | error e r' =>
    rw [hm] at first
    obtain ⟨good, spares⟩ := first
    exact ⟨⟨good.settled.remove id, good.current⟩,
      (gains.trans spares).remove (settled.weaken fun _ _ _ => trivial)
        (good.settled.weaken fun _ _ _ => trivial)⟩

/-- An operation after which there is nothing to take back. -/
theorem orElseNothing (first : Undoes K s r m post) :
    Undoes K s r (Registry.orElseUndo m (Pure.pure ())) post := by
  unfold Undoes at first ⊢
  show match EStateM.tryCatch m _ r with
    | .ok a r' => _
    | .error _ r' => _
  unfold EStateM.tryCatch
  cases hm : m r with
  | ok a r' =>
    rw [hm] at first
    exact first
  | error e r' =>
    rw [hm] at first
    exact first

theorem of_ok (h : Undoes K s r m post) {a : α} {r' : Registry} (ok : m r = .ok a r') :
    Good K r' ∧ post a r' := by
  unfold Undoes at h
  rw [ok] at h
  exact h

theorem of_error (h : Undoes K s r m post) {e : SchemaError} {r' : Registry}
    (error : m r = .error e r') : Good K r' ∧ s.Spares r'.store := by
  unfold Undoes at h
  rw [error] at h
  exact h

theorem spares (h : Undoes K r.store r m post) : m.Spares r := by
  intro e r' run
  exact (h.of_error run).2

end Undoes

end RegistryM

-- from here on operations are put together by the rules above, and never run
attribute [irreducible] RegistryM.Undoes

namespace Registry

open RegistryM (Undoes)

variable {K : EntryId → Compiler → Prop} {r : Registry}

/-! ## Compiling and checking -/

theorem trace_undoes {s : Store} (good : r.Good K) (events : List Event) :
    Undoes K s r (trace events) fun _ r' => r'.store = r.store :=
  Undoes.quiet good (fun r => { r with events := r.events ++ events }) rfl rfl

theorem compileEntry_undoes (good : r.Good K) (id : EntryId) :
    Undoes K r.store r (compileEntry id) fun _ r' => r.store.Spares r'.store := by
  unfold compileEntry
  refine .get_bind ?_
  by_cases compiled : r.isCompiled id = true
  · rw [if_pos compiled]
    exact Undoes.get_bind (Undoes.pure good (.refl _))
  · have settled := Compiler.compile_settled good.settled good.current id
    have spares := Compiler.compile_spares good.settled good.current id
    rw [if_neg compiled]
    generalize r.compiler.compile id r.store = result at settled spares
    obtain ⟨outcome, store, events⟩ := result
    have changed : Undoes K r.store r (modify fun r => { r with store := store }) fun _ r' =>
        r'.store = store := Undoes.updateStore good (fun _ => store) settled
    refine Undoes.bind changed fun _ r₁ good₁ store₁ => ?_
    refine Undoes.bind (trace_undoes good₁ events) fun _ r₂ good₂ store₂ => ?_
    have spares : r.store.Spares r₂.store := by rw [store₂, store₁]; exact spares
    refine Undoes.bind (Undoes.lift good₂ spares outcome) fun _ r₃ good₃ ⟨_, same⟩ => ?_
    subst same
    exact .get_bind (.pure good₃ spares)

theorem record_undoes {s : Store} (good : r.Good K) (violations : Violations) :
    Undoes K s r (record violations) fun _ r' => r'.store = r.store := by
  unfold record
  refine (Undoes.quiet good _ ?_ ?_).bind fun _ r' good' same => Undoes.pure good' same
  · rfl
  · rfl

theorem apply_undoes {s : Store} (good : r.Good K) (validator : Validator) (data : Value) :
    Undoes K s r (apply validator data) fun _ r' => r'.store = r.store := by
  unfold apply
  refine Undoes.get_bind ?_
  exact (trace_undoes good _).bind fun _ r' good' same => Undoes.pure good' same

theorem validateAgainst_undoes (good : r.Good K) (metaSchema : EntryId) (document : Value)
    (refuse : Bool) :
    Undoes K r.store r (validateAgainst metaSchema document refuse) fun _ r' =>
      r.store.Spares r'.store := by
  refine (compileEntry_undoes good metaSchema).bind fun v r₁ good₁ spares => ?_
  refine (apply_undoes good₁ v document).bind fun violations r₂ good₂ same₂ => ?_
  refine (record_undoes good₂ violations).bind fun passed r₃ good₃ same₃ => ?_
  have spares : r.store.Spares r₃.store := by rw [same₃, same₂]; exact spares
  cases passed with
  | true => exact .pure good₃ spares
  | false =>
    refine .get_bind ?_
    split
    · exact .throw_bind good₃ spares _ _
    · exact .pure good₃ spares

theorem missingMeta_undoes (good : r.Good K) (metaId : String) (refuse : Bool) :
    Undoes K r.store r (missingMeta metaId refuse) fun _ r' => r.store.Spares r'.store := by
  unfold missingMeta
  refine .get_bind ?_
  cases r.options.missingMeta with
  | permissive => exact .pure good (.refl _)
  | strict =>
    refine (record_undoes good _).bind fun _ r' good' same => ?_
    have spares : r.store.Spares r'.store := by rw [same]; exact .refl _
    cases refuse with
    | true => exact .throw_bind good' spares _ _
    | false => exact .pure good' spares

theorem validateSchema_undoes (good : r.Good K) (document : Value) (refuse : Bool) :
    Undoes K r.store r (validateSchema document refuse) fun _ r' =>
      r.store.Spares r'.store := by
  unfold validateSchema
  refine .get_bind ?_
  simp only
  split
  · exact validateAgainst_undoes good _ document refuse
  · exact missingMeta_undoes good _ refuse

/-! ## Taking documents in -/

/-- A document that is its own meta-schema goes again if it does not pass its check. -/
theorem checkOwn_undoes {s : Store} {entry : EntryId} (good : r.Good K) (settled : s.Settled K)
    (gains : s.Gains r.store entry) (document : Value) (own : Bool) :
    Undoes K s r (checkOwn entry document own) fun id r' => s.Gains r'.store id := by
  cases own with
  | false => exact .pure good gains
  | true =>
    refine Undoes.bind ((validateAgainst_undoes good entry document true).orElseRemove settled
      gains) fun _ r' good' spares => .pure good' (gains.trans spares)

theorem placeEntry_undoes (good : r.Good K) (vocabulary : VocabularyTable) (document : Value)
    {key : CacheKey} {id : String} (isMeta own : Bool) {named : Bool}
    (free : r.store.cache.find? key = none)
    (fresh : named = true → r.store.schemas.find? id = none ∧ r.store.refs.find? id = none) :
    Undoes K r.store r (placeEntry vocabulary document key id isMeta named own) fun entry r' =>
      r.store.Gains r'.store entry := by
  refine (Undoes.lift good (.refl _) _).bind fun index r₁ good₁ ⟨_, same⟩ => ?_
  subst same
  let self : EntryId := ⟨r₁.store.entries.size⟩
  let e : Entry :=
    { id, document, localRefs := index.localRefs, refTargets := index.refTargets
      cacheKey := some key, isMeta, root := self }
  refine .get_bind ?_
  refine (Undoes.updateStore good₁ (fun _ => r₁.store.insertDocument e key named)
    (good₁.settled.insertDocument rfl rfl rfl free fresh)).bind fun _ r₂ good₂ same => ?_
  refine checkOwn_undoes good₂ good₁.settled ?_ document own
  rw [same]
  exact .insertDocument good₁.settled.linked free fun h => (fresh h).2

theorem insertEntry_undoes (good : r.Good K) (document : Document) (key : CacheKey)
    (id : String) (isMeta validate register : Bool) (free : r.store.cache.find? key = none) :
    Undoes K r.store r (insertEntry document key id isMeta validate register) fun entry r' =>
      r.store.Gains r'.store entry := by
  unfold insertEntry
  refine .get_bind ?_
  by_cases taken : (register && !id.isEmpty && r.store.isTaken id) = true
  · rw [if_pos taken]
    exact .throw_bind good (.refl _) _ _
  · rw [if_neg taken]
    have fresh : (register && !id.isEmpty) = true →
        r.store.schemas.find? id = none ∧ r.store.refs.find? id = none := by
      intro h
      rw [h, Bool.true_and, Bool.not_eq_true] at taken
      exact Store.Linked.isTaken_eq_false_iff.1 taken
    let checked := validate && r.options.validateSchema ≠ .disabled
    let isOwnMeta := !id.isEmpty && document.value.metaSchemaId? = some id
    by_cases other : (checked && !isOwnMeta) = true
    · rw [if_pos other]
      refine (validateSchema_undoes good document.value true).bind fun _ r₁ good₁ spares => ?_
      rw [← spares.cache] at free
      rw [← spares.schemas, ← spares.refs] at fresh
      exact ((placeEntry_undoes good₁ r.vocabulary document.value isMeta (checked && isOwnMeta)
        free fresh).after spares).imp fun _ _ gains => gains.after spares
    · rw [if_neg other]
      exact placeEntry_undoes good r.vocabulary document.value isMeta (checked && isOwnMeta)
        free fresh

/-- A document is taken in by a place of its own, unless one with its cache key is there. -/
theorem addEntry_undoes (good : r.Good K) (document : Document) (id : String)
    (isMeta validate register : Bool) :
    Undoes K r.store r (addEntry document id isMeta validate register) fun entry r' =>
      (r.store.cache.find? (r.options.serialize.key document) = some entry ∧
        (isMeta = false → r' = r) ∧ r.store.Alike r'.store) ∨ r.store.Gains r'.store entry := by
  unfold addEntry
  refine .get_bind ?_
  cases known : (r.store.cache.find? (r.options.serialize.key document)).bind fun entry =>
      (r.store.entry? entry).map (entry, ·) with
  | none =>
    simp only [known]
    have free : r.store.cache.find? (r.options.serialize.key document) = none := by
      refine Option.eq_none_iff_forall_ne_some.2 fun entry cached => ?_
      obtain ⟨e, found, -⟩ := good.settled.linked.cached _ (Bindings.mem_of_find? cached)
      rw [cached, Option.bind_some, found] at known
      cases known
    exact (insertEntry_undoes good document _ id isMeta validate register free).imp
      fun _ _ gains => .inr gains
  | some known_ =>
    obtain ⟨entry, e⟩ := known_
    simp only [known]
    obtain ⟨entry', cached, found⟩ := Option.bind_eq_some_iff.1 known
    obtain ⟨e', -, same⟩ := Option.map_eq_some_iff.1 found
    cases same
    by_cases promoted : (isMeta && !e.isMeta) = true
    · rw [if_pos promoted]
      obtain ⟨reset, promotes⟩ := Store.promotes r.store (r.store.membersOf entry)
      refine (Undoes.updateStore good _ (good.settled.promote entry)).bind
        fun _ r' good' same => .pure good' (.inl ⟨cached, fun plain => ?_, ?_⟩)
      · rw [plain] at promoted
        cases promoted
      · rw [same]
        exact promotes.alike
    · rw [if_neg promoted]
      exact .pure good (.inl ⟨cached, fun _ => rfl, .refl _⟩)

theorem nameEntry_ne_error (entry : EntryId) (key : String) (r : Registry) (e : SchemaError)
    (r' : Registry) : nameEntry entry key r ≠ .error e r' := by
  intro failed
  unfold nameEntry at failed
  by_cases empty : key.isEmpty = true
  · rw [if_pos empty] at failed
    cases failed
  · rw [if_neg empty] at failed
    cases failed

/-- A document that is taken in is found under its name, as are all that were there before. -/
theorem addSchemaWith_undoes (good : r.Good K) (document : Document) (options : AddOptions) :
    Undoes K r.store r (addSchemaWith document options) fun _ r' =>
      r.store.KeepsNames r'.store ∧ ∀ key, options.key = some key →
        (normalizeId key).isEmpty = false → r'.store.isTaken (normalizeId key) = true := by
  unfold addSchemaWith
  refine Undoes.bind (Undoes.lift good (.refl _) document.value.schemaId) ?_
  intro id r₁ good₁ h
  obtain ⟨-, rfl⟩ := h
  have given : ∀ key, options.key = some key → normalizeId (options.key.getD id) = normalizeId key :=
    fun key h => by rw [h, Option.getD_some]
  generalize normalizeId (options.key.getD id) = key at given
  refine Undoes.get_bind ?_
  by_cases taken : (!key.isEmpty && r₁.store.isTaken key) = true
  · rw [if_pos taken]
    exact Undoes.throw_bind good₁ (.refl _) _ _
  · rw [if_neg taken]
    refine ((addEntry_undoes good₁ document id options.isMeta (!options.skipValidation) true).both
      (addEntry_ensures good₁ document id options.isMeta (!options.skipValidation) true)).bind
      fun entry r₂ good₂ h => ?_
    have keeps : r₁.store.KeepsNames r₂.store :=
      h.1.elim (fun cached => cached.2.2.keepsNames) fun gains => gains.keepsNames
    have names : ∀ r' : Registry,
        (r'.store = if key.isEmpty then r₂.store else r₂.store.bindName key entry) →
        r₁.store.KeepsNames r'.store ∧ ∀ key, options.key = some key →
          (normalizeId key).isEmpty = false → r'.store.isTaken (normalizeId key) = true := by
      intro r' named
      by_cases empty : key.isEmpty = true
      · rw [named, if_pos empty]
        refine ⟨keeps, fun key' h nonempty => ?_⟩
        rw [← given key' h, empty] at nonempty
        cases nonempty
      · rw [named, if_neg empty]
        obtain ⟨keeps', bound⟩ := Store.KeepsNames.bindName r₂.store key entry
        exact ⟨keeps.trans keeps', fun key' h _ => by rw [← given key' h]; exact bound⟩
    exact (Undoes.of_ensures (nameEntry_ensures good₂ h.2 taken)
      (nameEntry_ne_error entry key r₂)).imp fun _ r' named => names r' named

/-! ## Finding documents -/

theorem compile_undoes (good : r.Good K) (document : Document) :
    Undoes K r.store r (compile document) fun _ r' => r.store.KeepsNames r'.store := by
  refine (Undoes.lift good (.refl _) _).bind fun id r₁ good₁ ⟨_, same⟩ => ?_
  subst same
  refine .get_bind ?_
  refine (addEntry_undoes good₁ document id false true r₁.options.addUsedSchema).bind
    fun entry r₂ good₂ added => ?_
  have keeps : r₁.store.KeepsNames r₂.store :=
    added.elim (fun cached => cached.2.2.keepsNames) fun gains => gains.keepsNames
  suffices Undoes K r₁.store r₂ _ fun _ r' => r₂.store.Spares r'.store from
    this.imp fun _ _ spares => keeps.trans spares.keepsNames
  rcases added with ⟨cached, same, -⟩ | gains
  · rw [if_pos cached, same rfl]
    exact (compileEntry_undoes good₁ entry).orElseNothing
  · have new : r₁.store.cache.find? (r₁.options.serialize.key document) ≠ some entry := by
      intro cached
      obtain ⟨e, found, -⟩ := good₁.settled.linked.cached _ (Bindings.mem_of_find? cached)
      exact absurd (Store.index_lt_size found) (Nat.not_lt_of_le gains.fresh)
    rw [if_neg new]
    exact (compileEntry_undoes good₂ entry).orElseRemove good₁.settled gains

theorem getSchema_undoes (good : r.Good K) (name : String) :
    Undoes K r.store r (getSchema name) fun v? r' => v? = none → r' = r := by
  have compiled : ∀ id : EntryId, Undoes K r.store r (some <$> compileEntry id) fun v? r' =>
      v? = none → r' = r := fun id =>
    (compileEntry_undoes good id).map fun v r' _ h => by cases h
  have nothing : Undoes K r.store r (pure none : RegistryM (Option Validator)) fun v? r' =>
      v? = none → r' = r := .pure good fun _ => rfl
  unfold getSchema
  refine .get_bind ?_
  cases direct : r.store.lookup (normalizeId name) with
  | some entry =>
    simp only [direct]
    exact compiled entry
  | none =>
    simp only [direct]
    cases owner : r.store.lookup (documentPart (normalizeId name)) with
    | none => exact nothing
    | some source =>
      simp only [Option.map_some]
      cases found : r.store.resolve source (normalizeId name) with
      | missing => exact nothing
      | entry id => exact compiled id
      | fragment root base pointer part =>
        obtain ⟨reaches, nonempty, cuts⟩ := Store.resolve_eq_fragment_iff.1 found
        obtain ⟨d, foundD, doc⟩ := reaches.document good.settled.linked
        obtain ⟨entry, isNew, store, eq, settled, spares, fresh⟩ :=
          good.settled.fragment_spares foundD doc nonempty cuts
        simp only [eq]
        refine (Undoes.updateStore good (fun _ => store) settled).bind fun _ r₁ good₁ same => ?_
        rw [← same] at spares
        suffices Undoes K r.store r₁ _ fun _ r' => r₁.store.Spares r'.store from
          this.map fun v r' _ h => by cases h
        cases isNew with
        | true =>
          exact (compileEntry_undoes good₁ entry).orElseRemove good.settled
            (spares.gains good.settled.linked (fresh rfl))
        | false => exact ((compileEntry_undoes good₁ entry).after spares).orElseNothing

/-! ## Validating -/

theorem validate_undoes (good : r.Good K) (name : String) (data : Value) :
    Undoes K r.store r (validate name data) fun _ _ => True := by
  refine (getSchema_undoes good name).bind fun v? r₁ good₁ same => ?_
  cases v? with
  | none => exact .throw good₁ (by rw [same rfl]; exact .refl _) _
  | some v =>
    refine (apply_undoes good₁ v data).bind fun violations r₂ good₂ _ => ?_
    exact (record_undoes good₂ violations).imp fun _ _ _ => trivial

theorem validateValue_undoes (good : r.Good K) (document : Document) (data : Value) :
    Undoes K r.store r (validateValue document data) fun _ _ => True := by
  refine (compile_undoes good document).bind fun v r₁ good₁ _ => ?_
  refine (apply_undoes good₁ v data).bind fun violations r₂ good₂ _ => ?_
  exact (record_undoes good₂ violations).imp fun _ _ _ => trivial

/-- After any operations, an operation that takes a document in, compiles one or validates data
    spares what is there if it fails: the documents with their marks, the tables that lead to
    them, and what is compiled. -/
theorem run_spares (options : Options) (operations : List Operation) :
    let r := (create options).run operations
    (∀ document add, (addSchemaWith document add).Spares r) ∧
      (∀ document, (compile document).Spares r) ∧ (∀ name, (getSchema name).Spares r) ∧
      (∀ name data, (validate name data).Spares r) ∧
      ∀ document data, (validateValue document data).Spares r := by
  intro r
  have good : r.Good fun _ _ => True := reached_good options operations
  exact ⟨fun document add => (addSchemaWith_undoes good document add).spares,
    fun document => (compile_undoes good document).spares,
    fun name => (getSchema_undoes good name).spares,
    fun name data => (validate_undoes good name data).spares,
    fun document data => (validateValue_undoes good document data).spares⟩

end Registry

end JsonSchema
