import JsonSchema.Proofs.Registry.Reachable
import JsonSchema.Proofs.Registry.Sparing
import Mathlib.Logic.Relation

/-!
# The steps of operations

Operations change a store in few ways. What each of these ways keeps is kept by every run of
operations, failed ones included.

* `Store.Change`: the ways in which a store is changed, by a compilation or by an `Edit`.
* `Store.Steps`: changes one after the other, from one store with tables that agree to the next.
* `RegistryM.Moves`: an operation makes such steps only, and leaves the options alone;
  `Operation.after_moves`, `Registry.run_steps`: so do all operations, and runs of operations.
-/

namespace JsonSchema

namespace Store

/-- The ways in which a store is changed while nothing is compiled. With `all`, documents that are no
    meta-schemas are found by their identifiers. -/
inductive Edit (all : Bool) (s : Store) : Store → Prop
  /-- A part of a document gets a place. -/
  | fragment {root : EntryId} {base pointer : String} {part : Value}
      (spares : s.Spares (s.fragment root base pointer part).2.2) :
      Edit all s (s.fragment root base pointer part).2.2
  /-- A document is taken in, and may be found by its identifier. -/
  | insert {e : Entry} {key : CacheKey} {named : Bool} (doc : e.pointer = "")
      (new : e.progress = .notStarted)
      (fresh : named = true → s.schemas.find? e.id = none ∧ s.refs.find? e.id = none)
      (listed : all = true → e.isMeta = false → e.id ≠ "" → named = true) :
      Edit all s (s.insertDocument e key named)
  /-- A document gets a name that is not in use. -/
  | name {name : String} {id : EntryId} (free : s.schemas.find? name = none)
      (agree : ∀ b, s.refs.find? name = some b → b = id) : Edit all s (s.bindName name id)
  /-- A document becomes a meta-schema with its fragments. -/
  | promote (root : EntryId) : Edit all s (s.promote (s.membersOf root))
  /-- An entry is removed. -/
  | remove (id : EntryId) : Edit all s (s.remove id)

/-- The ways in which a store is changed under some options. -/
inductive Change (options : Options) (s : Store) : Store → Prop
  /-- An entry is compiled, or its compilation fails. -/
  | compile {compiler : Compiler} (under : compiler.options = options) (consistent : s.Consistent)
      (id : EntryId) (spares : s.Spares (compiler.compile id s).2.1) :
      Change options s (compiler.compile id s).2.1
  | edit {s' : Store} (edit : s.Edit options.addUsedSchema s') : Change options s s'

/-- A change that keeps the agreement of the tables, and gives no place out twice. -/
structure Step (options : Options) (s s' : Store) : Prop where
  linked : s.Linked
  linked' : s'.Linked
  succeeds : s.Succeeds s'
  change : s.Change options s'

/-- Several changes, one after the other. -/
abbrev Steps (options : Options) : Store → Store → Prop := Relation.ReflTransGen (Step options)

theorem Steps.succeeds {options : Options} {s s' : Store} (steps : Steps options s s') : s.Succeeds s' := by
  induction steps with
  | refl => exact .refl s
  | tail _ step ih => exact ih.trans step.succeeds

end Store

/-! ## Operations on registries -/

namespace RegistryM

open Registry (Good)

variable {K : EntryId → Compiler → Prop} {α β : Type} {r : Registry} {m : RegistryM α}
  {post : α → Registry → Prop}

theorem after_of_ok {a : α} {r' : Registry} (h : m r = .ok a r') : m.after r = r' := by
  unfold after
  rw [h]

theorem after_of_error {e : SchemaError} {r' : Registry} (h : m r = .error e r') :
    m.after r = r' := by
  unfold after
  rw [h]

/-- What is left by an operation that is undone: nothing is undone unless it fails. -/
theorem after_orElseUndo_ok {undo : RegistryM Unit} {a : α} {r' : Registry} (h : m r = .ok a r') :
    (Registry.orElseUndo m undo).after r = r' := by
  refine after_of_ok (a := a) ?_
  unfold Registry.orElseUndo
  show EStateM.tryCatch m _ r = _
  unfold EStateM.tryCatch
  rw [h]

theorem after_orElseUndo_error {undo : RegistryM Unit} {e : SchemaError} {r' : Registry}
    (h : m r = .error e r') : (Registry.orElseUndo m undo).after r = undo.after r' := by
  have caught : Registry.orElseUndo m undo r =
      (undo >>= fun _ => (MonadExcept.throw e : RegistryM α)) r' := by
    unfold Registry.orElseUndo
    show EStateM.tryCatch m _ r = _
    unfold EStateM.tryCatch
    rw [h]
    rfl
  cases undone : undo r' with
  | ok _ r'' =>
    rw [after_of_ok undone]
    exact after_of_error (caught.trans (bind_ok undone))
  | error _ r'' =>
    rw [after_of_error undone]
    exact after_of_error (caught.trans (bind_error undone))

/-- An operation leaves the options alone and changes the store by steps, whatever its outcome. -/
def Moves (r : Registry) (m : RegistryM α) : Prop :=
  (m.after r).options = r.options ∧
    Store.Steps r.options r.store (m.after r).store

namespace Moves

theorem of_same (options : (m.after r).options = r.options)
    (store : (m.after r).store = r.store) : Moves r m := by
  refine ⟨options, ?_⟩
  rw [store]

theorem pure (a : α) : Moves r (pure a : RegistryM α) := of_same rfl rfl

theorem throw (e : SchemaError) : Moves r (MonadExcept.throw e : RegistryM α) := of_same rfl rfl

theorem throw_bind (e : SchemaError) (f : β → RegistryM α) :
    Moves r (MonadExcept.throw e >>= f) := of_same rfl rfl

theorem get_bind {f : Registry → RegistryM α} (rest : Moves r (f r)) : Moves r (get >>= f) := rest

theorem lift (x : Except SchemaError α) : Moves r (Registry.lift x) := by
  cases x with
  | ok a => exact pure a
  | error e => exact throw e

/-- The second operation begins with the same options. -/
theorem bindWith {f : α → RegistryM β} (first : Moves r m) (ensured : Ensures K r m post)
    (second : ∀ a r', Good K r' → r'.options = r.options → post a r' → Moves r' (f a)) :
    Moves r (m >>= f) := by
  cases hm : m r with
  | error e r' =>
    rw [Moves, after_of_error (bind_error hm), ← after_of_error hm]
    exact first
  | ok a r' =>
    have same : (m >>= f).after r = (f a).after r' := by
      unfold after
      rw [bind_ok hm]
    rw [Moves, after_of_ok hm] at first
    obtain ⟨good', ha⟩ := ensured.of_ok hm
    obtain ⟨options, steps⟩ := second a r' good' first.1 ha
    rw [first.1] at options steps
    rw [Moves, same]
    exact ⟨options, first.2.trans steps⟩

theorem bind {f : α → RegistryM β} (first : Moves r m) (ensured : Ensures K r m post)
    (second : ∀ a r', Good K r' → post a r' → Moves r' (f a)) : Moves r (m >>= f) :=
  first.bindWith ensured fun a r' good _ => second a r' good

theorem map {f : α → β} (first : Moves r m) (ensured : Ensures K r m post) : Moves r (f <$> m) := by
  rw [map_eq_pure_bind]
  exact first.bind ensured fun _ _ _ _ => pure _

/-- A step that changes neither the store nor the options. -/
theorem quiet {change : Registry → Registry} (store : (change r).store = r.store)
    (options : (change r).options = r.options) : Moves r (modify change) :=
  of_same options store

/-- A change of the store. -/
theorem updateStore {change : Store → Store} (good : Good K r) (good' : (change r.store).Settled K)
    (succeeds : r.store.Succeeds (change r.store))
    (step : r.store.Change r.options (change r.store)) :
    Moves r (Registry.updateStore change) :=
  ⟨rfl, .single ⟨good.settled.linked, good'.linked, succeeds, step⟩⟩

theorem remove (good : Good K r) (id : EntryId) :
    Moves r (Registry.updateStore (·.remove id)) :=
  updateStore good (good.settled.remove id) (Store.remove_succeeds _ _) (.edit (.remove id))

/-- An operation that is undone if it fails. -/
theorem orElseUndo (first : Moves r m) (ensured : Ensures K r m post) {undo : RegistryM Unit}
    (second : ∀ r', Good K r' → Moves r' undo) : Moves r (Registry.orElseUndo m undo) := by
  cases hm : m r with
  | ok a r' =>
    rw [Moves, after_orElseUndo_ok hm, ← after_of_ok hm]
    exact first
  | error e r' =>
    have good' : Good K r' := after_of_error hm ▸ ensured.after.1
    obtain ⟨options, steps⟩ := second r' good'
    rw [Moves, after_of_error hm] at first
    rw [first.1] at options steps
    rw [Moves, after_orElseUndo_error hm]
    exact ⟨options, first.2.trans steps⟩

theorem mapM {f : α → RegistryM β} (good : Good K r)
    (ensured : ∀ a r, Good K r → Ensures K r (f a) fun _ _ => True)
    (step : ∀ a r, Good K r → Moves r (f a)) (list : List α) : Moves r (list.mapM f) := by
  induction list generalizing r with
  | nil =>
    rw [List.mapM_nil]
    exact pure []
  | cons a rest ih =>
    rw [List.mapM_cons]
    refine (step a r good).bind (ensured a r good) fun b r' good' _ => ?_
    exact (ih good').bind (Ensures.mapM good' ensured) fun bs r'' _ _ => pure _

theorem foldlM {f : β → α → RegistryM β} (good : Good K r)
    (ensured : ∀ b a r, Good K r → Ensures K r (f b a) fun _ _ => True)
    (step : ∀ b a r, Good K r → Moves r (f b a)) (list : List α) (b : β) :
    Moves r (list.foldlM f b) := by
  induction list generalizing r b with
  | nil => exact pure b
  | cons a rest ih =>
    rw [List.foldlM_cons]
    exact (step b a r good).bind (ensured b a r good) fun b' r' good' _ => ih good' b'

end Moves

end RegistryM

namespace Registry

open RegistryM (Moves Ensures)

variable {K : EntryId → Compiler → Prop} {r : Registry}

/-! ## Compiling and checking -/

theorem trace_moves (events : List Event) : Moves r (trace events) := .quiet rfl rfl

theorem compileEntry_moves (good : r.Good K) (id : EntryId) : Moves r (compileEntry id) := by
  unfold compileEntry
  refine .get_bind ?_
  by_cases compiled : r.isCompiled id = true
  · rw [if_pos compiled]
    exact Moves.get_bind (.pure _)
  · have settled := Compiler.compile_settled good.settled good.current id
    have spares := Compiler.compile_spares good.settled good.current id
    have succeeds := Compiler.compile_succeeds good.settled good.current id
    have change : r.store.Change r.options (r.compiler.compile id r.store).2.1 :=
      .compile rfl good.settled.consistent id spares
    rw [if_neg compiled]
    generalize r.compiler.compile id r.store = result at settled succeeds change
    obtain ⟨outcome, store, events⟩ := result
    have changed : Ensures K r (modify fun r => { r with store := store }) fun _ _ => True :=
      .update ⟨settled, good.current⟩ succeeds trivial
    have moved : Moves r (modify fun r => { r with store := store } : RegistryM PUnit) :=
      ⟨rfl, .single ⟨good.settled.linked, settled.linked, succeeds, change⟩⟩
    refine moved.bind changed fun _ r₁ good₁ _ => ?_
    refine (trace_moves events).bind (trace_ensures good₁ events) fun _ r₂ good₂ _ => ?_
    exact (Moves.lift outcome).bind (.lift good₂ outcome) fun _ r₃ _ _ => .get_bind (.pure _)

theorem record_moves (good : r.Good K) (violations : Violations) : Moves r (record violations) := by
  unfold record
  refine Moves.bind (.quiet ?_ ?_) (Ensures.quiet good _ ?_ ?_) fun _ _ _ _ => .pure _ <;> rfl

theorem apply_moves (good : r.Good K) (validator : Validator) (data : Value) :
    Moves r (apply validator data) := by
  unfold apply
  exact .get_bind ((trace_moves _).bind (trace_ensures good _) fun _ _ _ _ => .pure _)

theorem validateAgainst_moves (good : r.Good K) (metaSchema : EntryId) (document : Value)
    (refuse : Bool) : Moves r (validateAgainst metaSchema document refuse) := by
  refine (compileEntry_moves good metaSchema).bind (compileEntry_ensures good metaSchema)
    fun v r₁ good₁ _ => ?_
  refine (apply_moves good₁ v document).bind (apply_ensures good₁ v document)
    fun violations r₂ good₂ _ => ?_
  refine (record_moves good₂ violations).bind (record_ensures good₂ violations)
    fun passed r₃ good₃ _ => ?_
  cases passed with
  | true => exact .pure _
  | false =>
    refine .get_bind ?_
    split
    · exact .throw_bind _ _
    · exact .pure _

theorem missingMeta_moves (good : r.Good K) (metaId : String) (refuse : Bool) :
    Moves r (missingMeta metaId refuse) := by
  unfold missingMeta
  refine .get_bind ?_
  cases r.options.missingMeta with
  | permissive => exact .pure _
  | strict =>
    refine (record_moves good _).bind (record_ensures good _) fun _ _ _ _ => ?_
    cases refuse with
    | true => exact .throw_bind _ _
    | false => exact .pure _

theorem validateSchema_moves (good : r.Good K) (document : Value) (refuse : Bool) :
    Moves r (validateSchema document refuse) := by
  unfold validateSchema
  refine .get_bind ?_
  simp only
  split
  · exact validateAgainst_moves good _ document refuse
  · exact missingMeta_moves good _ refuse

/-! ## Taking documents in -/

theorem checkOwn_moves (good : r.Good K) (entry : EntryId) (document : Value) (own : Bool) :
    Moves r (checkOwn entry document own) := by
  cases own with
  | false => exact .pure _
  | true =>
    have ensured : Ensures K r (orElseUndo (validateAgainst entry document true)
        (updateStore (·.remove entry))) fun _ r' => r.store.Retains r'.store :=
      (validateAgainst_ensures good entry document true).orElseUndo
        fun r' good' => .remove good' entry
    refine Moves.bind (.orElseUndo (validateAgainst_moves good entry document true)
      (validateAgainst_ensures good entry document true) fun r' good' => .remove good' entry) ensured
      fun _ _ _ _ => .pure _

theorem placeEntry_moves (good : r.Good K) (vocabulary : VocabularyTable) (document : Value)
    {key : CacheKey} {id : String} {isMeta named : Bool} (own : Bool)
    (free : r.store.cache.find? key = none)
    (fresh : named = true → r.store.schemas.find? id = none ∧ r.store.refs.find? id = none)
    (listed : r.options.addUsedSchema = true → isMeta = false → id ≠ "" → named = true) :
    Moves r (placeEntry vocabulary document key id isMeta named own) := by
  refine (Moves.lift _).bind (.lift good _) fun index r₁ good₁ ⟨_, same⟩ => ?_
  subst same
  let e : Entry :=
    { id, document, localRefs := index.localRefs, refTargets := index.refTargets
      cacheKey := some key, isMeta, root := ⟨r₁.store.entries.size⟩ }
  have settled : (r₁.store.insertDocument e key named).Settled K :=
    good₁.settled.insertDocument rfl rfl rfl free fresh
  refine .get_bind (Moves.bind (.updateStore good₁ settled Store.insertDocument_succeeds ?_)
    (.updateStore good₁ (fun _ => r₁.store.insertDocument e key named) settled
      Store.insertDocument_succeeds) fun _ r₂ good₂ _ => checkOwn_moves good₂ _ document own)
  exact .edit (.insert rfl rfl fresh listed)

theorem insertEntry_moves (good : r.Good K) (document : Document) {key : CacheKey}
    (id : String) {isMeta register : Bool} (validate : Bool)
    (free : r.store.cache.find? key = none)
    (listed : r.options.addUsedSchema = true → isMeta = false → register = true) :
    Moves r (insertEntry document key id isMeta validate register) := by
  unfold insertEntry
  refine .get_bind ?_
  by_cases taken : (register && !id.isEmpty && r.store.isTaken id) = true
  · rw [if_pos taken]
    exact .throw_bind _ _
  · rw [if_neg taken]
    have fresh : (register && !id.isEmpty) = true →
        r.store.schemas.find? id = none ∧ r.store.refs.find? id = none := by
      intro h
      rw [h, Bool.true_and, Bool.not_eq_true] at taken
      exact Store.Linked.isTaken_eq_false_iff.1 taken
    have listed : r.options.addUsedSchema = true → isMeta = false → id ≠ "" →
        (register && !id.isEmpty) = true := by
      intro all plain nonempty
      rw [listed all plain, Bool.true_and, Bool.not_eq_true', ← Bool.not_eq_true,
        String.isEmpty_iff]
      exact nonempty
    let checked := validate && r.options.validateSchema ≠ .disabled
    let isOwnMeta := !id.isEmpty && document.value.metaSchemaId? = some id
    by_cases other : (checked && !isOwnMeta) = true
    · rw [if_pos other]
      refine (validateSchema_moves good document.value true).bindWith
        (validateSchema_ensures good document.value true) fun _ r₁ good₁ options retains => ?_
      rw [← retains.cache] at free
      rw [← retains.schemas, ← retains.refs] at fresh
      rw [← options] at listed
      exact placeEntry_moves good₁ r.vocabulary document.value (checked && isOwnMeta) free fresh
        listed
    · rw [if_neg other]
      exact placeEntry_moves good r.vocabulary document.value (checked && isOwnMeta) free fresh
        listed

theorem addEntry_moves (good : r.Good K) (document : Document) (id : String)
    {isMeta register : Bool} (validate : Bool)
    (listed : r.options.addUsedSchema = true → isMeta = false → register = true) :
    Moves r (addEntry document id isMeta validate register) := by
  unfold addEntry
  refine .get_bind ?_
  cases known : (r.store.cache.find? (r.options.serialize.key document)).bind fun entry =>
      (r.store.entry? entry).map (entry, ·) with
  | none =>
    simp only [known]
    have free : r.store.cache.find? (r.options.serialize.key document) = none := by
      refine Option.eq_none_iff_forall_ne_some.2 fun entry cached => ?_
      obtain ⟨e, found, -⟩ := good.settled.linked.cached _ (Bindings.mem_of_find? cached)
      rw [cached, Option.bind_some, found] at known
      cases known
    exact insertEntry_moves good document id validate free listed
  | some known_ =>
    simp only [known]
    split
    · exact Moves.bind (.updateStore good (good.settled.promote known_.1)
        (Store.promote_succeeds _ _) (.edit (.promote known_.1))) (promote_ensures good known_.1)
        fun _ _ _ _ => .pure _
    · exact .pure _

theorem nameEntry_moves {r' : Registry} {document : Value} {cacheKey : CacheKey} {id : String}
    {entry : EntryId} (good' : r'.Good K) (took : Took r document cacheKey id entry r')
    {key : String} (untaken : ¬ (!key.isEmpty && r.store.isTaken key) = true) :
    Moves r' (nameEntry entry key) := by
  unfold nameEntry
  by_cases empty : key.isEmpty = true
  · rw [if_pos empty]
    exact .pure _
  · rw [if_neg empty]
    rw [Bool.not_eq_true] at empty
    rw [empty, Bool.not_false, Bool.true_and, Bool.not_eq_true] at untaken
    obtain ⟨free, unused⟩ := Store.Linked.isTaken_eq_false_iff.1 untaken
    obtain ⟨e, found, doc, -⟩ := took.entry
    have free' : r'.store.schemas.find? key = none := by rw [took.schemas]; exact free
    have agree : ∀ b, r'.store.refs.find? key = some b → b = entry := by
      intro b h
      refine (took.refs key b h).resolve_left fun old => ?_
      rw [unused] at old
      cases old
    have settled := good'.settled.bindName found doc free' agree
    have succeeds : r'.store.Succeeds (r'.store.bindName key entry) :=
      .of_extends (Nat.le_refl _) fun _ _ h => .inl h
    exact Moves.bind (.updateStore good' settled succeeds (.edit (.name free' agree)))
      (.updateStore good' (fun store => store.bindName key entry) settled succeeds)
      fun _ _ _ _ => .pure _

theorem addSchemaWith_moves (good : r.Good K) (document : Document) (options : AddOptions) :
    Moves r (addSchemaWith document options) := by
  unfold addSchemaWith
  refine (Moves.lift _).bind (.lift good document.value.schemaId) fun id r₁ good₁ ⟨_, same⟩ => ?_
  subst same
  generalize normalizeId (options.key.getD id) = key
  refine .get_bind ?_
  by_cases taken : (!key.isEmpty && r₁.store.isTaken key) = true
  · rw [if_pos taken]
    exact .throw_bind _ _
  · rw [if_neg taken]
    exact (addEntry_moves good₁ document id (!options.skipValidation) fun _ _ => rfl).bind
      (addEntry_ensures good₁ document id options.isMeta (!options.skipValidation) true)
      fun entry r₂ good₂ took => nameEntry_moves good₂ took taken

theorem copy_moves (good : r.Good K) (value : Value) : Moves r (copy value) := by
  unfold copy
  refine .get_bind (Moves.bind (.quiet ?_ ?_) (Ensures.quiet good _ ?_ ?_) fun _ _ _ _ => .pure _)
    <;> rfl

theorem installMeta_moves (good : r.Good K) : Moves r installMeta := by
  unfold installMeta
  refine (copy_moves good _).bind (copy_ensures good _) fun document r₁ good₁ _ => ?_
  refine (addSchemaWith_moves good₁ document _).bind (addSchemaWith_ensures good₁ document _)
    fun _ r₂ _ _ => .quiet ?_ ?_ <;> rfl

theorem addSchemas_moves (good : r.Good K) (documents : List Document) :
    Moves r (addSchemas documents) :=
  .mapM good (fun document _ good => addSchemaWith_ensures good document _)
    (fun document _ good => addSchemaWith_moves good document _) documents

/-! ## Finding documents -/

theorem compile_moves (good : r.Good K) (document : Document) : Moves r (compile document) := by
  refine (Moves.lift _).bind (.lift good _) fun id r₁ good₁ ⟨_, same⟩ => ?_
  subst same
  refine .get_bind ?_
  refine (addEntry_moves good₁ document id true fun all _ => all).bind
    (addEntry_ensures good₁ document id false true r₁.options.addUsedSchema)
    fun entry r₂ good₂ _ => ?_
  refine .orElseUndo (compileEntry_moves good₂ entry) (compileEntry_ensures good₂ entry)
    fun r' good' => ?_
  split
  · exact .pure _
  · exact .remove good' entry

theorem getSchema_moves (good : r.Good K) (name : String) : Moves r (getSchema name) := by
  have compiled : ∀ id : EntryId, Moves r (some <$> compileEntry id) := fun id =>
    (compileEntry_moves good id).map (compileEntry_ensures good id)
  unfold getSchema
  refine .get_bind ?_
  cases direct : r.store.lookup (normalizeId name) with
  | some entry =>
    simp only [direct]
    exact compiled entry
  | none =>
    simp only [direct]
    cases owner : r.store.lookup (documentPart (normalizeId name)) with
    | none => exact .pure _
    | some source =>
      simp only [Option.map_some]
      cases found : r.store.resolve source (normalizeId name) with
      | missing => exact .pure _
      | entry id => exact compiled id
      | fragment root base pointer part =>
        obtain ⟨reaches, nonempty, cuts⟩ := Store.resolve_eq_fragment_iff.1 found
        obtain ⟨d, foundD, doc⟩ := reaches.document good.settled.linked
        obtain ⟨entry, isNew, store, eq, settled, succeeds⟩ :=
          good.settled.fragment foundD doc nonempty cuts
        obtain ⟨_, _, _, eq', -, spares, -⟩ :=
          good.settled.fragment_spares foundD doc nonempty cuts
        rw [eq] at eq'
        cases eq'
        have change : r.store.Change r.options store := by
          have fragment := congrArg (·.2.2) eq
          dsimp only at fragment
          subst fragment
          exact .edit (.fragment spares)
        simp only [eq]
        refine Moves.bind (.updateStore good settled succeeds change)
          (.updateStore good (fun _ => store) settled succeeds) fun _ r₁ good₁ _ => ?_
        have undo : ∀ r', r'.Good K →
            Moves r' (if isNew then updateStore (·.remove entry) else pure ()) ∧
              Ensures K r' (if isNew then updateStore (·.remove entry) else pure ())
                fun _ _ => True := by
          intro r' good'
          cases isNew with
          | true => exact ⟨.remove good' entry, .remove good' entry⟩
          | false => exact ⟨.pure _, .pure good' trivial⟩
        exact Moves.map (.orElseUndo (compileEntry_moves good₁ entry)
          (compileEntry_ensures good₁ entry) fun r' good' => (undo r' good').1)
          ((compileEntry_ensures good₁ entry).orElseUndo fun r' good' => (undo r' good').2)

theorem missingDocuments_moves (good : r.Good K) (document : Value) :
    Moves r (missingDocuments document) := by
  unfold missingDocuments
  refine .get_bind ((Moves.lift _).bind (.lift good _) fun id r₁ good₁ _ => ?_)
  exact (Moves.lift _).bind (.lift good₁ _) fun index r₂ _ _ => .pure _

theorem validate_moves (good : r.Good K) (name : String) (data : Value) :
    Moves r (validate name data) := by
  refine (getSchema_moves good name).bind (getSchema_ensures good name) fun v? r₁ good₁ _ => ?_
  cases v? with
  | none => exact .throw _
  | some v =>
    exact (apply_moves good₁ v data).bind (apply_ensures good₁ v data)
      fun violations r₂ good₂ _ => record_moves good₂ violations

theorem validateValue_moves (good : r.Good K) (document : Document) (data : Value) :
    Moves r (validateValue document data) :=
  (compile_moves good document).bind (compile_ensures good document) fun v _ good₁ _ =>
    (apply_moves good₁ v data).bind (apply_ensures good₁ v data) fun violations _ good₂ _ =>
      record_moves good₂ violations

theorem removeSchema_moves (good : r.Good K) (target : RemoveTarget) :
    Moves r (removeSchema target) := by
  refine .get_bind (.foldlM good (fun count id r₁ good₁ => .get_bind ?_)
    (fun count id r₁ good₁ => .get_bind ?_) _ _)
  · exact (Ensures.remove good₁ id).bind fun _ r₂ good₂ _ _ => .pure good₂ trivial
  · exact (Moves.remove good₁ id).bind (.remove good₁ id) fun _ _ _ _ => .pure _

/-! ## Keywords and formats -/

theorem compileValueSchema_ensures (good : r.Good K) (schema : Value) :
    Ensures K r (compileValueSchema schema) fun _ _ => True := by
  refine (Ensures.lift good _).bind fun id r₁ good₁ _ _ => ?_
  refine (copy_ensures good₁ schema).bind fun document r₂ good₂ _ _ => ?_
  refine (addEntry_ensures good₂ document id true true false).bind fun entry r₃ good₃ _ _ => ?_
  exact (compileEntry_ensures good₃ entry).imp fun _ _ _ => trivial

theorem compileValueSchema_moves (good : r.Good K) (schema : Value) :
    Moves r (compileValueSchema schema) := by
  refine (Moves.lift _).bind (.lift good _) fun id r₁ good₁ _ => ?_
  refine (copy_moves good₁ schema).bind (copy_ensures good₁ schema) fun document r₂ good₂ _ => ?_
  exact (addEntry_moves good₂ document id true fun _ plain => by cases plain).bind
    (addEntry_ensures good₂ document id true true false)
    fun entry r₃ good₃ _ => compileEntry_moves good₃ entry

theorem valueValidators_moves (good : r.Good K) (keywords : List Keyword) :
    Moves r (valueValidators keywords) := by
  unfold valueValidators
  refine Moves.bind (.mapM good (fun keyword r₁ good₁ => ?_) (fun keyword r₁ good₁ => ?_) _)
    (.mapM good fun keyword r₁ good₁ => ?_) fun _ _ _ _ => .pure _
  all_goals cases keyword.valueSchema with
    | none => first | exact .pure _ | exact .pure good₁ trivial
    | some schema => first
      | exact (compileValueSchema_moves good₁ schema).map (compileValueSchema_ensures good₁ schema)
      | exact (compileValueSchema_ensures good₁ schema).map fun _ _ _ => trivial

theorem defineWith_moves (good : r.Good K) (validators : List (String × Validator))
    (define : VocabularyTable → Except SchemaError VocabularyTable) :
    Moves r (defineWith validators define) := by
  refine .get_bind ((Moves.lift _).bind (.lift good _) fun table r₁ _ _ => .quiet ?_ ?_) <;> rfl

theorem addKeyword_moves (good : r.Good K) (keyword : Keyword) : Moves r (addKeyword keyword) :=
  (valueValidators_moves good [keyword]).bind (valueValidators_ensures good [keyword])
    fun validators _ good' _ => defineWith_moves good' validators _

theorem addVocabulary_moves (good : r.Good K) (vocabulary : Vocabulary) :
    Moves r (addVocabulary vocabulary) :=
  (valueValidators_moves good vocabulary.keywords).bind
    (valueValidators_ensures good vocabulary.keywords)
    fun validators _ good' _ => defineWith_moves good' validators _

theorem removeKeyword_moves (name : String) : Moves r (removeKeyword name) := by
  unfold removeKeyword
  refine .get_bind ?_
  cases removed : r.vocabulary.removeKeyword name <;> exact .of_same rfl rfl

theorem removeVocabulary_moves (name : String) : Moves r (removeVocabulary name) := by
  unfold removeVocabulary
  refine .get_bind ?_
  cases removed : r.vocabulary.removeVocabulary name <;> exact .of_same rfl rfl

theorem addFormat_moves (name : String) (format : Format) : Moves r (addFormat name format) :=
  .quiet rfl rfl

end Registry

/-! ## Operations that load documents -/

variable {σ α β : Type} {K : EntryId → Compiler → Prop}

namespace LoadM

theorem after_of_ok {m : LoadM σ α} {l l' : Loading σ} {a : α} (h : m l = .ok a l') :
    m.after l = l' := by
  unfold after
  rw [h]

theorem after_of_error {m : LoadM σ α} {l l' : Loading σ} {e : SchemaError} (h : m l = .error e l') :
    m.after l = l' := by
  unfold after
  rw [h]

/-- An operation that may load documents leaves the options alone and changes the store by steps. -/
def Moves (K : EntryId → Compiler → Prop) (m : LoadM σ α) : Prop :=
  ∀ l, l.registry.Good K → (m.after l).registry.Good K ∧
    (m.after l).registry.options = l.registry.options ∧
    Store.Steps l.registry.options l.registry.store (m.after l).registry.store

namespace Moves

theorem of_same {m : LoadM σ α} (same : ∀ l, (m.after l).registry = l.registry) : Moves K m := by
  intro l good
  rw [same]
  exact ⟨good, rfl, .refl⟩

theorem pure (a : α) : Moves K (pure a : LoadM σ α) := of_same fun _ => rfl

theorem throw (e : SchemaError) : Moves K (MonadExcept.throw e : LoadM σ α) := of_same fun _ => rfl

/-- A step that leaves the registry alone. -/
theorem modify {change : Loading σ → Loading σ} (same : ∀ l, (change l).registry = l.registry) :
    Moves K (modify change : LoadM σ PUnit) := of_same same

theorem get_bind {f : Loading σ → LoadM σ α} (rest : ∀ l, Moves K (f l)) :
    Moves K (get >>= f) := fun l good => rest l l good

/-- What two operations do that are run one after the other. -/
theorem andThen {l l' l'' : Loading σ} (first : l'.registry.Good K ∧
      l'.registry.options = l.registry.options ∧
      Store.Steps l.registry.options l.registry.store l'.registry.store)
    (second : l''.registry.Good K ∧ l''.registry.options = l'.registry.options ∧
      Store.Steps l'.registry.options l'.registry.store l''.registry.store) :
    l''.registry.Good K ∧ l''.registry.options = l.registry.options ∧
      Store.Steps l.registry.options l.registry.store l''.registry.store := by
  obtain ⟨-, options, steps⟩ := first
  obtain ⟨good'', options', steps'⟩ := second
  rw [options] at options' steps'
  exact ⟨good'', options', steps.trans steps'⟩

theorem bind {m : LoadM σ α} {f : α → LoadM σ β} (first : Moves K m)
    (second : ∀ a, Moves K (f a)) : Moves K (m >>= f) := by
  intro l good
  have moved := first l good
  have run : (m >>= f) l = EStateM.bind m f l := rfl
  cases hm : m l with
  | error e l' =>
    rw [after_of_error hm] at moved
    rw [after_of_error (run.trans (by rw [EStateM.bind, hm]))]
    exact moved
  | ok a l' =>
    rw [after_of_ok hm] at moved
    have same : (m >>= f).after l = (f a).after l' := by
      unfold after
      rw [run, EStateM.bind, hm]
    rw [same]
    exact andThen moved (second a l' moved.1)

theorem tryCatch {m : LoadM σ α} {f : SchemaError → LoadM σ α} (first : Moves K m)
    (second : ∀ e, Moves K (f e)) : Moves K (tryCatch m f) := by
  intro l good
  have moved := first l good
  have run : (MonadExcept.tryCatch m f : LoadM σ α) l = EStateM.tryCatch m f l := rfl
  cases hm : m l with
  | ok a l' =>
    rw [after_of_ok hm] at moved
    have same : after (MonadExcept.tryCatch m f) l = l' :=
      after_of_ok (run.trans (by rw [EStateM.tryCatch, hm]))
    exact same ▸ moved
  | error e l' =>
    rw [after_of_error hm] at moved
    have same : after (MonadExcept.tryCatch m f) l = (f e).after l' := by
      unfold after
      rw [run, EStateM.tryCatch, hm]
      rfl
    exact same ▸ andThen moved (second e l' moved.1)

theorem mapM {f : α → LoadM σ β} (step : ∀ a, Moves K (f a)) (list : List α) :
    Moves K (list.mapM f) := by
  induction list with
  | nil =>
    rw [List.mapM_nil]
    exact pure _
  | cons a rest ih =>
    rw [List.mapM_cons]
    exact (step a).bind fun _ => ih.bind fun _ => pure _

theorem foldlM {f : β → α → LoadM σ β} (step : ∀ b a, Moves K (f b a)) (list : List α) (b : β) :
    Moves K (list.foldlM f b) := by
  induction list generalizing b with
  | nil => exact pure b
  | cons a rest ih =>
    rw [List.foldlM_cons]
    exact (step b a).bind ih

theorem forM {f : α → LoadM σ PUnit} (step : ∀ a, Moves K (f a)) (list : List α) :
    Moves K (list.forM f) := by
  induction list with
  | nil => exact pure _
  | cons a rest ih => exact (step a).bind fun _ => ih

/-- An operation of the registry. -/
theorem onRegistry {m : RegistryM α} {post : Registry → α → Registry → Prop}
    (ensured : ∀ r, r.Good K → RegistryM.Ensures K r m (post r))
    (moves : ∀ r, r.Good K → RegistryM.Moves r m) :
    Moves K (Loading.onRegistry m : LoadM σ α) := by
  intro l good
  have run : ((Loading.onRegistry m : LoadM σ α).after l).registry = m.after l.registry := by
    unfold after Loading.onRegistry EStateM.run RegistryM.after
    cases m l.registry <;> rfl
  rw [run]
  exact ⟨(ensured l.registry good).after.1, moves l.registry good⟩

end Moves

end LoadM

namespace Loading

open LoadM (Moves)

theorem fetchAll_moves (loader : Loader σ) (uris : List String) :
    Moves K (fetchAll loader uris) := by
  have requested : Moves K (requestAll uris : LoadM σ (List Ticket × List Ticket)) := by
    refine Moves.foldlM (fun b uri => Moves.get_bind fun l => ?_) uris _
    generalize l.fetcher.request uri = asked
    obtain ⟨ticket, starts, fetcher⟩ := asked
    refine Moves.bind (Moves.modify fun _ => rfl) fun _ => ?_
    cases starts with
    | false => exact Moves.pure _
    | true =>
      exact Moves.bind (Moves.onRegistry (fun _ good => Registry.trace_ensures good _)
        fun _ _ => Registry.trace_moves _) fun _ => Moves.pure _
  refine requested.bind fun found => ?_
  have ran : ∀ ticket, Moves K (runLoad loader ticket) := fun _ => Moves.modify fun _ => rfl
  refine Moves.bind (Moves.forM ran _) fun _ => ?_
  refine Moves.mapM (fun ticket => Moves.get_bind fun l => ?_) _
  cases l.fetcher.collect ticket with
  | none => exact Moves.pure _
  | some found => exact Moves.bind (Moves.modify fun _ => rfl) fun _ => Moves.pure _

theorem add_moves (document : Document) (options : Registry.AddOptions) :
    Moves K (onRegistry (Registry.addSchemaWith document options) : LoadM σ EntryId) :=
  Moves.onRegistry (fun _ good => Registry.addSchemaWith_ensures good document options)
    fun _ good => Registry.addSchemaWith_moves good document options

theorem addLoaded_moves (loader : Loader σ) (uri : String) (document : Document) :
    Moves K (addLoaded loader uri document) := by
  have known : ∀ name, Moves K (isKnown name : LoadM σ Bool) := fun name =>
    Moves.get_bind fun _ => Moves.pure _
  have fetched : ∀ uri, Moves K (fetch loader uri) := fun uri => by
    refine Moves.bind (fetchAll_moves loader [uri]) fun results => ?_
    split
    · exact Moves.pure _
    · exact Moves.throw _
    · exact Moves.throw _
  have last : Moves K (do
      let _ ← onRegistry (Registry.addSchema document (some uri))
      pure PUnit.unit : LoadM σ PUnit) := (add_moves document _).bind fun _ => Moves.pure _
  unfold addLoaded
  refine Moves.bind (known uri) fun isKnown => ?_
  cases isKnown with
  | true => exact Moves.pure _
  | false =>
    cases document.value.metaSchemaId? with
    | none => exact last
    | some metaId =>
      refine Moves.bind (known metaId) fun isKnown => ?_
      by_cases absent : (decide (metaId ≠ uri) && !isKnown) = true
      · rw [if_pos absent]
        exact Moves.bind (fetched metaId) fun metaSchema => (add_moves metaSchema _).bind fun _ => last
      · rw [if_neg absent]
        exact last

theorem supply_moves (loader : Loader σ) (document : Value) (missing : String) :
    Moves K (supply loader document missing) := by
  unfold supply
  refine Moves.bind (Moves.onRegistry (fun _ good => Registry.missingDocuments_ensures good document)
    fun _ good => Registry.missingDocuments_moves good document) fun others => ?_
  refine Moves.bind (fetchAll_moves loader _) fun results => ?_
  refine Moves.forM (fun loaded => ?_) _
  obtain ⟨uri, result⟩ := loaded
  cases result with
  | ok loaded => exact addLoaded_moves loader uri loaded
  | error e => exact Moves.throw e

theorem compile_moves (loader : Loader σ) (document : Document) (rounds : Nat) :
    Moves K (compile loader document rounds) := by
  have direct : Moves K (onRegistry (Registry.compile document) : LoadM σ Validator) :=
    Moves.onRegistry (fun _ good => Registry.compile_ensures good document)
      fun _ good => Registry.compile_moves good document
  induction rounds with
  | zero => exact direct
  | succ rounds ih =>
    refine Moves.tryCatch direct fun e => ?_
    cases e with
    | missing reference missing =>
      have retry : Moves K (do
          supply loader document.value missing
          compile loader document rounds) := (supply_moves loader document.value missing).bind fun _ => ih
      refine Moves.bind (Moves.get_bind fun _ => Moves.pure _) fun known => ?_
      by_cases final : (missing.isEmpty || known) = true
      · rw [if_pos final]
        exact (Moves.throw (α := PUnit) _).bind fun _ => retry
      · rw [if_neg final]
        exact retry
    | _ => exact Moves.throw _

end Loading

/-! ## Runs -/

namespace Operation

variable {r : Registry}

/-- An operation leaves the options alone and changes the store by steps, whatever its outcome. -/
theorem after_moves (good : r.Good K) (operation : Operation) :
    (operation.after r).options = r.options ∧
      Store.Steps r.options r.store (operation.after r).store := by
  cases operation with
  | add document options => exact Registry.addSchemaWith_moves good document options
  | addAll documents => exact Registry.addSchemas_moves good documents
  | compile document => exact Registry.compile_moves good document
  | compileWith loader source fetcher document rounds =>
    exact (Loading.compile_moves loader document rounds { registry := r, fetcher, source } good).2
  | get name => exact Registry.getSchema_moves good name
  | check document refuse => exact Registry.validateSchema_moves good document refuse
  | validate name data => exact Registry.validate_moves good name data
  | validateValue document data => exact Registry.validateValue_moves good document data
  | remove target => exact Registry.removeSchema_moves good target
  | addKeyword keyword => exact Registry.addKeyword_moves good keyword
  | addVocabulary vocabulary => exact Registry.addVocabulary_moves good vocabulary
  | removeKeyword name => exact Registry.removeKeyword_moves name
  | removeVocabulary name => exact Registry.removeVocabulary_moves name
  | addFormat name format => exact Registry.addFormat_moves name format

end Operation

namespace Registry

variable {r : Registry}

/-- Operations leave the options alone and change the store by steps. -/
theorem run_steps (good : r.Good K) (operations : List Operation)
    (any : ∀ compiler id, K id compiler) :
    (r.run operations).options = r.options ∧
      Store.Steps r.options r.store (r.run operations).store := by
  induction operations generalizing r with
  | nil => exact ⟨rfl, .refl⟩
  | cons operation rest ih =>
    obtain ⟨options, steps⟩ := operation.after_moves good
    obtain ⟨options', steps'⟩ := ih (operation.after_good good fun compiler _ => any compiler).1
    rw [options] at options' steps'
    exact ⟨options', steps.trans steps'⟩

/-- A registry that was reached has the options that it was created with, and a store that was
    changed by steps, beginning with nothing. -/
theorem reached_steps (options : Options) (operations : List Operation) :
    ((create options).run operations).options = options ∧
      Store.Steps options {} ((create options).run operations).store := by
  have start : Good (fun _ _ => True) (blank options) := ⟨Store.settled_empty _, fun _ => trivial⟩
  have created : (create options).options = options ∧
      Store.Steps options {} (create options).store := by
    rw [create_eq]
    split
    · exact installMeta_moves start
    · exact ⟨rfl, .refl⟩
  obtain ⟨options', steps⟩ :=
    run_steps (create_good (K := fun _ _ => True) options fun _ => trivial) operations
      fun _ _ => trivial
  rw [created.1] at options' steps
  exact ⟨options', created.2.trans steps⟩

end Registry

end JsonSchema
