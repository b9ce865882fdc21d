import JsonSchema.Proofs.Registry.Changes
import JsonSchema.Registry.Keywords
import JsonSchema.Registry.Removal

/-!
# Operations of a registry

Every operation leaves a settled store, whether it succeeds or fails, and gives no place out
twice.

* `Registry.Good`: what holds between two operations.
* `RegistryM.Ensures`: the rule by which operations are put together.
* `Registry.compileEntry_ensures`, `Registry.addEntry_ensures`, `Registry.compile_ensures`,
  `Registry.getSchema_ensures` and the others: one rule for each operation.
-/

namespace JsonSchema

/-- What holds of a registry between two operations: its store is settled, and what was
    compiled was compiled by one of some compilers, such as the registry has now. -/
structure Registry.Good (K : EntryId → Compiler → Prop) (r : Registry) : Prop where
  settled : r.store.Settled K
  current : ∀ id, K id r.compiler

theorem Registry.Good.weaken {K K' : EntryId → Compiler → Prop} {r : Registry}
    (h : ∀ id compiler, K id compiler → K' id compiler) (good : r.Good K) : r.Good K' where
  settled := good.settled.weaken h
  current id := h id _ (good.current id)

/-- What holds of compilers for all entries holds of the one that is used now. -/
theorem Registry.Good.now {K : Compiler → Prop} {r : Registry} (good : r.Good fun _ => K) :
    K r.compiler := good.current ⟨0⟩

namespace RegistryM

open Registry (Good)

variable {K : EntryId → Compiler → Prop} {α β : Type} {r : Registry} {m : RegistryM α}
  {post : α → Registry → Prop}

/-- An operation on a registry either succeeds with a result as described, or fails; in both
    cases the registry is good then, and no place was given out twice. -/
def Ensures (K : EntryId → Compiler → Prop) (r : Registry) (m : RegistryM α)
    (post : α → Registry → Prop) : Prop :=
  match m r with
  | .ok a r' => Good K r' ∧ r.store.Succeeds r'.store ∧ post a r'
  | .error _ r' => Good K r' ∧ r.store.Succeeds r'.store

/-- What an operation on a registry leaves, whatever its outcome. -/
def after (m : RegistryM α) (r : Registry) : Registry :=
  match m r with
  | .ok _ r' | .error _ r' => r'

/-- What an operation on a registry returns, if it succeeds, is as described. -/
def Returns (m : RegistryM α) (r : Registry) (post : α → Registry → Prop) : Prop :=
  match m r with
  | .ok a r' => post a r'
  | .error _ _ => True

theorem after_eq (m : RegistryM α) (r : Registry) :
    m.after r = match m.run r with | .ok _ r' | .error _ r' => r' := by
  unfold after EStateM.run
  cases m r <;> rfl

theorem bind_ok {f : α → RegistryM β} {r' : Registry} {a : α} (h : m r = .ok a r') :
    (m >>= f) r = f a r' := by
  show EStateM.bind m f r = _
  rw [EStateM.bind, h]

theorem get_bind (f : Registry → RegistryM α) (r : Registry) :
    ((get : RegistryM Registry) >>= f) r = f r r := rfl

theorem bind_error {f : α → RegistryM β} {r' : Registry} {e : SchemaError}
    (h : m r = .error e r') : (m >>= f) r = .error e r' := by
  show EStateM.bind m f r = _
  rw [EStateM.bind, h]

/-- An operation that gives a result succeeds with it. -/
theorem exists_ok_of_run'_eq {a : α} (h : m.run' r = some a) : ∃ r', m r = .ok a r' := by
  unfold EStateM.run' EStateM.run at h
  cases run : m r with
  | ok b r' =>
    rw [run] at h
    cases h
    exact ⟨r', rfl⟩
  | error e r' =>
    rw [run] at h
    cases h

/-- An operation that gives a result succeeds. -/
theorem exists_ok_of_run' (h : (m.run' r).isSome = true) : ∃ a r', m r = .ok a r' := by
  obtain ⟨a, given⟩ := Option.isSome_iff_exists.1 h
  exact ⟨a, exists_ok_of_run'_eq given⟩

/-- What an operation returned is as described. -/
theorem Returns.of_ok (h : m.Returns r post) {a : α} {r' : Registry} (ok : m r = .ok a r') :
    post a r' := by
  unfold Returns at h
  rw [ok] at h
  exact h

namespace Returns

theorem intro (h : ∀ a r', m r = .ok a r' → post a r') : m.Returns r post := by
  unfold Returns
  cases hm : m r with
  | error e r' => trivial
  | ok a r' => exact h a r' hm

theorem imp {post' : α → Registry → Prop} (h : m.Returns r post)
    (weaken : ∀ a r', post a r' → post' a r') : m.Returns r post' :=
  .intro fun a r' ok => weaken a r' (h.of_ok ok)

theorem bind {f : α → RegistryM β} {post' : β → Registry → Prop}
    (second : ∀ a r', m r = .ok a r' → (f a).Returns r' post') : (m >>= f).Returns r post' := by
  unfold Returns
  cases first : m r with
  | error e r' =>
    rw [bind_error first]
    trivial
  | ok a r' =>
    rw [bind_ok first]
    exact second a r' first

theorem get_bind {f : Registry → RegistryM α} (rest : (f r).Returns r post) :
    (get >>= f).Returns r post := rest

theorem orElseUndo (h : m.Returns r post) (undo : RegistryM Unit) :
    (Registry.orElseUndo m undo).Returns r post := by
  unfold Returns Registry.orElseUndo at *
  show match EStateM.tryCatch m _ r with | .ok a r' => post a r' | .error _ _ => True
  unfold EStateM.tryCatch
  cases first : m r with
  | ok a r' =>
    rw [first] at h
    exact h
  | error e r' =>
    show match (undo >>= fun _ => (MonadExcept.throw e : RegistryM α)) r' with
      | .ok a r' => post a r'
      | .error _ _ => True
    cases undone : undo r' with
    | ok _ r'' =>
      rw [bind_ok undone]
      trivial
    | error e r'' =>
      rw [bind_error undone]
      trivial

end Returns

namespace Ensures

theorem pure (good : Good K r) {a : α} (h : post a r) :
    Ensures K r (pure a : RegistryM α) post :=
  ⟨good, .refl _, h⟩

theorem throw (good : Good K r) (e : SchemaError) :
    Ensures K r (MonadExcept.throw e : RegistryM α) post :=
  ⟨good, .refl _⟩

theorem throw_bind (good : Good K r) (e : SchemaError) (f : β → RegistryM α) :
    Ensures K r (MonadExcept.throw e >>= f) post :=
  ⟨good, .refl _⟩

theorem get_bind {f : Registry → RegistryM α} (rest : Ensures K r (f r) post) :
    Ensures K r (get >>= f) post := rest

theorem bind {f : α → RegistryM β} {post' : β → Registry → Prop} (first : Ensures K r m post)
    (second : ∀ a r', Good K r' → r.store.Succeeds r'.store → post a r' →
      Ensures K r' (f a) post') :
    Ensures K r (m >>= f) post' := by
  unfold Ensures at first ⊢
  cases hm : m r with
  | error e r' =>
    rw [bind_error hm]
    rw [hm] at first
    exact first
  | ok a r' =>
    rw [bind_ok hm]
    rw [hm] at first
    obtain ⟨good, succeeds, ha⟩ := first
    have rest := second a r' good succeeds ha
    unfold Ensures at rest
    cases hf : f a r' with
    | error e r'' =>
      rw [hf] at rest
      exact ⟨rest.1, succeeds.trans rest.2⟩
    | ok b r'' =>
      rw [hf] at rest
      exact ⟨rest.1, succeeds.trans rest.2.1, rest.2.2⟩

theorem imp {post' : α → Registry → Prop} (first : Ensures K r m post)
    (h : ∀ a r', post a r' → post' a r') : Ensures K r m post' := by
  unfold Ensures at first ⊢
  cases hm : m r with
  | error e r' =>
    rw [hm] at first
    exact first
  | ok a r' =>
    rw [hm] at first
    exact ⟨first.1, first.2.1, h a r' first.2.2⟩

theorem map {f : α → β} {post' : β → Registry → Prop} (first : Ensures K r m post)
    (h : ∀ a r', post a r' → post' (f a) r') : Ensures K r (f <$> m) post' := by
  rw [map_eq_pure_bind]
  exact first.bind fun a r' good _ ha => pure good (h a r' ha)

theorem update {change : Registry → Registry} {post : PUnit → Registry → Prop}
    (good : Good K (change r)) (succeeds : r.store.Succeeds (change r).store)
    (h : post ⟨⟩ (change r)) : Ensures K r (modify change) post :=
  ⟨good, succeeds, h⟩

/-- A step that changes neither the store nor what compilations read. -/
theorem quiet (good : Good K r) (change : Registry → Registry)
    (store : (change r).store = r.store) (compiler : (change r).compiler = r.compiler) :
    Ensures K r (modify change) fun _ r' => r'.store = r.store := by
  refine ⟨⟨?_, ?_⟩, ?_, store⟩
  · rw [store]
    exact good.settled
  · rw [compiler]
    exact good.current
  · rw [store]
    exact .refl _

/-- A change of the store. -/
theorem updateStore (good : Good K r) (change : Store → Store)
    (settled : (change r.store).Settled K) (succeeds : r.store.Succeeds (change r.store)) :
    Ensures K r (Registry.updateStore change) fun _ r' => r'.store = change r.store :=
  ⟨⟨settled, good.current⟩, succeeds, rfl⟩

/-- The removal of an entry. -/
theorem remove (good : Good K r) (id : EntryId) :
    Ensures K r (Registry.updateStore (·.remove id)) fun _ _ => True :=
  (updateStore good (·.remove id) (good.settled.remove id) (Store.remove_succeeds _ _)).imp
    fun _ _ _ => trivial

theorem lift (good : Good K r) (x : Except SchemaError α) :
    Ensures K r (Registry.lift x) fun a r' => x = .ok a ∧ r' = r := by
  cases x with
  | ok a => exact .pure good ⟨rfl, rfl⟩
  | error e => exact .throw good e

/-- An operation that is undone if it fails. -/
theorem orElseUndo (first : Ensures K r m post) {undo : RegistryM Unit}
    (second : ∀ r', Good K r' → Ensures K r' undo fun _ _ => True) :
    Ensures K r (Registry.orElseUndo m undo) post := by
  have caught : Registry.orElseUndo m undo r =
      match m r with
      | .ok a r' => .ok a r'
      | .error e r' => (undo >>= fun _ => MonadExcept.throw e) r' := by
    show EStateM.tryCatch m _ r = _
    unfold EStateM.tryCatch
    cases m r <;> rfl
  unfold Ensures at first ⊢
  rw [caught]
  cases hm : m r with
  | ok a r' =>
    rw [hm] at first
    exact first
  | error e r' =>
    rw [hm] at first
    have rest : Ensures K r' (undo >>= fun _ => (MonadExcept.throw e : RegistryM α)) post :=
      (second r' first.1).bind fun _ r'' good _ _ => .throw good e
    unfold Ensures at rest
    show match (undo >>= fun _ => (MonadExcept.throw e : RegistryM α)) r' with
      | .ok a r' => _
      | .error _ r' => _
    split at rest
    · exact ⟨rest.1, first.2.trans rest.2.1, rest.2.2⟩
    · exact ⟨rest.1, first.2.trans rest.2⟩

theorem mapM (good : Good K r) {f : α → RegistryM β} {list : List α}
    (step : ∀ a r', Good K r' → Ensures K r' (f a) fun _ _ => True) :
    Ensures K r (list.mapM f) fun _ _ => True := by
  induction list generalizing r with
  | nil =>
    rw [List.mapM_nil]
    exact pure good trivial
  | cons a rest ih =>
    rw [List.mapM_cons]
    refine (step a r good).bind fun b r' good' _ _ => ?_
    exact (ih good').bind fun bs r'' good'' _ _ => pure good'' trivial

theorem foldlM (good : Good K r) {f : β → α → RegistryM β} {list : List α} {b : β}
    (step : ∀ b a r', Good K r' → Ensures K r' (f b a) fun _ _ => True) :
    Ensures K r (list.foldlM f b) fun _ _ => True := by
  induction list generalizing r b with
  | nil => exact pure good trivial
  | cons a rest ih =>
    rw [List.foldlM_cons]
    exact (step b a r good).bind fun b' r' good' _ _ => ih good'

/-- What an operation leaves, whatever its outcome. -/
theorem after (h : Ensures K r m post) :
    (m.after r).Good K ∧ r.store.Succeeds (m.after r).store := by
  unfold Ensures at h
  unfold RegistryM.after
  cases hm : m r with
  | ok a r' =>
    rw [hm] at h
    exact ⟨h.1, h.2.1⟩
  | error e r' =>
    rw [hm] at h
    exact h

/-- What an operation returns is as described, in a registry that is good. -/
theorem returns (h : Ensures K r m post) {post' : α → Registry → Prop}
    (imp : ∀ a r', Good K r' → post a r' → post' a r') : m.Returns r post' := by
  unfold Ensures at h
  unfold Returns
  cases hm : m r with
  | ok a r' =>
    rw [hm] at h
    exact imp a r' h.1 h.2.2
  | error e r' => trivial

/-- What an operation returned is as described, in a registry that is good. -/
theorem of_ok (h : Ensures K r m post) {a : α} {r' : Registry} (ok : m r = .ok a r') :
    Good K r' ∧ post a r' := by
  have both : m.Returns r fun a r' => Good K r' ∧ post a r' := h.returns fun _ _ good h => ⟨good, h⟩
  exact both.of_ok ok

end Ensures

end RegistryM

-- from here on operations are put together by the rules above, and never run
attribute [irreducible] RegistryM.Ensures

namespace Registry

open RegistryM (Ensures)

variable {K : EntryId → Compiler → Prop} {r : Registry}

/-! ## Compiling -/

theorem isStarted_of_isCompiled {id : EntryId} (h : r.isCompiled id = true) :
    r.store.IsStarted id := by
  rw [isCompiled, Option.isSome_iff_exists] at h
  obtain ⟨node, h⟩ := h
  obtain ⟨e, found, hn⟩ := Option.bind_eq_some_iff.1 h
  refine ⟨e, found, ?_⟩
  cases hp : e.progress <;> rw [hp] at hn <;> first | rfl | cases hn

theorem trace_ensures (good : r.Good K) (events : List Event) :
    Ensures K r (trace events) fun _ r' => r'.store = r.store :=
  Ensures.quiet good (fun r => { r with events := r.events ++ events }) rfl rfl

/-- An entry that was compiled is compiled, and nothing was lost for it. -/
theorem compileEntry_ensures (good : r.Good K) (id : EntryId) :
    Ensures K r (compileEntry id) fun v r' =>
      r.store.Retains r'.store ∧ v.entry = id ∧ r'.store.IsStarted id := by
  unfold compileEntry
  refine .get_bind ?_
  by_cases compiled : r.isCompiled id = true
  · rw [if_pos compiled]
    refine Ensures.get_bind (Ensures.pure good ?_)
    exact ⟨.refl _, rfl, isStarted_of_isCompiled compiled⟩
  · have settled := Compiler.compile_settled good.settled good.current id
    have retains := Compiler.compile_retains good.settled good.current id
    have succeeds := Compiler.compile_succeeds good.settled good.current id
    have started := Compiler.compile_isStarted good.settled good.current id
    rw [if_neg compiled]
    generalize r.compiler.compile id r.store = result at settled retains succeeds started
    obtain ⟨outcome, store, events⟩ := result
    have changed : Ensures K r (modify fun r => { r with store := store }) fun _ r' =>
        r'.store = store := Ensures.update ⟨settled, good.current⟩ succeeds rfl
    refine Ensures.bind changed fun _ r₁ good₁ _ store₁ => ?_
    refine Ensures.bind (trace_ensures good₁ events) fun _ r₂ good₂ _ store₂ => ?_
    refine Ensures.bind (Ensures.lift good₂ outcome) fun _ r₃ good₃ _ ⟨ok, same⟩ => ?_
    subst same
    refine .get_bind (.pure good₃ ?_)
    rw [store₂, store₁]
    exact ⟨retains, rfl, started ok⟩

/-! ## Checking documents -/

/-- The validator of an entry that was compiled is the one that the registry has for it. -/
theorem compileEntry_returns (id : EntryId) :
    (compileEntry id).Returns r fun v r' => v = r'.validator id := by
  have last : ∀ r : Registry, (get >>= fun r => pure (r.validator id) : RegistryM Validator).Returns r
      fun v r' => v = r'.validator id := fun r => rfl
  unfold compileEntry
  refine .get_bind ?_
  by_cases compiled : r.isCompiled id = true
  · rw [if_pos compiled]
    exact last r
  · rw [if_neg compiled]
    generalize r.compiler.compile id r.store = result
    obtain ⟨outcome, store, events⟩ := result
    exact .bind fun _ r₁ _ => .bind fun _ r₂ _ => .bind fun _ r₃ _ => last r₃

theorem record_ensures (good : r.Good K) (violations : Violations) :
    Ensures K r (record violations) fun _ r' => r'.store = r.store := by
  unfold record
  refine (Ensures.quiet good _ ?_ ?_).bind fun _ r' good' _ same => Ensures.pure good' same
  · rfl
  · rfl

theorem apply_ensures (good : r.Good K) (validator : Validator) (data : Value) :
    Ensures K r (apply validator data) fun _ r' => r'.store = r.store := by
  unfold apply
  refine Ensures.get_bind ?_
  exact (trace_ensures good _).bind fun _ r' good' _ same => Ensures.pure good' same

theorem validateAgainst_ensures (good : r.Good K) (metaSchema : EntryId) (document : Value)
    (refuse : Bool) :
    Ensures K r (validateAgainst metaSchema document refuse) fun _ r' =>
      r.store.Retains r'.store := by
  refine (compileEntry_ensures good metaSchema).bind fun v r₁ good₁ _ ⟨retains, _, _⟩ => ?_
  refine (apply_ensures good₁ v document).bind fun violations r₂ good₂ _ same₂ => ?_
  refine (record_ensures good₂ violations).bind fun passed r₃ good₃ _ same₃ => ?_
  have retains : r.store.Retains r₃.store := by rw [same₃, same₂]; exact retains
  cases passed with
  | true => exact .pure good₃ retains
  | false =>
    refine .get_bind ?_
    split
    · exact .throw_bind good₃ _ _
    · exact .pure good₃ retains

theorem missingMeta_ensures (good : r.Good K) (metaId : String) (refuse : Bool) :
    Ensures K r (missingMeta metaId refuse) fun _ r' => r.store.Retains r'.store := by
  unfold missingMeta
  refine .get_bind ?_
  cases r.options.missingMeta with
  | permissive => exact .pure good (.refl _)
  | strict =>
    refine (record_ensures good _).bind fun _ r' good' _ same => ?_
    have retains : r.store.Retains r'.store := by rw [same]; exact .refl _
    cases refuse with
    | true => exact .throw_bind good' _ _
    | false => exact .pure good' retains

theorem validateSchema_ensures (good : r.Good K) (document : Value) (refuse : Bool) :
    Ensures K r (validateSchema document refuse) fun _ r' => r.store.Retains r'.store := by
  unfold validateSchema
  refine .get_bind ?_
  simp only
  split
  · exact validateAgainst_ensures good _ document refuse
  · exact missingMeta_ensures good _ refuse

/-! ## Taking documents in -/

/-- How a document is there after it was taken in: under its cache key, and unless it was
    there before, as it was given. No name was added, and no identifier but its own. -/
structure Took (r : Registry) (document : Value) (key : CacheKey) (id : String) (entry : EntryId)
    (r' : Registry) : Prop where
  schemas : r'.store.schemas = r.store.schemas
  refs : ∀ name b, r'.store.refs.find? name = some b → r.store.refs.find? name = some b ∨ b = entry
  entry : ∃ e, r'.store.entry? entry = some e ∧ e.pointer = "" ∧ e.cacheKey = some key ∧
    (r.store.cache.find? key = some entry ∨ e.document = document ∧ e.id = id)

theorem promote_ensures (good : r.Good K) (root : EntryId) :
    Ensures K r (promote root) fun _ r' => r.store.Alike r'.store := by
  have h := Store.promotes r.store (r.store.membersOf root)
  obtain ⟨reset, promotes⟩ := h
  refine (Ensures.updateStore good (fun store => store.promote (store.membersOf root))
    (good.settled.promote root) (Store.promote_succeeds _ _)).imp fun _ r' same => ?_
  rw [same]
  exact promotes.alike

theorem Took.retains {document : Value} {key : CacheKey} {id : String} {entry : EntryId}
    {r r' r'' : Registry} (took : Took r document key id entry r')
    (retains : r'.store.Retains r''.store) : Took r document key id entry r'' where
  schemas := retains.schemas.trans took.schemas
  refs name b h := took.refs name b (by rw [← retains.refs]; exact h)
  entry := by
    obtain ⟨e, found, h⟩ := took.entry
    obtain ⟨e', found', eq⟩ := retains.entry entry e found
    refine ⟨e', found', ?_⟩
    rw [Entry.eq_of_reset_eq eq.symm]
    exact h

/-- The check of a document that is its own meta-schema, after it was given a place. -/
def checkOwn (entry : EntryId) (document : Value) (own : Bool) : RegistryM EntryId := do
  if own then
    let _ ← orElseUndo (validateAgainst entry document true) (updateStore (·.remove entry))
  return entry

theorem checkOwn_ensures (good : r.Good K) (entry : EntryId) (document : Value) (own : Bool) :
    Ensures K r (checkOwn entry document own) fun id r' =>
      id = entry ∧ r.store.Retains r'.store := by
  cases own with
  | false => exact .pure good ⟨rfl, .refl _⟩
  | true =>
    refine Ensures.bind ((validateAgainst_ensures good entry document true).orElseUndo
      fun r' good' => ?_) fun _ r' good' _ retains => .pure good' ⟨rfl, retains⟩
    exact .remove good' entry

/-- The place of a document that may be taken in. -/
def placeEntry (vocabulary : VocabularyTable) (document : Value) (key : CacheKey) (id : String)
    (isMeta named own : Bool) : RegistryM EntryId := do
  let index ← lift (LocalIndex.ofDocument vocabulary document id)
  let store := (← get).store
  let self : EntryId := ⟨store.entries.size⟩
  updateStore fun _ => store.insertDocument
    { id, document, localRefs := index.localRefs, refTargets := index.refTargets
      cacheKey := some key, isMeta, root := self } key named
  checkOwn self document own

theorem placeEntry_ensures (good : r.Good K) (vocabulary : VocabularyTable) (document : Value)
    {key : CacheKey} {id : String} (isMeta own : Bool) {named : Bool}
    (free : r.store.cache.find? key = none)
    (fresh : named = true → r.store.schemas.find? id = none ∧ r.store.refs.find? id = none) :
    Ensures K r (placeEntry vocabulary document key id isMeta named own) fun entry r' =>
      Took r document key id entry r' := by
  refine (Ensures.lift good _).bind fun index r₁ good₁ _ ⟨_, same⟩ => ?_
  subst same
  let self : EntryId := ⟨r₁.store.entries.size⟩
  let e : Entry :=
    { id, document, localRefs := index.localRefs, refTargets := index.refTargets
      cacheKey := some key, isMeta, root := self }
  refine .get_bind ?_
  refine (Ensures.updateStore good₁ (fun _ => r₁.store.insertDocument e key named)
    (good₁.settled.insertDocument rfl rfl rfl free fresh) Store.insertDocument_succeeds).bind
    fun _ r₂ good₂ _ same => ?_
  have took : Took r₁ document key id self r₂ := by
    refine ⟨by rw [same]; rfl, fun name b h => ?_, e, ?_, rfl, rfl, .inr ⟨rfl, rfl⟩⟩
    · rw [same] at h
      rcases Store.mem_refs_insertDocument (Bindings.mem_of_find? h) with new | old
      · cases new
        exact .inr rfl
      · exact .inl (Bindings.find?_of_mem good₁.settled.linked.refsKeyed old)
    · rw [same, Store.entry?_insertDocument, if_pos rfl]
  refine (checkOwn_ensures good₂ self document own).imp fun entry r' ⟨at_, retains⟩ => ?_
  rw [at_]
  exact took.retains retains

theorem insertEntry_ensures (good : r.Good K) (document : Document) (key : CacheKey)
    (id : String) (isMeta validate register : Bool) (free : r.store.cache.find? key = none) :
    Ensures K r (insertEntry document key id isMeta validate register) fun entry r' =>
      Took r document.value key id entry r' := by
  unfold insertEntry
  refine .get_bind ?_
  by_cases taken : (register && !id.isEmpty && r.store.isTaken id) = true
  · rw [if_pos taken]
    exact .throw_bind good _ _
  · rw [if_neg taken]
    have fresh : (register && !id.isEmpty) = true →
        r.store.schemas.find? id = none ∧ r.store.refs.find? id = none := by
      intro h
      rw [h, Bool.true_and, Bool.not_eq_true] at taken
      exact Store.Linked.isTaken_eq_false_iff.1 taken
    let checked := validate && r.options.validateSchema ≠ .disabled
    let isOwnMeta := !id.isEmpty && document.value.metaSchemaId? = some id
    by_cases other : (checked && !isOwnMeta) = true
    · rw [if_pos other]
      refine (validateSchema_ensures good document.value true).bind fun _ r₁ good₁ _ retains => ?_
      rw [← retains.cache] at free
      rw [← retains.schemas, ← retains.refs] at fresh
      refine (placeEntry_ensures good₁ r.vocabulary document.value isMeta (checked && isOwnMeta)
        free fresh).imp fun entry r' took => ?_
      refine ⟨took.schemas.trans retains.schemas, fun name b h => ?_, ?_⟩
      · rw [← retains.refs]
        exact took.refs name b h
      · rw [← retains.cache]
        exact took.entry
    · rw [if_neg other]
      exact placeEntry_ensures good r.vocabulary document.value isMeta (checked && isOwnMeta)
        free fresh

theorem addEntry_ensures (good : r.Good K) (document : Document) (id : String)
    (isMeta validate register : Bool) :
    Ensures K r (addEntry document id isMeta validate register) fun entry r' =>
      Took r document.value (r.options.serialize.key document) id entry r' := by
  let key := r.options.serialize.key document
  unfold addEntry
  refine .get_bind ?_
  have known : ∀ {entry : EntryId}, r.store.cache.find? key = some entry →
      ∃ e, r.store.entry? entry = some e ∧ e.pointer = "" ∧ e.cacheKey = some key :=
    fun h => good.settled.linked.cached _ (Bindings.mem_of_find? h)
  cases cached : r.store.cache.find? key with
  | none =>
    have none : ((r.store.cache.find? (r.options.serialize.key document)).bind fun entry =>
        (r.store.entry? entry).map (entry, ·)) = none := by
      rw [cached]
      rfl
    simp only [none]
    exact insertEntry_ensures good document key id isMeta validate register cached
  | some entry =>
    obtain ⟨e, found, doc, hk⟩ := known cached
    have some_ : ((r.store.cache.find? (r.options.serialize.key document)).bind fun entry =>
        (r.store.entry? entry).map (entry, ·)) = some (entry, e) := by
      rw [cached, Option.bind_some, found]
      rfl
    simp only [some_]
    have took : ∀ {r' : Registry}, r.store.Alike r'.store →
        Took r document.value key id entry r' := by
      intro r' alike
      obtain ⟨m, p, found'⟩ := alike.entry? found
      refine ⟨alike.schemas, fun name b h => .inl (alike.refs ▸ h), _, found', doc, hk, .inl cached⟩
    by_cases promoted : (isMeta && !e.isMeta) = true
    · rw [if_pos promoted]
      exact (promote_ensures good entry).bind fun _ r' good' _ alike => .pure good' (took alike)
    · rw [if_neg promoted]
      exact .pure good (took (.refl _))

/-- The name of a document that was taken in, if it has one. -/
def nameEntry (entry : EntryId) (key : String) : RegistryM EntryId := do
  unless key.isEmpty do
    updateStore fun store => { store with schemas := store.schemas.bind key entry }
  return entry

theorem nameEntry_ensures {r' : Registry} {document : Value} {cacheKey : CacheKey} {id : String}
    {entry : EntryId} (good' : r'.Good K) (took : Took r document cacheKey id entry r')
    {key : String} (untaken : ¬ (!key.isEmpty && r.store.isTaken key) = true) :
    Ensures K r' (nameEntry entry key) fun _ r'' =>
      r''.store = if key.isEmpty then r'.store else r'.store.bindName key entry := by
  unfold nameEntry
  by_cases empty : key.isEmpty = true
  · rw [if_pos empty, if_pos empty]
    exact Ensures.pure good' rfl
  · rw [if_neg empty, if_neg empty]
    rw [Bool.not_eq_true] at empty
    rw [empty, Bool.not_false, Bool.true_and, Bool.not_eq_true] at untaken
    obtain ⟨free, unused⟩ := Store.Linked.isTaken_eq_false_iff.1 untaken
    obtain ⟨e, found, doc, -⟩ := took.entry
    have free' : r'.store.schemas.find? key = none := by rw [took.schemas]; exact free
    have agree : ∀ b, r'.store.refs.find? key = some b → b = entry := by
      intro b h
      rcases took.refs key b h with old | new
      · rw [unused] at old
        cases old
      · exact new
    have succeeds : r'.store.Succeeds (r'.store.bindName key entry) :=
      .of_extends (Nat.le_refl _) fun _ _ h => .inl h
    exact (Ensures.updateStore good' (fun store => store.bindName key entry)
      (good'.settled.bindName found doc free' agree) succeeds).bind
      fun _ r'' good'' _ same => .pure good'' same

theorem addSchemaWith_ensures (good : r.Good K) (document : Document) (options : AddOptions) :
    Ensures K r (addSchemaWith document options) fun _ _ => True := by
  unfold addSchemaWith
  refine Ensures.bind (Ensures.lift good document.value.schemaId) ?_
  intro id r₁ good₁ _ h
  have same : r₁ = r := h.2
  subst same
  generalize normalizeId (options.key.getD id) = key
  refine Ensures.get_bind ?_
  by_cases taken : (!key.isEmpty && r₁.store.isTaken key) = true
  · rw [if_pos taken]
    exact Ensures.throw_bind good₁ _ _
  · rw [if_neg taken]
    exact (addEntry_ensures good₁ document id options.isMeta (!options.skipValidation) true).bind
      fun entry r₂ good₂ _ took => (nameEntry_ensures good₂ took taken).imp fun _ _ _ => trivial

theorem copy_ensures (good : r.Good K) (value : Value) :
    Ensures K r (copy value) fun _ r' => r'.store = r.store := by
  unfold copy
  refine Ensures.get_bind ?_
  refine (Ensures.quiet good _ ?_ ?_).bind fun _ r' good' _ same => Ensures.pure good' same
  · rfl
  · rfl

theorem installMeta_ensures (good : r.Good K) : Ensures K r installMeta fun _ _ => True := by
  unfold installMeta
  refine (copy_ensures good Draft07.metaSchema).bind fun document r₁ good₁ _ _ => ?_
  refine (addSchemaWith_ensures good₁ document _).bind fun _ r₂ good₂ _ _ => ?_
  refine (Ensures.quiet good₂ _ ?_ ?_).imp fun _ _ _ => trivial
  · rfl
  · rfl

theorem addSchemas_ensures (good : r.Good K) (documents : List Document) :
    Ensures K r (addSchemas documents) fun _ _ => True :=
  Ensures.mapM good fun document _ good' => addSchemaWith_ensures good' document _

/-! ## Finding documents -/

/-- A document that was compiled is compiled, under its cache key. -/
theorem compile_ensures (good : r.Good K) (document : Document) :
    Ensures K r (compile document) fun v r' => ∃ id, document.value.schemaId = .ok id ∧
      Took r document.value (r.options.serialize.key document) id v.entry r' ∧
      r'.store.IsStarted v.entry := by
  refine (Ensures.lift good _).bind fun id r₁ good₁ _ ⟨hid, same⟩ => ?_
  subst same
  refine .get_bind ?_
  refine (addEntry_ensures good₁ document id false true r₁.options.addUsedSchema).bind
    fun entry r₂ good₂ _ took => ?_
  refine ((compileEntry_ensures good₂ entry).orElseUndo fun r' good' => ?_).imp
    fun v r₃ ⟨retains, at_, started⟩ => ⟨id, hid, ?_, at_ ▸ started⟩
  · split
    · exact .pure good' trivial
    · exact .remove good' entry
  · rw [at_]
    exact took.retains retains

/-- The validator of a document is the one that the registry has for its entry. -/
theorem compile_returns (document : Document) :
    (compile document).Returns r fun v r' => v = r'.validator v.entry := by
  unfold compile
  refine .bind fun id r₁ _ => .get_bind (.bind fun entry r₂ _ => .orElseUndo ?_ _)
  refine (compileEntry_returns entry).imp fun v r' same => ?_
  rw [same]
  rfl

/-- What an identifier denotes, if it denotes anything, is compiled. -/
theorem getSchema_ensures (good : r.Good K) (name : String) :
    Ensures K r (getSchema name) fun v? r' =>
      ∀ v, v? = some v → r'.store.IsStarted v.entry := by
  have compiled : ∀ {r' : Registry} (id : EntryId), r'.Good K →
      Ensures K r' (some <$> compileEntry id) fun v? r'' =>
        ∀ v, v? = some v → r''.store.IsStarted v.entry := fun id good' =>
    (compileEntry_ensures good' id).map fun v r'' ⟨_, at_, started⟩ v' h => by
      cases h
      rw [at_]
      exact started
  have nothing : Ensures K r (pure none : RegistryM (Option Validator)) fun v? r' =>
      ∀ v, v? = some v → r'.store.IsStarted v.entry := .pure good fun v h => by cases h
  unfold getSchema
  refine .get_bind ?_
  cases direct : r.store.lookup (normalizeId name) with
  | some entry =>
    simp only [direct]
    exact compiled entry good
  | none =>
    simp only [direct]
    cases owner : r.store.lookup (documentPart (normalizeId name)) with
    | none => exact nothing
    | some source =>
      simp only [Option.map_some]
      cases found : r.store.resolve source (normalizeId name) with
      | missing => exact nothing
      | entry id => exact compiled id good
      | fragment root base pointer part =>
        obtain ⟨reaches, nonempty, cuts⟩ := Store.resolve_eq_fragment_iff.1 found
        obtain ⟨d, foundD, doc⟩ := reaches.document good.settled.linked
        obtain ⟨entry, isNew, store, eq, settled, succeeds⟩ :=
          good.settled.fragment foundD doc nonempty cuts
        simp only [eq]
        refine (Ensures.updateStore good (fun _ => store) settled succeeds).bind
          fun _ r₁ good₁ _ _ => ?_
        have undo : ∀ r', r'.Good K → Ensures K r'
            (if isNew then updateStore (·.remove entry) else pure ()) fun _ _ => True := by
          intro r' good'
          cases isNew with
          | true => exact .remove good' entry
          | false => exact .pure good' trivial
        refine Ensures.map ((compileEntry_ensures good₁ entry).orElseUndo undo)
          fun v r'' ⟨_, at_, started⟩ v' h => ?_
        cases h
        rw [at_]
        exact started

/-- The validator of what an identifier denotes. -/
theorem getSchema_returns (name : String) :
    (getSchema name).Returns r fun v? r' => ∀ v, v? = some v → v = r'.validator v.entry := by
  have some_ : ∀ {m : RegistryM Validator} {r' : Registry},
      m.Returns r' (fun v r'' => v = r''.validator v.entry) →
      (some <$> m).Returns r' fun v? r'' => ∀ v, v? = some v → v = r''.validator v.entry := by
    intro m r' returns
    rw [map_eq_pure_bind]
    refine .bind fun v r'' ok v' h => ?_
    cases h
    exact returns.of_ok ok
  have compiled : ∀ (r' : Registry) (id : EntryId),
      (compileEntry id).Returns r' fun v r'' => v = r''.validator v.entry := fun r' id =>
    (compileEntry_returns id).imp fun v r'' same => by
      rw [same]
      rfl
  unfold getSchema
  refine .get_bind ?_
  simp only
  split
  · exact some_ (compiled r _)
  · split
    · exact some_ (compiled r _)
    · exact .bind fun _ r' _ => some_ ((compiled r' _).orElseUndo _)
    · exact fun v h => (nomatch h)

/-- Looking for documents that are not known changes nothing. -/
theorem missingDocuments_ensures (good : r.Good K) (document : Value) :
    Ensures K r (missingDocuments document) fun _ r' => r' = r := by
  unfold missingDocuments
  refine Ensures.get_bind ?_
  refine (Ensures.lift good _).bind fun id r₁ good₁ _ ⟨_, same⟩ => ?_
  refine (Ensures.lift good₁ _).bind fun index r₂ good₂ _ ⟨_, same'⟩ => ?_
  exact .pure good₂ (same'.trans same)

theorem validate_ensures (good : r.Good K) (name : String) (data : Value) :
    Ensures K r (validate name data) fun _ _ => True := by
  refine (getSchema_ensures good name).bind fun v? r₁ good₁ _ _ => ?_
  cases v? with
  | none => exact .throw good₁ _
  | some v =>
    refine (apply_ensures good₁ v data).bind fun violations r₂ good₂ _ _ => ?_
    exact (record_ensures good₂ violations).imp fun _ _ _ => trivial

theorem validateValue_ensures (good : r.Good K) (document : Document) (data : Value) :
    Ensures K r (validateValue document data) fun _ _ => True := by
  refine (compile_ensures good document).bind fun v r₁ good₁ _ _ => ?_
  refine (apply_ensures good₁ v data).bind fun violations r₂ good₂ _ _ => ?_
  exact (record_ensures good₂ violations).imp fun _ _ _ => trivial

/-! ## Removing -/

theorem removeSchema_ensures (good : r.Good K) (target : RemoveTarget) :
    Ensures K r (removeSchema target) fun _ _ => True := by
  refine .get_bind (Ensures.foldlM good fun count id r₁ good₁ => .get_bind ?_)
  exact (Ensures.remove good₁ id).bind fun _ r₂ good₂ _ _ => .pure good₂ trivial

/-! ## Keywords and formats -/

section Keywords

theorem valueValidators_ensures (good : r.Good K) (keywords : List Keyword) :
    Ensures K r (valueValidators keywords) fun _ _ => True := by
  refine Ensures.bind (Ensures.mapM good fun keyword r₁ good₁ => ?_)
    fun _ r' good' _ _ => .pure good' trivial
  cases keyword.valueSchema with
  | none => exact .pure good₁ trivial
  | some schema =>
    refine Ensures.map ?_ fun _ _ (_ : True) => trivial
    refine (Ensures.lift good₁ _).bind fun id r₂ good₂ _ _ => ?_
    refine (copy_ensures good₂ schema).bind fun document r₃ good₃ _ _ => ?_
    refine (addEntry_ensures good₃ document id true true false).bind fun entry r₄ good₄ _ _ => ?_
    exact (compileEntry_ensures good₄ entry).imp fun _ _ _ => trivial

/-- A change of the keywords or the formats. -/
theorem redefine_ensures (good : r.Good K) {change : Registry → Registry}
    (store : (change r).store = r.store) (k : ∀ id, K id (change r).compiler) :
    Ensures K r (modify change) fun _ _ => True := by
  refine Ensures.update ⟨?_, k⟩ ?_ trivial
  · rw [store]
    exact good.settled
  · rw [store]
    exact .refl _

theorem addFormat_ensures (good : r.Good K) (name : String) (format : Format)
    (k : ∀ id, K id { r.compiler with formats := FormatTable.insert r.formats name format }) :
    Ensures K r (addFormat name format) fun _ _ => True :=
  redefine_ensures good rfl k

variable (any : ∀ compiler id, K id compiler)

include any

theorem defineWith_ensures (good : r.Good K) (validators : List (String × Validator))
    (define : VocabularyTable → Except SchemaError VocabularyTable) :
    Ensures K r (defineWith validators define) fun _ _ => True :=
  .get_bind ((Ensures.lift good _).bind fun _ _ good' _ _ => redefine_ensures good' rfl (any _))

theorem addKeyword_ensures (good : r.Good K) (keyword : Keyword) :
    Ensures K r (addKeyword keyword) fun _ _ => True :=
  (valueValidators_ensures good [keyword]).bind fun validators _ good' _ _ =>
    defineWith_ensures any good' validators _

theorem addVocabulary_ensures (good : r.Good K) (vocabulary : Vocabulary) :
    Ensures K r (addVocabulary vocabulary) fun _ _ => True :=
  (valueValidators_ensures good vocabulary.keywords).bind fun validators _ good' _ _ =>
    defineWith_ensures any good' validators _

theorem removeKeyword_ensures (good : r.Good K) (name : String) :
    Ensures K r (removeKeyword name) fun _ _ => True := by
  refine .get_bind ((Ensures.lift good _).bind fun removed r₁ good₁ _ _ => ?_)
  obtain ⟨keyword, table⟩ := removed
  exact (redefine_ensures good₁ rfl (any _)).bind fun _ r₂ good₂ _ _ => .pure good₂ trivial

theorem removeVocabulary_ensures (good : r.Good K) (name : String) :
    Ensures K r (removeVocabulary name) fun _ _ => True := by
  refine .get_bind ((Ensures.lift good _).bind fun removed r₁ good₁ _ _ => ?_)
  obtain ⟨known, table⟩ := removed
  exact (redefine_ensures good₁ rfl (any _)).bind fun _ r₂ good₂ _ _ => .pure good₂ trivial

end Keywords

end Registry

end JsonSchema
