import JsonSchema.Proofs.Registry.Failures

/-!
# How documents are taken in

A document that is taken in either is in the cache, and then at most becomes a meta-schema, or is
given a place of its own, between compilations that spare what is there.

* `Registry.Placed`: a document was given a place.
* `Registry.addEntry_takes`: what taking a document in has done, if it succeeds.
-/

namespace JsonSchema

namespace RegistryM

variable {K : EntryId → Compiler → Prop} {α : Type} {s : Store} {r : Registry} {m : RegistryM α}
  {post post' : α → Registry → Prop}

theorem Undoes.returns (undoes : Undoes K s r m post) : m.Returns r post :=
  .intro fun _ _ ok => (undoes.of_ok ok).2

/-- What an operation returns besides. -/
theorem Ensures.both {m : RegistryM α} (h : Ensures K r m post)
    (returns : m.Returns r post') : Ensures K r m fun a r' => post a r' ∧ post' a r' := by
  unfold Ensures at h ⊢
  unfold Returns at returns
  cases hm : m r with
  | error e r' =>
    rw [hm] at h
    exact h
  | ok a r' =>
    rw [hm] at h returns
    exact ⟨h.1, h.2.1, h.2.2, returns⟩

/-- What an operation returns, it returns in a good registry. -/
theorem Ensures.and_good (h : Ensures K r m post) :
    Ensures K r m fun a r' => Registry.Good K r' ∧ post a r' :=
  (h.both (h.returns fun _ _ good _ => good)).imp fun _ _ ⟨h, good⟩ => ⟨good, h⟩

end RegistryM

namespace Registry

open RegistryM (Undoes)

variable {K : EntryId → Compiler → Prop} {r : Registry}

/-- A document was not in the cache, and was given a place, perhaps with an identifier to be found
    by. Something may have been compiled before and after that. -/
structure Placed (r : Registry) (document : Value) (key : CacheKey) (id : String)
    (isMeta named : Bool) (entry : EntryId) (r' : Registry) : Prop where
  free : r.store.cache.find? key = none
  fresh : named = true → r.store.schemas.find? id = none ∧ r.store.refs.find? id = none
  course : ∃ s e, r.store.Spares s ∧ e.pointer = "" ∧ e.document = document ∧ e.id = id ∧
    e.cacheKey = some key ∧ e.isMeta = isMeta ∧ entry = ⟨s.entries.size⟩ ∧
    (s.insertDocument e key named).Spares r'.store

/-- The check of a document that is its own meta-schema spares what is there, if it passes. -/
theorem checkOwn_spares (good : r.Good K) (entry : EntryId) (document : Value) (own : Bool) :
    (checkOwn entry document own).Returns r fun id r' => id = entry ∧ r.store.Spares r'.store := by
  cases own with
  | false => exact ⟨rfl, .refl r.store⟩
  | true =>
    have checked := (validateAgainst_undoes good entry document true).returns
    exact .bind fun _ r' ok =>
      ⟨rfl, (checked.orElseUndo (updateStore (·.remove entry))).of_ok ok⟩

theorem placeEntry_places (good : r.Good K) (vocabulary : VocabularyTable) (document : Value)
    {key : CacheKey} {id : String} (isMeta own : Bool) {named : Bool}
    (free : r.store.cache.find? key = none)
    (fresh : named = true → r.store.schemas.find? id = none ∧ r.store.refs.find? id = none) :
    (placeEntry vocabulary document key id isMeta named own).Returns r fun entry r' =>
      r.Placed document key id isMeta named entry r' := by
  refine .bind fun index r₁ lifted => .get_bind (.bind fun _ r₂ stored => ?_)
  obtain ⟨good₁, -, same⟩ := (Undoes.lift good (.refl r.store) _).of_ok lifted
  subst same
  let self : EntryId := ⟨r₁.store.entries.size⟩
  let e : Entry :=
    { id, document, localRefs := index.localRefs, refTargets := index.refTargets
      cacheKey := some key, isMeta, root := self }
  have settled : (r₁.store.insertDocument e key named).Settled K :=
    good₁.settled.insertDocument rfl rfl rfl free fresh
  obtain ⟨good₂, same⟩ := (Undoes.updateStore (s := r₁.store) good₁
    (fun _ => r₁.store.insertDocument e key named) settled).of_ok stored
  refine (checkOwn_spares good₂ self document own).imp fun entry r' ⟨at_, spares⟩ => ?_
  rw [same] at spares
  exact ⟨free, fresh, r₁.store, e, .refl _, rfl, rfl, rfl, rfl, rfl, at_, spares⟩

theorem insertEntry_places (good : r.Good K) (document : Document) (key : CacheKey) (id : String)
    (isMeta validate register : Bool) (free : r.store.cache.find? key = none) :
    (insertEntry document key id isMeta validate register).Returns r fun entry r' =>
      r.Placed document.value key id isMeta (register && !id.isEmpty) entry r' := by
  unfold insertEntry
  refine .get_bind ?_
  by_cases taken : (register && !id.isEmpty && r.store.isTaken id) = true
  · rw [if_pos taken]
    trivial
  · rw [if_neg taken]
    have fresh : (register && !id.isEmpty) = true →
        r.store.schemas.find? id = none ∧ r.store.refs.find? id = none := by
      intro h
      rw [h, Bool.true_and, Bool.not_eq_true] at taken
      exact Store.Linked.isTaken_eq_false_iff.1 taken
    let checked := validate && r.options.validateSchema ≠ .disabled
    let isOwnMeta := !id.isEmpty && document.value.metaSchemaId? = some id
    by_cases other : (checked && !isOwnMeta) = true
    · rw [if_pos other]
      refine .bind fun _ r₁ ok => ?_
      obtain ⟨good₁, spares⟩ := (validateSchema_undoes good document.value true).of_ok ok
      have free₁ : r₁.store.cache.find? key = none := by rw [spares.cache, free]
      have fresh₁ := fresh
      rw [← spares.schemas, ← spares.refs] at fresh₁
      refine (placeEntry_places good₁ r.vocabulary document.value isMeta (checked && isOwnMeta)
        free₁ fresh₁).imp fun entry r' placed => ⟨free, fresh, ?_⟩
      obtain ⟨s, e, before, rest⟩ := placed.course
      exact ⟨s, e, spares.trans before, rest⟩
    · rw [if_neg other]
      exact placeEntry_places good r.vocabulary document.value isMeta (checked && isOwnMeta) free
        fresh

/-- A document that is taken in is in the cache, and becomes a meta-schema if it is to be one and is
    not, or it is given a place. -/
theorem addEntry_takes (good : r.Good K) (document : Document) (id : String)
    (isMeta validate register : Bool) :
    (addEntry document id isMeta validate register).Returns r fun entry r' =>
      r.store.cache.find? (r.options.serialize.key document) = some entry ∧
          (r'.store = r.store ∨
            isMeta = true ∧ r'.store = r.store.promote (r.store.membersOf entry)) ∨
        r.Placed document.value (r.options.serialize.key document) id isMeta
          (register && !id.isEmpty) entry r' := by
  unfold addEntry
  refine .get_bind ?_
  cases cached : r.store.cache.find? (r.options.serialize.key document) with
  | none =>
    simp only [cached, Option.bind_none]
    exact (insertEntry_places good document _ id isMeta validate register cached).imp
      fun _ _ placed => .inr placed
  | some entry =>
    obtain ⟨e, found, -⟩ := good.settled.linked.cached _ (Bindings.mem_of_find? cached)
    simp only [cached, Option.bind_some, found, Option.map_some]
    split
    · next marked =>
      rw [Bool.and_eq_true] at marked
      exact .inl ⟨rfl, .inr ⟨marked.1, rfl⟩⟩
    · exact .inl ⟨rfl, .inl rfl⟩

end Registry

end JsonSchema
