import JsonSchema.Proofs.Registry.Insertions
import JsonSchema.Proofs.Registry.Targets

/-!
# Names of documents

A document is found by the name that it was taken in under, and by its identifier if the document
was new. A document that was in the cache before is not listed by its identifier again.

* `Registry.addEntry_names`: what taking a document in does to the names and identifiers.
* `Registry.run_named`: by what names a document is found after it was taken in.
* `Registry.run_named_unlisted`: not always by its identifier.
-/

namespace JsonSchema

namespace Registry

open RegistryM (Ensures Undoes)

variable {K : EntryId → Compiler → Prop} {r r' : Registry} {document : Document} {id : String}
  {entry : EntryId} {isMeta validate register : Bool}

/-- Whether a document with the same cache key is there. -/
def knowsDocument (r : Registry) (document : Document) : Bool :=
  r.store.cache.binds (r.options.serialize.key document)

/-- Taking a document in changes no names. If the document is new, it is listed by its identifier. -/
theorem addEntry_names (good : r.Good K) (document : Document) (id : String)
    (isMeta validate register : Bool) :
    (addEntry document id isMeta validate register).Returns r fun entry r' =>
      r'.store.schemas = r.store.schemas ∧
        r'.store.refs = if !r.knowsDocument document && (register && !id.isEmpty)
          then r.store.refs.bind id entry else r.store.refs := by
  refine (addEntry_takes good document id isMeta validate register).imp fun entry r' => ?_
  rintro (⟨cached, left⟩ | ⟨free, -, s, e, before, -, -, named, -, -, at_, after⟩)
  · have known : r.knowsDocument document = true := by rw [knowsDocument, Bindings.binds, cached]; rfl
    rw [known]
    rcases left with same | ⟨-, promoted⟩
    · rw [same]
      exact ⟨rfl, rfl⟩
    · obtain ⟨_, promotes⟩ := r.store.promotes (r.store.membersOf entry)
      rw [promoted]
      exact ⟨promotes.alike.schemas, promotes.alike.refs⟩
  · have new : r.knowsDocument document = false := Bindings.binds_eq_false_iff.2 free
    rw [new, Bool.not_false, Bool.true_and]
    refine ⟨after.schemas.trans before.schemas, after.refs.trans ?_⟩
    subst named at_
    rw [← before.refs]
    cases register && !e.id.isEmpty <;> rfl

theorem nameEntry_returns (entry : EntryId) (key : String) (r : Registry) :
    (nameEntry entry key).Returns r fun entry' _ => entry' = entry := by
  unfold nameEntry
  split <;> exact rfl

/-- What leads to an entry after it was given a name, and an identifier if it is new. -/
theorem lookup_named (linked : r.store.Linked) (linked' : r'.store.Linked) {key : String} {new : Bool}
    (schemas : r'.store.schemas =
      if key.isEmpty then r.store.schemas else r.store.schemas.bind key entry)
    (refs : r'.store.refs = if new && !id.isEmpty then r.store.refs.bind id entry else r.store.refs) :
    (key ≠ "" → r'.store.lookup key = some entry) ∧ (id ≠ "" →
      (r'.store.lookup id = some entry ↔
        new = true ∨ key = id ∨ r.store.lookup id = some entry)) := by
  simp only [String.isEmpty_iff] at schemas
  have named : key ≠ "" → r'.store.schemas.find? key = some entry := fun nonempty => by
    rw [schemas, if_neg nonempty, Bindings.find?_bind, if_pos rfl]
  refine ⟨fun nonempty => linked'.lookup_eq_some_iff.2 (.inl (named nonempty)), fun nonempty => ?_⟩
  by_cases same : key = id
  · subst same
    exact iff_of_true (linked'.lookup_eq_some_iff.2 (.inl (named nonempty))) (.inr (.inl rfl))
  have schemas : r'.store.schemas.find? id = r.store.schemas.find? id := by
    rw [schemas]
    split
    · rfl
    · rw [Bindings.find?_bind, if_neg same]
  cases new with
  | true =>
    have found : r'.store.refs.find? id = some entry := by
      rw [refs, if_pos (by simpa using nonempty), Bindings.find?_bind, if_pos rfl]
    exact iff_of_true (linked'.lookup_eq_some_iff.2 (.inr found)) (.inl rfl)
  | false =>
    rw [linked.lookup_eq_some_iff, linked'.lookup_eq_some_iff, schemas, refs]
    simp [same]

/-- What taking a document in under a name does to the names and identifiers. -/
theorem addSchemaWith_tables (good : r.Good K) (document : Document) (add : AddOptions) :
    Ensures K r (addSchemaWith document add) fun entry r' => ∃ id, document.value.schemaId = .ok id ∧
      (r'.store.schemas = if (normalizeId (add.key.getD id)).isEmpty then r.store.schemas
        else r.store.schemas.bind (normalizeId (add.key.getD id)) entry) ∧
      r'.store.refs = if !r.knowsDocument document && !id.isEmpty then r.store.refs.bind id entry
        else r.store.refs := by
  unfold addSchemaWith
  refine (Ensures.lift good _).bind fun id r₁ good₁ _ ⟨hid, same⟩ => ?_
  subst same
  generalize eq : normalizeId (add.key.getD id) = key
  refine .get_bind ?_
  by_cases taken : (!key.isEmpty && r₁.store.isTaken key) = true
  · rw [if_pos taken]
    exact .throw_bind good₁ _ _
  rw [if_neg taken]
  have taken_ := addEntry_ensures good₁ document id add.isMeta (!add.skipValidation) true
  refine (taken_.both (addEntry_names good₁ document id _ _ _)).bind
    fun entry r₂ good₂ _ ⟨took, schemas, refs⟩ => ?_
  rw [Bool.true_and] at refs
  refine ((nameEntry_ensures good₂ took taken).and_good.both (nameEntry_returns entry key r₂)).imp ?_
  rintro entry' r' ⟨⟨good', left⟩, at_⟩
  rw [at_]
  refine ⟨id, hid, ?_⟩
  rw [eq]
  constructor
  · rw [left, ← schemas]
    split <;> rfl
  · rw [left, ← refs]
    split <;> rfl

/-- A document that was taken in under a name is found by it. It is found by its identifier if it was
    new, if this is the name, or if it was found by it before, and not otherwise. -/
theorem addSchemaWith_named (good : r.Good K) (document : Document) (add : AddOptions) :
    Ensures K r (addSchemaWith document add) fun entry r' => ∃ id, document.value.schemaId = .ok id ∧
      (normalizeId (add.key.getD id) ≠ "" →
        r'.store.lookup (normalizeId (add.key.getD id)) = some entry) ∧
      (id ≠ "" → (r'.store.lookup id = some entry ↔ !r.knowsDocument document ∨
        normalizeId (add.key.getD id) = id ∨ r.store.lookup id = some entry)) := by
  refine (addSchemaWith_tables good document add).and_good.imp ?_
  rintro entry r' ⟨good', id, hid, schemas, refs⟩
  exact ⟨id, hid, lookup_named good.settled.linked good'.settled.linked schemas refs⟩

/-- A document that was compiled is found by its identifier if it was new and the options say that it
    is listed, or if it was found by it before, and not otherwise. -/
theorem compile_named (good : r.Good K) (document : Document) :
    Ensures K r (compile document) fun v r' => ∃ id, document.value.schemaId = .ok id ∧
      (id ≠ "" → (r'.store.lookup id = some v.entry ↔
        !r.knowsDocument document ∧ r.options.addUsedSchema ∨
          r.store.lookup id = some v.entry)) := by
  unfold compile
  refine (Ensures.lift good _).bind fun id r₁ good₁ _ ⟨hid, same⟩ => ?_
  subst same
  refine .get_bind ?_
  have taken := addEntry_ensures good₁ document id false true r₁.options.addUsedSchema
  refine (taken.both (addEntry_names good₁ document id _ _ _)).bind
    fun entry r₂ good₂ _ ⟨_, schemas, refs⟩ => ?_
  refine ((compileEntry_ensures good₂ entry).orElseUndo fun r' good' => ?_).and_good.imp ?_
  · split
    · exact .pure good' trivial
    · exact .remove good' entry
  rintro v r' ⟨good', retains, at_, -⟩
  rw [at_]
  refine ⟨id, hid, fun nonempty => ?_⟩
  -- as if it was taken in under no name
  have unnamed : r'.store.schemas =
      if "".isEmpty then r₁.store.schemas else r₁.store.schemas.bind "" entry :=
    retains.schemas.trans schemas
  have listed : r'.store.refs =
      if (!r₁.knowsDocument document && r₁.options.addUsedSchema) && !id.isEmpty
        then r₁.store.refs.bind id entry else r₁.store.refs := by
    rw [retains.refs, refs, Bool.and_assoc]
  refine ((lookup_named good₁.settled.linked good'.settled.linked unnamed listed).2 nonempty).trans ?_
  rw [Bool.and_eq_true, or_iff_right (Ne.symm nonempty)]

/-- After any operations, a document that is taken in under a name is found by it, and by its identifier
    exactly if it was new, if the identifier is the name, or if it was found by it before. A document
    that is compiled is found by its identifier exactly if it was new and the options say that it is
    listed, or if it was found by it before. If the options say so, the documents that are no
    meta-schemas are always found by their identifiers. -/
theorem run_named (options : Options) (operations : List Operation) :
    let r := (create options).run operations
    (∀ document add entry r', addSchemaWith document add r = .ok entry r' →
      ∃ id, document.value.schemaId = .ok id ∧
        (normalizeId (add.key.getD id) ≠ "" →
          r'.store.lookup (normalizeId (add.key.getD id)) = some entry) ∧
        (id ≠ "" → (r'.store.lookup id = some entry ↔ !r.knowsDocument document ∨
          normalizeId (add.key.getD id) = id ∨ r.store.lookup id = some entry))) ∧
      (∀ document v r', compile document r = .ok v r' → ∃ id, document.value.schemaId = .ok id ∧
        (id ≠ "" → (r'.store.lookup id = some v.entry ↔
          !r.knowsDocument document ∧ options.addUsedSchema ∨
            r.store.lookup id = some v.entry))) ∧
      (options.addUsedSchema = true → ∀ id e, r.store.entry? id = some e → e.isFragment = false →
        e.isMeta = false → e.id ≠ "" → r.store.lookup e.id = some id) := by
  intro r
  have good : r.Good fun _ _ => True := reached_good options operations
  have steps := reached_steps options operations
  have under : r.options = options := steps.1
  refine ⟨fun document add entry r' ok => ((addSchemaWith_named good document add).of_ok ok).2,
    fun document v r' ok => ?_, fun all id e found doc plain nonempty => ?_⟩
  · have named := ((compile_named good document).of_ok ok).2
    rw [under] at named
    exact named
  · have listed : r.store.IsListed := steps.2.isListed all
    exact good.settled.linked.lookup_eq_some_iff.2
      (.inr (listed id e found (Store.isFragment_eq_false_iff.1 doc) plain nonempty))

/-- A keyword with a schema for its values that has an identifier. -/
def identifying : Keyword := { name := "unit", valueSchema := some identified.value }

/-- A document that was there as a schema for the values of a keyword is not found by its identifier,
    even when it was taken in under a name. -/
theorem run_named_unlisted :
    let r := (create { installMeta := false }).run [.addKeyword identifying]
    (addSchemaWith identified { key := some "k" }).run' r = some ⟨0⟩ ∧
      identified.value.schemaId.toOption = some "a" ∧
      ((addSchemaWith identified { key := some "k" }).after r).store.lookup "a" = none := by
  decide +kernel

end Registry

end JsonSchema
