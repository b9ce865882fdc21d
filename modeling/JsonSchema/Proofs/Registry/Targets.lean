import JsonSchema.Proofs.Registry.Removal
import JsonSchema.Proofs.Registry.Steps

/-!
# What removals are complete for

A removal looks documents up by their names. A document that was taken in without its identifier,
by a compilation if the options say so or as a schema for the values of a keyword, is not found by
it, and stays.

* `Store.IsListed`: documents are found by their identifiers; `Store.Steps.isListed`: so they are,
  meta-schemas apart, as long as compilations list what they take in.
* `RemoveTarget.IsClear`: nothing is there that a target names.
* `Registry.run_clears`: so it is after a removal, identifiers that were not listed apart.
* `Registry.run_clears_unlisted`: it is not for these.
-/

namespace JsonSchema

namespace Store

variable {options : Options} {s s' : Store} {id : EntryId} {e : Entry}

/-! ## Listed documents -/

/-- Documents that are no meta-schemas are found by their identifiers. -/
def IsListed (s : Store) : Prop :=
  ∀ id e, s.entry? id = some e → e.pointer = "" → e.isMeta = false → e.id ≠ "" →
    s.refs.find? e.id = some id

/-- Documents that are listed stay listed in a store with the same identifiers that has none but
    these documents. -/
theorem IsListed.of_refs (listed : s.IsListed) (refs : s'.refs = s.refs)
    (was : ∀ id e', s'.entry? id = some e' → e'.pointer = "" → e'.isMeta = false →
      ∃ e, s.entry? id = some e ∧ e.pointer = "" ∧ e.isMeta = false ∧ e.id = e'.id) :
    s'.IsListed := by
  intro id e' found' doc' plain' nonempty
  obtain ⟨e, found, doc, plain, same⟩ := was id e' found' doc' plain'
  rw [refs, ← same]
  exact listed id e found doc plain (same ▸ nonempty)

theorem Spares.isListed (spares : s.Spares s') (listed : s.IsListed) : s'.IsListed := by
  refine listed.of_refs spares.refs fun id e' found' doc' plain' => ?_
  have there : s'.document? id = some e'.reset := by
    rw [document?, found', Option.filter_some, isFragment_eq_false_iff.2 doc']
    rfl
  rw [spares.documents, document?, Option.map_eq_some_iff] at there
  obtain ⟨e, there, same⟩ := there
  obtain ⟨found, doc⟩ := Option.filter_eq_some_iff.1 there
  rw [Bool.not_eq_true', isFragment_eq_false_iff] at doc
  refine ⟨e, found, doc, ?_, ?_⟩
  · rw [Entry.eq_of_reset_eq same] at plain'
    exact plain'
  · rw [Entry.eq_of_reset_eq same]

theorem IsListed.remove (listed : s.IsListed) (linked : s.Linked) (id : EntryId) :
    (s.remove id).IsListed := by
  by_cases live : s.isLive id = true
  · rw [remove_of_isLive live]
    obtain ⟨-, refs, -⟩ := (s.without (s.family id)).invalidate_tables (s.family id)
    intro j e' found' doc plain nonempty
    have alike := invalidate_alike (s.without (s.family id)) (s.family id)
    have left : ∃ e, s.entry? j = some e ∧ e.reset = e'.reset ∧ j ∉ s.family id := by
      rw [entry?_invalidate] at found'
      split at found'
      · obtain ⟨e, found, rfl⟩ := Option.map_eq_some_iff.1 found'
        obtain ⟨out, found⟩ := Linked.not_mem_of_entry?_without found
        exact ⟨e, found, rfl, out⟩
      · obtain ⟨out, found⟩ := Linked.not_mem_of_entry?_without found'
        exact ⟨e', found, rfl, out⟩
    obtain ⟨e, found, same, out⟩ := left
    rw [Entry.eq_of_reset_eq same] at doc plain nonempty ⊢
    rw [refs]
    show Bindings.find? (s.refs.filter _) e.id = some j
    rw [Bindings.find?_filter linked.refsKeyed, listed j e found doc plain nonempty]
    simp [out]
  · rw [remove_of_not_isLive (Bool.eq_false_iff.2 live)]
    exact listed

/-- A change keeps documents listed, if those that are taken in are listed. -/
theorem Step.isListed (all : options.addUsedSchema = true) (step : Step options s s')
    (listed : s.IsListed) : s'.IsListed := by
  obtain ⟨linked, linked', -, change⟩ := step
  obtain ⟨_, _, _, spares⟩ | ⟨edit⟩ := change
  · exact spares.isListed listed
  cases edit with
  | fragment spares => exact spares.isListed listed
  | insert doc new fresh lists =>
    intro j e' found' doc' plain nonempty
    rcases entry?_of_insertDocument found' with found | ⟨rfl, rfl⟩
    · exact find?_refs_insertDocument (fun named => (fresh named).2)
        (listed j e' found doc' plain nonempty)
    · rw [lists all plain nonempty]
      show Bindings.find? (s.refs.bind _ _) _ = _
      rw [Bindings.find?_bind, if_pos rfl]
  | name free agree => exact listed.of_refs rfl fun id e found doc plain => ⟨e, found, doc, plain, rfl⟩
  | promote root =>
    obtain ⟨reset, promotes⟩ := s.promotes (s.membersOf root)
    refine listed.of_refs promotes.alike.refs fun id e' found' doc plain => ?_
    obtain ⟨m, p, found⟩ := promotes.alike.symm.entry? found'
    refine ⟨_, found, doc, ?_, rfl⟩
    rcases promotes.marks id _ e' found found' with ⟨-, marked⟩ | ⟨-, same⟩
    · rw [plain] at marked
      cases marked
    · exact same.symm.trans plain
  | remove id => exact listed.remove linked id

theorem Steps.isListed (all : options.addUsedSchema = true) (steps : Steps options {} s) :
    s.IsListed := by
  induction steps with
  | refl => exact fun _ _ found => by cases found
  | tail _ step ih => exact step.isListed all ih

/-! ## Lookups -/

/-- What is found under a name after documents are gone was found before, and did not go. -/
theorem Loses.lookup_eq_some_iff {gone : List EntryId} (loses : s.Loses gone s') (linked : s.Linked)
    (linked' : s'.Linked) {name : String} :
    s'.lookup name = some id ↔ s.lookup name = some id ∧ id ∉ gone := by
  rw [linked.lookup_eq_some_iff, linked'.lookup_eq_some_iff, loses.schemas, loses.refs,
    Bindings.find?_filter linked.schemasKeyed, Bindings.find?_filter linked.refsKeyed,
    Option.filter_eq_some_iff, Option.filter_eq_some_iff, decide_eq_true_iff, or_and_right]

end Store

/-! ## Targets -/

/-- Nothing is there that a target names: no document, no name, and no cache key of a document.
    Identifiers count for the documents that are `known` by them. -/
def RemoveTarget.IsClear (target : RemoveTarget) (key : Document → CacheKey)
    (known : EntryId → Entry → Prop) (s : Store) : Prop :=
  match target with
  | .all => ∀ id e, s.entry? id = some e → e.isFragment = false → e.isMeta = true
  | .key name => s.lookup (normalizeId name) = none
  | .pattern p =>
    ∀ id e, s.entry? id = some e → e.isFragment = false → e.isMeta = false →
      (∀ name, s.schemas.find? name = some id ∨ s.refs.find? name = some id →
        p.occursIn name = false) ∧
      (known id e → e.id ≠ "" → p.occursIn e.id = false)
  | .document d =>
    ∀ id e, s.entry? id = some e → e.isFragment = false →
      e.cacheKey ≠ some (key d) ∧
      (known id e → e.id ≠ "" → d.value.schemaId ≠ .ok e.id)

namespace Registry

variable {K : EntryId → Compiler → Prop} {r : Registry} {id : EntryId} {e : Entry}

/-- Names by which a pattern finds a document that is no meta-schema. -/
theorem mem_victims_pattern {pattern : Pattern} {name : String} (found : r.store.entry? id = some e)
    (plain : e.isMeta = false)
    (bound : r.store.schemas.find? name = some id ∨ r.store.refs.find? name = some id)
    (occurs : pattern.occursIn name = true) : id ∈ r.victims (.pattern pattern) := by
  refine List.mem_eraseDups.2 (List.mem_filter.2 ⟨List.mem_map.2 ⟨(name, id), ?_, rfl⟩, ?_⟩)
  · refine List.mem_filter.2 ⟨List.mem_append.2 ?_, occurs⟩
    exact bound.imp Bindings.mem_of_find? Bindings.mem_of_find?
  · rw [found, Option.map_some, Option.getD_some, plain]
    rfl

theorem mem_victims_all (found : r.store.entry? id = some e) (doc : e.isFragment = false)
    (plain : e.isMeta = false) : id ∈ r.victims .all := by
  refine List.mem_filter.2 ⟨Store.mem_live.2 ⟨e, found⟩, ?_⟩
  rw [found, Option.map_some, Option.getD_some, isOrdinary, plain, doc]
  rfl

theorem mem_victims_cached {document : Document}
    (cached : r.store.cache.find? (r.options.serialize.key document) = some id) :
    id ∈ r.victims (.document document) :=
  List.mem_eraseDups.2 (List.mem_append_left _ (Option.mem_toList.2 cached))

theorem mem_victims_named {document : Document} {name : String}
    (named : document.value.schemaId = .ok name) (nonempty : name ≠ "")
    (found : r.store.lookup name = some id) : id ∈ r.victims (.document document) := by
  refine List.mem_eraseDups.2 (List.mem_append_right _ ?_)
  rw [named]
  show id ∈ if name.isEmpty then [] else (r.store.lookup name).toList
  rw [if_neg (by rwa [String.isEmpty_iff]), found]
  exact List.mem_cons_self

/-- A removal leaves nothing that its target names. Documents count that are still found by their
    identifiers and, if all are listed, those that are no meta-schemas. -/
theorem Good.isClear (good : r.Good K) (target : RemoveTarget) {s : Store}
    (loses : r.store.Loses (r.victims target) s) (linked' : s.Linked) {listed : Prop}
    (lists : listed → r.store.IsListed) :
    target.IsClear r.options.serialize.key
      (fun id e => s.lookup e.id = some id ∨ listed ∧ e.isMeta = false) s := by
  have linked := good.settled.linked
  -- what is left was there, and its target does not name it
  have left : ∀ {id : EntryId} {e' : Entry}, s.entry? id = some e' → e'.isFragment = false →
      ∃ e, r.store.entry? id = some e ∧ e'.reset = e.reset ∧ id ∉ r.victims target := by
    intro id e' found' doc
    obtain ⟨e, found, out, ⟨-, rfl⟩ | ⟨-, rfl⟩⟩ := loses.entry found'
    all_goals
      refine ⟨_, found, rfl, ?_⟩
      rwa [linked.document_root found (Store.isFragment_eq_false_iff.1 doc)] at out
  have known : ∀ {id : EntryId} {e' e : Entry}, r.store.entry? id = some e → e'.reset = e.reset →
      e'.isFragment = false → (s.lookup e'.id = some id ∨ listed ∧ e'.isMeta = false) →
      e'.id ≠ "" → r.store.lookup e'.id = some id := by
    intro id e' e found same doc known nonempty
    rcases known with found' | ⟨all, plain⟩
    · exact ((loses.lookup_eq_some_iff linked linked').1 found').1
    · rw [Entry.eq_of_reset_eq same.symm] at doc plain nonempty ⊢
      exact linked.lookup_eq_some_iff.2
        (.inr (lists all id e found (Store.isFragment_eq_false_iff.1 doc) plain nonempty))
  cases target with
  | all =>
    intro id e' found' doc
    obtain ⟨e, found, same, out⟩ := left found' doc
    rw [Entry.eq_of_reset_eq same.symm] at doc ⊢
    exact Bool.not_eq_false _ ▸ fun plain => out (mem_victims_all found doc plain)
  | key name =>
    refine Option.eq_none_iff_forall_ne_some.2 fun id found' => ?_
    obtain ⟨found, out⟩ := (loses.lookup_eq_some_iff linked linked').1 found'
    exact out (Option.mem_toList.2 found)
  | pattern pattern =>
    intro id e' found' doc plain'
    obtain ⟨e, found, same, out⟩ := left found' doc
    have plain : e.isMeta = false := by
      rw [Entry.eq_of_reset_eq same] 
      exact plain'
    have apart : ∀ name, r.store.schemas.find? name = some id ∨ r.store.refs.find? name = some id →
        pattern.occursIn name = false := fun name bound =>
      Bool.eq_false_iff.2 fun occurs => out (mem_victims_pattern found plain bound occurs)
    refine ⟨fun name bound => apart name (linked.lookup_eq_some_iff.1 ?_), fun listed nonempty => ?_⟩
    · exact ((loses.lookup_eq_some_iff linked linked').1 (linked'.lookup_eq_some_iff.2 bound)).1
    · exact apart _ (linked.lookup_eq_some_iff.1 (known found same doc listed nonempty))
  | document document =>
    intro id e' found' doc
    obtain ⟨e, found, same, out⟩ := left found' doc
    refine ⟨fun keyed => out (mem_victims_cached ?_), fun listed nonempty named => out ?_⟩
    · rw [Entry.eq_of_reset_eq same.symm] at doc keyed
      obtain ⟨-, key, has, cached⟩ :=
        linked.document id e found (Store.isFragment_eq_false_iff.1 doc)
      rw [has] at keyed
      cases keyed
      exact cached
    · exact mem_victims_named named nonempty (known found same doc listed nonempty)

/-- After any operations, a removal leaves nothing that its target names, under whatever options. A
    document is found by its identifier if it was listed, as all are that are no meta-schemas
    unless the options say that compilations do not list what they take in. -/
theorem run_clears (options : Options) (operations : List Operation) (target : RemoveTarget) :
    let s := ((removeSchema target).after ((create options).run operations)).store
    target.IsClear options.serialize.key
      (fun id e => s.lookup e.id = some id ∨ options.addUsedSchema = true ∧ e.isMeta = false) s := by
  intro s
  have good : ((create options).run operations).Good fun _ _ => True := reached_good options operations
  obtain ⟨under, steps⟩ := reached_steps options operations
  obtain ⟨s', ran, loses⟩ := removeSchema_loses good target
  have left : s = s' := by
    show ((removeSchema target).after _).store = s'
    unfold RegistryM.after
    rw [ran]
  have linked' : s'.Linked := by
    have after := (removeSchema_ensures good target).after.1.settled.linked
    rwa [show ((removeSchema target).after _).store = s' from left] at after
  have lists : options.addUsedSchema = true → ((create options).run operations).store.IsListed :=
    fun all => steps.isListed all
  have clear := good.isClear target loses linked' lists
  rw [under] at clear
  rw [left]
  exact clear

/-- A document with an identifier. -/
def identified : Document := ⟨.object [("$id", .string "a")], .given 0⟩

/-- Where compilations do not list what they take in, a pattern that occurs in the identifier of a
    document does not remove it. -/
theorem run_clears_unlisted :
    ¬ (RemoveTarget.pattern .empty).IsClear KeySerializer.canonical.key (fun _ _ => True)
      ((removeSchema (.pattern .empty)).after
        ((create { installMeta := false, addUsedSchema := false }).run
          [.compile identified])).store := by
  intro clear
  have there : (Store.entry? ((removeSchema (.pattern .empty)).after
      ((create { installMeta := false, addUsedSchema := false }).run
        [.compile identified])).store ⟨0⟩).map (fun e => (e.isFragment, e.isMeta, e.id)) =
      some (false, false, "a") := by decide +kernel
  obtain ⟨e, found, same⟩ := Option.map_eq_some_iff.1 there
  simp only [Prod.mk.injEq] at same
  obtain ⟨doc, plain, named⟩ := same
  have out := (clear ⟨0⟩ e found doc plain).2 trivial (by rw [named]; decide)
  rw [named] at out
  cases out

end Registry

end JsonSchema
