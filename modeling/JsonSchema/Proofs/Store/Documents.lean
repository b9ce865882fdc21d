import JsonSchema.Proofs.Store.Denotation

/-!
# Taking documents in

A document gets a place, a cache key and, if wanted, its identifier; a name may be added.
Places are given out once: what is at a place later is what was there before, or nothing.

* `Store.Linked.insertDocument`, `Store.Linked.bindName`: the tables agree with the entries
  afterwards.
* `Store.Succeeds`: how the entries of a store change over time.
-/

namespace JsonSchema

namespace Store

variable {s s' s'' : Store} {id : EntryId} {e : Entry}

/-! ## Documents -/

/-- The store with one more document, which has a cache key and is found by its identifier
    if it is to be named. -/
def insertDocument (s : Store) (e : Entry) (key : CacheKey) (named : Bool) : Store :=
  let inserted := (s.insert fun self => { e with root := self }).2
  { inserted with
    cache := s.cache.bind key ⟨s.entries.size⟩
    refs := if named then s.refs.bind e.id ⟨s.entries.size⟩ else s.refs }

section InsertDocument

variable {key : CacheKey} {named : Bool}

theorem entry?_insertDocument (j : EntryId) :
    Store.entry? (s.insertDocument e key named) j =
      if j = ⟨s.entries.size⟩ then some { e with root := ⟨s.entries.size⟩ } else s.entry? j :=
  entry?_insert s (fun self => { e with root := self }) j

theorem entry?_insertDocument_of_some {j : EntryId} {f : Entry} (found : s.entry? j = some f) :
    Store.entry? (s.insertDocument e key named) j = some f := by
  rw [entry?_insertDocument, if_neg, found]
  rintro rfl
  rw [entry?_next] at found
  cases found

theorem entry?_of_insertDocument {j : EntryId} {f : Entry}
    (found : Store.entry? (s.insertDocument e key named) j = some f) :
    s.entry? j = some f ∨ j = ⟨s.entries.size⟩ ∧ f = { e with root := ⟨s.entries.size⟩ } := by
  rw [entry?_insertDocument] at found
  split at found
  · next h =>
    cases found
    exact .inr ⟨h, rfl⟩
  · exact .inl found

theorem mem_refs_insertDocument {b : String × EntryId}
    (h : b ∈ (s.insertDocument e key named).refs) : b = (e.id, ⟨s.entries.size⟩) ∨ b ∈ s.refs := by
  cases named with
  | true => exact Bindings.mem_bind h
  | false => exact .inr h

theorem find?_refs_insertDocument {name : String}
    (fresh : named = true → s.refs.find? e.id = none) (found : s.refs.find? name = some id) :
    (s.insertDocument e key named).refs.find? name = some id := by
  cases named with
  | true =>
    show (s.refs.bind e.id _).find? name = _
    rw [Bindings.find?_bind, if_neg, found]
    rintro rfl
    rw [fresh rfl] at found
    cases found
  | false => exact found

/-- A document that is not in the cache can be taken in, and be named by an identifier that
    is not in use. -/
theorem Linked.insertDocument (linked : s.Linked) (doc : e.pointer = "")
    (keyed : e.cacheKey = some key) (free : s.cache.find? key = none)
    (fresh : named = true → s.schemas.find? e.id = none ∧ s.refs.find? e.id = none) :
    (s.insertDocument e key named).Linked := by
  have entry : ∀ {j : EntryId} {f : Entry}, s.entry? j = some f →
      Store.entry? (s.insertDocument e key named) j = some f := entry?_insertDocument_of_some
  have self : Store.entry? (s.insertDocument e key named) ⟨s.entries.size⟩ =
      some { e with root := ⟨s.entries.size⟩ } := by
    rw [entry?_insertDocument, if_pos rfl]
  refine
    { schemasKeyed := linked.schemasKeyed, refsKeyed := ?_
      fragmentsKeyed := linked.fragmentsKeyed, cacheKeyed := linked.cacheKeyed.bind _ _
      schemas := fun b hb => ?_, refs := fun b hb => ?_, cached := fun b hb => ?_
      fragments := fun b hb => ?_, agree := fun name i j hs hr => ?_
      document := fun j f found docF => ?_, fragment := fun j f found part => ?_ }
  · cases named with
    | true => exact linked.refsKeyed.bind _ _
    | false => exact linked.refsKeyed
  · obtain ⟨f, hf, h⟩ := linked.schemas b hb
    exact ⟨f, entry hf, h⟩
  · rcases mem_refs_insertDocument hb with rfl | hb
    · exact ⟨_, self, doc⟩
    · obtain ⟨f, hf, h⟩ := linked.refs b hb
      exact ⟨f, entry hf, h⟩
  · rcases Bindings.mem_bind hb with rfl | hb
    · exact ⟨_, self, doc, keyed⟩
    · obtain ⟨f, hf, h⟩ := linked.cached b hb
      exact ⟨f, entry hf, h⟩
  · obtain ⟨f, hf, h⟩ := linked.fragments b hb
    exact ⟨f, entry hf, h⟩
  · cases named with
    | true =>
      have hr : (s.refs.bind e.id _).find? name = some j := hr
      rw [Bindings.find?_bind] at hr
      split at hr
      · next same =>
        subst same
        have hs : s.schemas.find? e.id = some i := hs
        rw [(fresh rfl).1] at hs
        cases hs
      · exact linked.agree name i j hs hr
    | false => exact linked.agree name i j hs hr
  · show f.root = j ∧ ∃ k, f.cacheKey = some k ∧ (s.cache.bind key _).find? k = some j
    rcases entry?_of_insertDocument found with old | ⟨rfl, rfl⟩
    · obtain ⟨root, k, hk, hc⟩ := linked.document j f old docF
      refine ⟨root, k, hk, ?_⟩
      rw [Bindings.find?_bind, if_neg, hc]
      rintro rfl
      rw [free] at hc
      cases hc
    · exact ⟨rfl, key, keyed, by rw [Bindings.find?_bind, if_pos rfl]⟩
  · rcases entry?_of_insertDocument found with old | ⟨rfl, rfl⟩
    · obtain ⟨hk, hf, d, hd, docD, cut⟩ := linked.fragment j f old part
      exact ⟨hk, hf, d, entry hd, docD, cut⟩
    · exact absurd doc part

theorem Linked.preserves_insertDocument (linked : s.Linked) (doc : e.pointer = "")
    (keyed : e.cacheKey = some key) (free : s.cache.find? key = none)
    (fresh : named = true → s.schemas.find? e.id = none ∧ s.refs.find? e.id = none) :
    s.Preserves (s.insertDocument e key named) fun _ => True := by
  refine preserves_of_extends (fun _ _ => entry?_insertDocument_of_some) (fun name id hl => ?_)
    fun _ _ h => h
  refine (linked.insertDocument doc keyed free fresh).lookup_eq_some_iff.2 ?_
  exact (linked.lookup_eq_some_iff.1 hl).imp (fun h => h) fun h =>
    find?_refs_insertDocument (fun h => (fresh h).2) h

end InsertDocument

/-! ## Names -/

/-- The store with one more name for a document. -/
def bindName (s : Store) (name : String) (id : EntryId) : Store :=
  { s with schemas := s.schemas.bind name id }

section BindName

variable {name : String}

/-- A name that is not in use can be given to a document, even if it is its identifier. -/
theorem Linked.bindName (linked : s.Linked) (found : s.entry? id = some e) (doc : e.pointer = "")
    (agree : ∀ b, s.refs.find? name = some b → b = id) : (s.bindName name id).Linked := by
  refine { linked with
    schemasKeyed := linked.schemasKeyed.bind _ _, schemas := fun b hb => ?_
    agree := fun n a b hs hr => ?_ }
  · rcases Bindings.mem_bind hb with rfl | hb
    · exact ⟨e, found, doc⟩
    · exact linked.schemas b hb
  · have hs : (s.schemas.bind name id).find? n = some a := hs
    rw [Bindings.find?_bind] at hs
    split at hs
    · next same =>
      cases hs
      exact (agree b (by rw [same]; exact hr)).symm
    · exact linked.agree n a b hs hr

theorem Linked.preserves_bindName (linked : s.Linked) (found : s.entry? id = some e)
    (doc : e.pointer = "") (free : s.schemas.find? name = none)
    (agree : ∀ b, s.refs.find? name = some b → b = id) :
    s.Preserves (s.bindName name id) fun _ => True := by
  refine preserves_of_extends (fun _ _ h => h) (fun n j hl => ?_) fun _ _ h => h
  refine (linked.bindName found doc agree).lookup_eq_some_iff.2 ?_
  refine (linked.lookup_eq_some_iff.1 hl).imp (fun h => ?_) fun h => h
  show (s.schemas.bind name id).find? n = some j
  rw [Bindings.find?_bind, if_neg, h]
  rintro rfl
  rw [free] at h
  cases h

end BindName

/-! ## Places over time -/

/-- Places are given out once: an entry at a place that was given out before was there
    before, and changed at most in what is not bare. -/
structure Succeeds (s s' : Store) : Prop where
  size : s.entries.size ≤ s'.entries.size
  entry : ∀ id e', id.index < s.entries.size → s'.entry? id = some e' →
    ∃ e, s.entry? id = some e ∧ e'.bare = e.bare

namespace Succeeds

theorem refl (s : Store) : s.Succeeds s := ⟨Nat.le_refl _, fun _ e' _ found => ⟨e', found, rfl⟩⟩

theorem trans (h : s.Succeeds s') (h' : s'.Succeeds s'') : s.Succeeds s'' where
  size := Nat.le_trans h.size h'.size
  entry id e'' lt found'' := by
    obtain ⟨e', found', eq'⟩ := h'.entry id e'' (Nat.lt_of_lt_of_le lt h.size) found''
    obtain ⟨e, found, eq⟩ := h.entry id e' lt found'
    exact ⟨e, found, eq'.trans eq⟩

/-- A store with the same places in use. -/
theorem of_alike (size : s.entries.size = s'.entries.size) (h : s.Alike s') : s.Succeeds s' where
  size := Nat.le_of_eq size
  entry id e' _ found' := by
    have := h.entries id
    rw [found'] at this
    obtain ⟨e, found, eq⟩ := Option.map_eq_some_iff.1 this.symm
    exact ⟨e, found, eq.symm⟩

/-- A store with one more place in use. -/
theorem of_extends (size : s.entries.size ≤ s'.entries.size)
    (added : ∀ id e, s'.entry? id = some e → s.entry? id = some e ∨ id = ⟨s.entries.size⟩) :
    s.Succeeds s' where
  size := size
  entry id e' lt found' := by
    rcases added id e' found' with old | rfl
    · exact ⟨e', old, rfl⟩
    · exact absurd lt (Nat.lt_irrefl _)

end Succeeds

end Store

end JsonSchema
