import JsonSchema.Proofs.Store.Entries
import JsonSchema.Store.Resolve

/-!
# Linked stores

In a linked store the tables and the entries agree: every binding leads to an entry that it
describes, and every entry is found under what describes it.

* `Entry.bare`, `Store.Alike`: what compilations and promotions leave alone.
* `Store.Linked`: the agreement; `Store.Linked.of_alike`: it depends on nothing else.
* `Store.Linked.without`: a document may go together with its fragments, and a fragment
  alone.
* `Store.Uniform`: a fragment is a meta-schema if its document is one.
-/

namespace JsonSchema

/-! ## Bare entries -/

/-- An entry apart from its compilation and from whether it is a meta-schema. -/
def Entry.bare (e : Entry) : Entry := { e with isMeta := false, progress := .notStarted }

theorem Entry.bare_eq_of_reset_eq {e e' : Entry} (h : e.reset = e'.reset) : e.bare = e'.bare := by
  rw [Entry.eq_of_reset_eq h]
  rfl

theorem Entry.eq_of_bare_eq {e e' : Entry} (h : e'.bare = e.bare) :
    e' = { e with isMeta := e'.isMeta, progress := e'.progress } := by
  cases e
  cases e'
  simp only [bare, Entry.mk.injEq] at h ⊢
  simp only [h, and_self]

/-- Whether a fragment is the part of a document at its pointer. -/
def Entry.IsCutFrom (e d : Entry) : Prop :=
  ∃ segments, Pointer.segments? e.pointer = some segments ∧
    d.document.follow? d.id segments = some (e.document, e.id)

namespace Store

variable {s s' : Store} {id : EntryId} {e : Entry}

/-- Stores with the same tables whose entries differ at most in what is not bare. -/
structure Alike (s s' : Store) : Prop where
  schemas : s'.schemas = s.schemas
  refs : s'.refs = s.refs
  fragments : s'.fragments = s.fragments
  cache : s'.cache = s.cache
  entries : ∀ id, (s'.entry? id).map Entry.bare = (s.entry? id).map Entry.bare

namespace Alike

theorem refl (s : Store) : s.Alike s := ⟨rfl, rfl, rfl, rfl, fun _ => rfl⟩

theorem symm (h : s.Alike s') : s'.Alike s :=
  ⟨h.schemas.symm, h.refs.symm, h.fragments.symm, h.cache.symm, fun id => (h.entries id).symm⟩

theorem trans {s'' : Store} (h : s.Alike s') (h' : s'.Alike s'') : s.Alike s'' :=
  ⟨h'.schemas.trans h.schemas, h'.refs.trans h.refs, h'.fragments.trans h.fragments,
    h'.cache.trans h.cache, fun id => (h'.entries id).trans (h.entries id)⟩

theorem entry? (h : s.Alike s') (found : s.entry? id = some e) :
    ∃ m p, s'.entry? id = some { e with isMeta := m, progress := p } := by
  have bares : (s'.entry? id).map Entry.bare = some e.bare := by
    rw [h.entries, found]
    rfl
  obtain ⟨e', found', eq⟩ := Option.map_eq_some_iff.1 bares
  exact ⟨e'.isMeta, e'.progress, by rw [found', Entry.eq_of_bare_eq eq]⟩

theorem isLive (h : s.Alike s') : s'.isLive = s.isLive := by
  funext id
  have := congrArg Option.isSome (h.entries id)
  rwa [Option.isSome_map, Option.isSome_map] at this

theorem lookup (h : s.Alike s') : s'.lookup = s.lookup := by
  funext name
  rw [Store.lookup, Store.lookup, h.schemas, h.refs, h.isLive]

end Alike

theorem modify_alike (change : Entry → Entry) (h : ∀ e, (change e).bare = e.bare) (s : Store)
    (id : EntryId) : s.Alike (s.modify id change) := by
  refine ⟨rfl, rfl, rfl, rfl, fun j => ?_⟩
  rw [entry?_modify]
  split
  · rw [Option.map_map]
    exact congrArg (Option.map · _) (funext h)
  · rfl

theorem invalidate_alike (s : Store) (targets : List EntryId) : s.Alike (s.invalidate targets) := by
  obtain ⟨h1, h2, h3, h4, -⟩ := invalidate_tables s targets
  refine ⟨h1, h2, h3, h4, fun j => ?_⟩
  rw [entry?_invalidate]
  split
  · rw [Option.map_map]
    rfl
  · rfl

/-! ## Linked stores -/

/-- The tables and the entries agree. -/
structure Linked (s : Store) : Prop where
  schemasKeyed : Bindings.Keyed s.schemas
  refsKeyed : Bindings.Keyed s.refs
  fragmentsKeyed : Bindings.Keyed s.fragments
  cacheKeyed : Bindings.Keyed s.cache
  /-- A name leads to a document. -/
  schemas : ∀ b ∈ s.schemas, ∃ e, s.entry? b.2 = some e ∧ e.pointer = ""
  /-- An identifier leads to a document. -/
  refs : ∀ b ∈ s.refs, ∃ e, s.entry? b.2 = some e ∧ e.pointer = ""
  /-- A cache key leads to a document that has it. -/
  cached : ∀ b ∈ s.cache, ∃ e, s.entry? b.2 = some e ∧ e.pointer = "" ∧ e.cacheKey = some b.1
  /-- A document and a pointer lead to the fragment there. -/
  fragments : ∀ b ∈ s.fragments, ∃ e, s.entry? b.2 = some e ∧ e.root = b.1.1 ∧
    e.pointer = b.1.2 ∧ e.pointer ≠ ""
  /-- No text is the name of one document and the identifier of another. -/
  agree : ∀ name a b, s.schemas.find? name = some a → s.refs.find? name = some b → a = b
  /-- A document belongs to itself and is in the cache. -/
  document : ∀ id e, s.entry? id = some e → e.pointer = "" →
    e.root = id ∧ ∃ key, e.cacheKey = some key ∧ s.cache.find? key = some id
  /-- A fragment was cut from a document, and is found there again. -/
  fragment : ∀ id e, s.entry? id = some e → e.pointer ≠ "" →
    e.cacheKey = none ∧ s.fragments.find? (e.root, e.pointer) = some id ∧
      ∃ d, s.entry? e.root = some d ∧ d.pointer = "" ∧ e.IsCutFrom d

/-- Alike stores are linked or not together. -/
theorem Linked.of_alike (linked : s.Linked) (h : s.Alike s') : s'.Linked := by
  have ⟨schemas, refs, fragments, cache, _⟩ := h
  have entry : ∀ {id : EntryId} {e : Entry}, s.entry? id = some e →
      ∃ m p, s'.entry? id = some { e with isMeta := m, progress := p } :=
    h.entry?
  refine
    { schemasKeyed := schemas ▸ linked.schemasKeyed, refsKeyed := refs ▸ linked.refsKeyed
      fragmentsKeyed := fragments ▸ linked.fragmentsKeyed
      cacheKeyed := cache ▸ linked.cacheKeyed, schemas := ?_, refs := ?_, cached := ?_
      fragments := ?_, agree := ?_, document := ?_, fragment := ?_ }
  · intro b hb
    obtain ⟨e, found, he⟩ := linked.schemas b (schemas ▸ hb)
    obtain ⟨m, p, found'⟩ := entry found
    exact ⟨_, found', he⟩
  · intro b hb
    obtain ⟨e, found, he⟩ := linked.refs b (refs ▸ hb)
    obtain ⟨m, p, found'⟩ := entry found
    exact ⟨_, found', he⟩
  · intro b hb
    obtain ⟨e, found, he⟩ := linked.cached b (cache ▸ hb)
    obtain ⟨m, p, found'⟩ := entry found
    exact ⟨_, found', he⟩
  · intro b hb
    obtain ⟨e, found, he⟩ := linked.fragments b (fragments ▸ hb)
    obtain ⟨m, p, found'⟩ := entry found
    exact ⟨_, found', he⟩
  · rw [schemas, refs]
    exact linked.agree
  · intro id e' found' doc
    obtain ⟨m, p, found⟩ := h.symm.entry? found'
    rw [cache]
    exact (linked.document id _ found doc :)
  · intro id e' found' part
    obtain ⟨m, p, found⟩ := h.symm.entry? found'
    obtain ⟨key, bound, d, foundD, doc, cut⟩ := linked.fragment id _ found part
    obtain ⟨m', p', foundD'⟩ := entry foundD
    rw [fragments]
    exact ⟨key, bound, _, foundD', doc, cut⟩

namespace Linked

theorem document_root (linked : s.Linked) (found : s.entry? id = some e) (doc : e.pointer = "") :
    e.root = id := (linked.document id e found doc).1

/-- The document that an entry belongs to is there, and belongs to itself. -/
theorem root_entry (linked : s.Linked) (found : s.entry? id = some e) :
    ∃ d, s.entry? e.root = some d ∧ d.pointer = "" ∧ d.root = e.root := by
  by_cases doc : e.pointer = ""
  · have root := linked.document_root found doc
    exact ⟨e, by rw [root]; exact found, doc, rfl⟩
  · obtain ⟨-, -, d, foundD, hd, -⟩ := linked.fragment id e found doc
    exact ⟨d, foundD, hd, linked.document_root foundD hd⟩

theorem lookup_eq_some_iff (linked : s.Linked) {name : String} :
    s.lookup name = some id ↔ s.schemas.find? name = some id ∨ s.refs.find? name = some id := by
  have live : ∀ {b : String × EntryId}, b ∈ s.schemas ∨ b ∈ s.refs → s.isLive b.2 = true := by
    rintro b (h | h)
    · obtain ⟨e, found, -⟩ := linked.schemas b h
      exact isLive_of_entry found
    · obtain ⟨e, found, -⟩ := linked.refs b h
      exact isLive_of_entry found
  rw [lookup]
  cases hs : s.schemas.find? name with
  | some a =>
    have := live (.inl (Bindings.mem_of_find? hs))
    cases hr : s.refs.find? name with
    | some b =>
      have e := linked.agree name a b hs hr
      subst e
      simp [Option.filter, this]
    | none => simp [Option.filter, this]
  | none =>
    cases hr : s.refs.find? name with
    | some b =>
      have := live (.inr (Bindings.mem_of_find? hr))
      simp [Option.filter, this]
    | none => simp

/-- A name or an identifier leads to a document. -/
theorem lookup_document (linked : s.Linked) {name : String} (h : s.lookup name = some id) :
    ∃ e, s.entry? id = some e ∧ e.pointer = "" := by
  rcases linked.lookup_eq_some_iff.1 h with h | h
  · exact linked.schemas _ (Bindings.mem_of_find? h)
  · exact linked.refs _ (Bindings.mem_of_find? h)

theorem isTaken_eq_false_iff {name : String} :
    s.isTaken name = false ↔ s.schemas.find? name = none ∧ s.refs.find? name = none := by
  rw [isTaken, Bool.or_eq_false_iff, Bindings.binds_eq_false_iff, Bindings.binds_eq_false_iff]

/-- Nothing is found under a name that is not in use, and something under every other. -/
theorem lookup_eq_none_iff (linked : s.Linked) {name : String} :
    s.lookup name = none ↔ s.isTaken name = false := by
  rw [isTaken_eq_false_iff, Option.eq_none_iff_forall_ne_some, Option.eq_none_iff_forall_ne_some,
    Option.eq_none_iff_forall_ne_some, ← forall_and]
  refine forall_congr' fun id => ?_
  rw [ne_eq, linked.lookup_eq_some_iff, not_or]

/-! ## Removal -/

/-- What belongs to a removed document is removed. -/
theorem mem_family_of_root (linked : s.Linked) {j : EntryId} (found : s.entry? j = some e)
    (h : e.root ∈ s.family id) : j ∈ s.family id := by
  by_cases doc : e.pointer = ""
  · rw [linked.document_root found doc] at h
    exact h
  · obtain ⟨-, bound, d, foundD, hd, -⟩ := linked.fragment j e found doc
    rcases mem_family.1 h with root | ⟨pointer, mem, -⟩
    · refine mem_family.2 (.inr ⟨e.pointer, root ▸ Bindings.mem_of_find? bound, fun eq => ?_⟩)
      rw [root, ← eq, found] at foundD
      cases foundD
      exact doc hd
    · obtain ⟨d', foundD', -, -, hd'⟩ := linked.fragments _ mem
      rw [foundD] at foundD'
      cases foundD'
      exact absurd hd hd'

theorem entry?_without_family {j : EntryId} (h : j ∉ s.family id) :
    Store.entry? (s.without (s.family id)) j = s.entry? j := by
  rw [entry?_without, if_neg h]

theorem not_mem_of_entry?_without {gone : List EntryId} {j : EntryId}
    (found : Store.entry? (s.without gone) j = some e) : j ∉ gone ∧ s.entry? j = some e := by
  rw [entry?_without] at found
  split at found
  · cases found
  · next h => exact ⟨h, found⟩

theorem without (linked : s.Linked) (id : EntryId) : (s.without (s.family id)).Linked := by
  have filtered : ∀ {α : Type} {t : Bindings α EntryId} {b : α × EntryId},
      b ∈ t.filter (!(s.family id).contains ·.2) → b ∈ t ∧ b.2 ∉ s.family id := by
    intro α t b hb
    obtain ⟨mem, out⟩ := List.mem_filter.1 hb
    exact ⟨mem, by simpa using out⟩
  refine
    { schemasKeyed := linked.schemasKeyed.filter _, refsKeyed := linked.refsKeyed.filter _
      fragmentsKeyed := linked.fragmentsKeyed.filter _, cacheKeyed := linked.cacheKeyed.filter _
      schemas := ?_, refs := ?_, cached := ?_, fragments := ?_, agree := ?_, document := ?_
      fragment := ?_ }
  · intro b hb
    obtain ⟨mem, out⟩ := filtered hb
    rw [entry?_without_family out]
    exact linked.schemas b mem
  · intro b hb
    obtain ⟨mem, out⟩ := filtered hb
    rw [entry?_without_family out]
    exact linked.refs b mem
  · intro b hb
    obtain ⟨mem, out⟩ := filtered hb
    rw [entry?_without_family out]
    exact linked.cached b mem
  · intro b hb
    obtain ⟨mem, out⟩ := List.mem_filter.1 hb
    rw [entry?_without_family (by simp at out; exact out.2)]
    exact linked.fragments b mem
  · intro name a b ha hb
    simp only [Store.without] at ha hb
    rw [Bindings.find?_filter linked.schemasKeyed, Option.filter_eq_some_iff] at ha
    rw [Bindings.find?_filter linked.refsKeyed, Option.filter_eq_some_iff] at hb
    exact linked.agree name a b ha.1 hb.1
  · intro j e found doc
    obtain ⟨out, found⟩ := not_mem_of_entry?_without found
    obtain ⟨root, key, hk, hc⟩ := linked.document j e found doc
    refine ⟨root, key, hk, ?_⟩
    simp only [Store.without]
    rw [Bindings.find?_filter linked.cacheKeyed, Option.filter_eq_some_iff]
    exact ⟨hc, by simpa using out⟩
  · intro j e found part
    obtain ⟨out, found⟩ := not_mem_of_entry?_without found
    obtain ⟨hk, hf, d, foundD, hd, cut⟩ := linked.fragment j e found part
    have root : e.root ∉ s.family id := fun h => out (linked.mem_family_of_root found h)
    refine ⟨hk, ?_, d, ?_, hd, cut⟩
    · simp only [Store.without]
      rw [Bindings.find?_filter linked.fragmentsKeyed, Option.filter_eq_some_iff]
      exact ⟨hf, by simp [root, out]⟩
    · rw [entry?_without_family root]
      exact foundD

theorem remove (linked : s.Linked) (id : EntryId) : (s.remove id).Linked := by
  by_cases live : s.isLive id = true
  · rw [remove_of_isLive live]
    exact (linked.without id).of_alike (invalidate_alike _ _)
  · rw [remove_of_not_isLive (Bool.eq_false_iff.2 live)]
    exact linked

end Linked

/-! ## Meta-schemas -/

/-- An entry is a meta-schema exactly if its document is one. -/
def Uniform (s : Store) : Prop :=
  ∀ id e d, s.entry? id = some e → s.entry? e.root = some d → e.isMeta = d.isMeta

end Store

end JsonSchema
