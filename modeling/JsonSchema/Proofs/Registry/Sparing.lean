import JsonSchema.Proofs.Registry.Changes

/-!
# What a failure spares

A failed operation takes back what it added. Removing a document that was just taken in
resets whatever led to it, so it has to be shown that nothing which was compiled before did.

* `Store.KeepsNames`: names in use stay in use.
* `Store.Spares`: the documents and the tables that lead to them are as they were, and what was
  compiled is compiled as it was.
* `Store.Gains`: the same but for one place that was given out since.
* `Store.Gains.remove`: removing what is at that place takes everything back.
* `Compiler.compile_spares`: a compilation spares what was there, whatever its outcome.
-/

namespace JsonSchema

namespace Store

variable {K : EntryId → Compiler → Prop} {s s' s'' : Store} {id : EntryId} {e : Entry}

/-! ## Documents -/

/-- The document at a place, as it was taken in; none where there is a fragment. -/
def document? (s : Store) (id : EntryId) : Option Entry :=
  ((s.entry? id).filter fun e => !e.isFragment).map Entry.reset

theorem document?_eq_none (h : ∀ e, s.entry? id = some e → e.pointer ≠ "") :
    s.document? id = none := by
  rw [document?]
  cases found : s.entry? id with
  | none => rfl
  | some e =>
    have part : e.isFragment = true := by
      rw [Entry.isFragment, Bool.not_eq_true', ← Bool.not_eq_true, String.isEmpty_iff]
      exact h e found
    rw [Option.filter_some, part]
    rfl

/-- An entry that differs at most in its compilation holds the same document. -/
theorem document?_of_reset {j : EntryId} {e' : Entry} (found : s.entry? id = some e)
    (found' : s'.entry? j = some e') (same : e'.reset = e.reset) :
    s'.document? j = s.document? id := by
  have part : e'.isFragment = e.isFragment := by rw [Entry.eq_of_reset_eq same.symm]; rfl
  rw [document?, document?, found, found', Option.filter_some, Option.filter_some, part]
  split
  · rw [Option.map_some, Option.map_some, same]
  · rfl

theorem document?_invalidate (s : Store) (targets : List EntryId) (j : EntryId) :
    (s.invalidate targets).document? j = s.document? j := by
  cases found : s.entry? j with
  | none =>
    have none : Store.entry? (s.invalidate targets) j = none := by
      rw [entry?_invalidate, found]
      split <;> rfl
    rw [document?, document?, none, found]
  | some e =>
    have some_ : ∃ e', Store.entry? (s.invalidate targets) j = some e' ∧ e'.reset = e.reset := by
      rw [entry?_invalidate, found]
      split
      · exact ⟨e.reset, rfl, rfl⟩
      · exact ⟨e, rfl, rfl⟩
    obtain ⟨e', found', same⟩ := some_
    exact document?_of_reset found found' same

theorem document?_without (s : Store) (gone : List EntryId) (j : EntryId) :
    (s.without gone).document? j = if j ∈ gone then none else s.document? j := by
  rw [document?, entry?_without]
  split <;> rfl

/-! ## Names -/

/-- The names and identifiers in use stay in use. -/
def KeepsNames (s s' : Store) : Prop := ∀ name, s.isTaken name = true → s'.isTaken name = true

namespace KeepsNames

theorem refl (s : Store) : s.KeepsNames s := fun _ taken => taken

theorem trans (h : s.KeepsNames s') (h' : s'.KeepsNames s'') : s.KeepsNames s'' :=
  fun name taken => h' name (h name taken)

/-- Tables to which bindings were added. -/
theorem of_filter {p q : String × EntryId → Bool} (schemas : s'.schemas.filter p = s.schemas)
    (refs : s'.refs.filter q = s.refs) : s.KeepsNames s' := by
  have finds {t t' : Bindings String EntryId} {p : String × EntryId → Bool} {name : String}
      (same : t'.filter p = t) (free : t'.find? name = none) : t.find? name = none := by
    rw [Bindings.find?_eq_none_iff] at free ⊢
    intro b mem
    rw [← same] at mem
    exact free b (List.mem_filter.1 mem).1
  intro name taken
  by_contra free
  obtain ⟨free, unused⟩ := Linked.isTaken_eq_false_iff.1 (Bool.eq_false_iff.2 free)
  rw [Linked.isTaken_eq_false_iff.2 ⟨finds schemas free, finds refs unused⟩] at taken
  cases taken

theorem of_eq (schemas : s'.schemas = s.schemas) (refs : s'.refs = s.refs) : s.KeepsNames s' := by
  intro name taken
  rw [isTaken, schemas, refs]
  exact taken

theorem bindName (s : Store) (name : String) (id : EntryId) :
    s.KeepsNames (s.bindName name id) ∧ (s.bindName name id).isTaken name = true := by
  have found : ∀ n, (s.schemas.bind name id).binds n = (decide (name = n) || s.schemas.binds n) := by
    intro n
    rw [Bindings.binds, Bindings.find?_bind, Bindings.binds]
    by_cases same : name = n <;> simp [same]
  refine ⟨fun n taken => ?_, ?_⟩
  · rw [isTaken, Bool.or_eq_true] at taken ⊢
    refine taken.imp_left fun taken => ?_
    rw [Store.bindName, found, taken, Bool.or_true]
  · rw [isTaken, Store.bindName, found, decide_eq_true rfl, Bool.true_or, Bool.true_or]

end KeepsNames

theorem Alike.keepsNames (alike : s.Alike s') : s.KeepsNames s' :=
  .of_eq alike.schemas alike.refs

/-! ## Sparing -/

/-- The documents of a store and the tables that lead to them are as they were, and so is
    everything that was compiled. -/
structure Spares (s s' : Store) : Prop where
  size : s.entries.size ≤ s'.entries.size
  schemas : s'.schemas = s.schemas
  refs : s'.refs = s.refs
  cache : s'.cache = s.cache
  documents : ∀ id, s'.document? id = s.document? id
  compiled : ∀ id e node refs, s.entry? id = some e → e.progress = .done node refs →
    s'.entry? id = some e

namespace Spares

theorem refl (s : Store) : s.Spares s :=
  ⟨Nat.le_refl _, rfl, rfl, rfl, fun _ => rfl, fun _ _ _ _ found _ => found⟩

theorem trans (h : s.Spares s') (h' : s'.Spares s'') : s.Spares s'' where
  size := Nat.le_trans h.size h'.size
  schemas := h'.schemas.trans h.schemas
  refs := h'.refs.trans h.refs
  cache := h'.cache.trans h.cache
  documents id := (h'.documents id).trans (h.documents id)
  compiled id e node refs found done :=
    h'.compiled id e node refs (h.compiled id e node refs found done) done

theorem keepsNames (h : s.Spares s') : s.KeepsNames s' := .of_eq h.schemas h.refs

end Spares

/-- A store was spared but for one place, which was given out since. -/
structure Gains (s s' : Store) (id : EntryId) : Prop where
  fresh : s.entries.size ≤ id.index
  size : s.entries.size ≤ s'.entries.size
  schemas : s'.schemas.filter (·.2 ≠ id) = s.schemas
  refs : s'.refs.filter (·.2 ≠ id) = s.refs
  cache : s'.cache.filter (·.2 ≠ id) = s.cache
  documents : ∀ j, j ≠ id → s'.document? j = s.document? j
  compiled : ∀ j e node refs, s.entry? j = some e → e.progress = .done node refs →
    s'.entry? j = some e

/-- A table that leads to documents that are there does not lead to a place that is free. -/
theorem filter_eq_of_fresh {α : Type} {t : Bindings α EntryId}
    (leads : ∀ b ∈ t, ∃ e, s.entry? b.2 = some e) (fresh : s.entries.size ≤ id.index) :
    t.filter (·.2 ≠ id) = t := by
  refine List.filter_eq_self.2 fun b mem => decide_eq_true ?_
  rintro rfl
  obtain ⟨e, found⟩ := leads b mem
  exact absurd (index_lt_size found) (Nat.not_lt_of_le fresh)

/-- What was spared was spared but for any place that was free. -/
theorem Spares.gains (spares : s.Spares s') (linked : s.Linked)
    (fresh : s.entries.size ≤ id.index) : s.Gains s' id where
  fresh := fresh
  size := spares.size
  schemas := by
    rw [spares.schemas]
    exact filter_eq_of_fresh (fun b mem => (linked.schemas b mem).imp fun _ h => h.1) fresh
  refs := by
    rw [spares.refs]
    exact filter_eq_of_fresh (fun b mem => (linked.refs b mem).imp fun _ h => h.1) fresh
  cache := by
    rw [spares.cache]
    exact filter_eq_of_fresh (fun b mem => (linked.cached b mem).imp fun _ h => h.1) fresh
  documents j _ := spares.documents j
  compiled := spares.compiled

namespace Gains

theorem trans (gains : s.Gains s' id) (spares : s'.Spares s'') : s.Gains s'' id where
  fresh := gains.fresh
  size := Nat.le_trans gains.size spares.size
  schemas := by rw [spares.schemas, gains.schemas]
  refs := by rw [spares.refs, gains.refs]
  cache := by rw [spares.cache, gains.cache]
  documents j ne := (spares.documents j).trans (gains.documents j ne)
  compiled j e node refs found done :=
    spares.compiled j e node refs (gains.compiled j e node refs found done) done

theorem after (spares : s.Spares s') (gains : s'.Gains s'' id) : s.Gains s'' id where
  fresh := Nat.le_trans spares.size gains.fresh
  size := Nat.le_trans spares.size gains.size
  schemas := gains.schemas.trans spares.schemas
  refs := gains.refs.trans spares.refs
  cache := gains.cache.trans spares.cache
  documents j ne := (gains.documents j ne).trans (spares.documents j)
  compiled j e node refs found done :=
    gains.compiled j e node refs (spares.compiled j e node refs found done) done

theorem keepsNames (gains : s.Gains s' id) : s.KeepsNames s' :=
  .of_filter gains.schemas gains.refs

/-- A document that is taken in is all that a store gains by that. -/
theorem insertDocument (linked : s.Linked) {key : CacheKey} {named : Bool}
    (free : s.cache.find? key = none) (fresh : named = true → s.refs.find? e.id = none) :
    s.Gains (s.insertDocument e key named) ⟨s.entries.size⟩ := by
  have schemas : s.schemas.filter (·.2 ≠ ⟨s.entries.size⟩) = s.schemas :=
    filter_eq_of_fresh (fun b mem => (linked.schemas b mem).imp fun _ h => h.1) (Nat.le_refl _)
  have refs : s.refs.filter (·.2 ≠ ⟨s.entries.size⟩) = s.refs :=
    filter_eq_of_fresh (fun b mem => (linked.refs b mem).imp fun _ h => h.1) (Nat.le_refl _)
  have cache : s.cache.filter (·.2 ≠ ⟨s.entries.size⟩) = s.cache :=
    filter_eq_of_fresh (fun b mem => (linked.cached b mem).imp fun _ h => h.1) (Nat.le_refl _)
  refine
    { fresh := Nat.le_refl _, size := by simp [Store.insertDocument], schemas := schemas
      refs := ?_, cache := ?_, documents := fun j ne => ?_
      compiled := fun j f node refs found done => entry?_insertDocument_of_some found }
  · cases named with
    | false => exact refs
    | true =>
      show (s.refs.bind e.id ⟨s.entries.size⟩).filter _ = _
      rw [Bindings.bind_eq_append _ (fresh rfl), List.filter_append, refs]
      simp
  · show (s.cache.bind key ⟨s.entries.size⟩).filter _ = _
    rw [Bindings.bind_eq_append _ free, List.filter_append, cache]
    simp
  · rw [document?, document?, entry?_insertDocument, if_neg ne]

/-! ## Taking back -/

theorem document?_self (gains : s.Gains s' id) : s.document? id = none :=
  document?_eq_none fun _ found =>
    absurd (index_lt_size found) (Nat.not_lt_of_le gains.fresh)

/-- Nothing was gained where nothing is. -/
theorem spares (gains : s.Gains s' id) (linked' : s'.Linked) (none : s'.entry? id = none) :
    s.Spares s' := by
  have tables : ∀ {α : Type} {t : Bindings α EntryId},
      (∀ b ∈ t, ∃ e, s'.entry? b.2 = some e) → t.filter (·.2 ≠ id) = t := by
    intro α t leads
    refine List.filter_eq_self.2 fun b mem => decide_eq_true ?_
    rintro rfl
    obtain ⟨e, found⟩ := leads b mem
    rw [none] at found
    cases found
  refine
    { size := gains.size, schemas := ?_, refs := ?_, cache := ?_, documents := fun j => ?_
      compiled := gains.compiled }
  · rw [← gains.schemas, tables fun b mem => (linked'.schemas b mem).imp fun _ h => h.1]
  · rw [← gains.refs, tables fun b mem => (linked'.refs b mem).imp fun _ h => h.1]
  · rw [← gains.cache, tables fun b mem => (linked'.cached b mem).imp fun _ h => h.1]
  · by_cases same : j = id
    · rw [same, gains.document?_self]
      refine document?_eq_none fun e found => ?_
      rw [none] at found
      cases found
    · exact gains.documents j same

/-- What was compiled before does not belong to the place that was given out since. -/
theorem not_mem_family (gains : s.Gains s' id) (linked : s.Linked) (linked' : s'.Linked)
    {j : EntryId} {node : Node} {refs : Bindings String EntryId} (found : s.entry? j = some e)
    (done : e.progress = .done node refs) : j ∉ s'.family id := by
  have free : ∀ {k f}, s.entry? k = some f → k ≠ id := by
    rintro k f hk rfl
    exact absurd (index_lt_size hk) (Nat.not_lt_of_le gains.fresh)
  intro mem
  rcases mem_family.1 mem with same | ⟨pointer, bound, -⟩
  · exact free found same
  · obtain ⟨e', found', root, -⟩ := linked'.fragments _ bound
    rw [gains.compiled j e node refs found done] at found'
    cases found'
    obtain ⟨d, foundD, -⟩ := linked.root_entry found
    exact free foundD root

/-- Removing the place that was given out since takes back all that was gained. What was
    compiled before leads only to what was compiled before, so nothing of it is reset. -/
theorem remove (gains : s.Gains s' id) (settled : s.Settled K) (settled' : s'.Settled K) :
    s.Spares (s'.remove id) := by
  have linked := settled.linked
  have linked' := settled'.linked
  by_cases live : s'.isLive id = true
  · let gone := s'.family id
    let reduced := s'.without gone
    -- a document belongs to the place only if it is at the place
    have tables : ∀ {α : Type} {t : Bindings α EntryId},
        (∀ b ∈ t, ∃ e, s'.entry? b.2 = some e ∧ e.pointer = "") →
        t.filter (!gone.contains ·.2) = t.filter (·.2 ≠ id) := by
      intro α t leads
      refine List.filter_congr fun b mem => ?_
      obtain ⟨e, found, doc⟩ := leads b mem
      have same : b.2 ∈ gone ↔ b.2 = id := by
        refine ⟨fun h => ?_, fun h => mem_family.2 (.inl h)⟩
        rcases mem_family.1 h with same | ⟨pointer, bound, -⟩
        · exact same
        · obtain ⟨e', found', -, -, part⟩ := linked'.fragments _ bound
          rw [found] at found'
          cases found'
          exact absurd doc part
      rw [List.contains_eq_mem, decide_not, decide_eq_decide.2 same]
    obtain ⟨h1, h2, -, h4, h5⟩ := invalidate_tables reduced gone
    rw [remove_of_isLive live]
    refine
      { size := ?_, schemas := h1.trans ?_, refs := h2.trans ?_, cache := h4.trans ?_
        documents := fun j => ?_, compiled := fun j e node refs found done => ?_ }
    · rw [h5, without_size]
      exact gains.size
    · exact (tables fun b mem => linked'.schemas b mem).trans gains.schemas
    · exact (tables fun b mem => linked'.refs b mem).trans gains.refs
    · refine (tables fun b mem => ?_).trans gains.cache
      exact (linked'.cached b mem).imp fun _ h => ⟨h.1, h.2.1⟩
    · rw [document?_invalidate, document?_without]
      split
      · next mem =>
        rcases mem_family.1 mem with rfl | ⟨pointer, bound, ne⟩
        · exact (gains.document?_self).symm
        · rw [← gains.documents j ne]
          refine (document?_eq_none fun e found => ?_).symm
          obtain ⟨e', found', -, -, part⟩ := linked'.fragments _ bound
          rw [found] at found'
          cases found'
          exact part
      · next out => exact gains.documents j fun same => out (mem_family.2 (.inl same))
    · have out := gains.not_mem_family linked linked' found done
      rw [entry?_invalidate, entry?_without, if_neg out, gains.compiled j e node refs found done,
        if_neg]
      refine fun mem => dependents_subset (S := fun k => ¬ s.IsStarted k) ?_ ?_ j mem ⟨e, found, ?_⟩
      · rintro k f foundK ⟨ref, followed, idle⟩ started
        obtain ⟨f₀, node', refs', foundF, doneF⟩ := settled.started_done started
        have same := gains.compiled k f₀ node' refs' foundF doneF
        rw [(Linked.not_mem_of_entry?_without foundK).2] at same
        cases same
        rw [Entry.refs, doneF] at followed
        exact idle (settled.leads k f node' refs' foundF doneF ref followed)
      · intro k mem started
        obtain ⟨f, node', refs', foundF, doneF⟩ := settled.started_done started
        exact gains.not_mem_family linked linked' foundF doneF mem
      · rw [done]
        rfl
  · have dead := Bool.eq_false_iff.2 live
    rw [remove_of_not_isLive dead]
    exact gains.spares linked' (isLive_eq_false_iff.1 dead)

end Gains

/-- A part of a document that gets a place of its own is no document. -/
theorem spares_insertFragment (s : Store) (root : EntryId) (base : String) {pointer : String}
    (part : Value) (isMeta : Bool) (nonempty : pointer ≠ "") :
    s.Spares (s.insertFragment root base pointer part isMeta) where
  size := by simp [insertFragment]
  schemas := rfl
  refs := rfl
  cache := rfl
  documents j := by
    by_cases new : j = ⟨s.entries.size⟩
    · subst new
      rw [document?_eq_none (s := s) fun e found => ?_, document?_eq_none fun e found => ?_]
      · rw [entry?_insertFragment, if_pos rfl] at found
        cases found
        exact nonempty
      · rw [entry?_next] at found
        cases found
    · rw [document?, document?, entry?_insertFragment, if_neg new]
  compiled _ _ _ _ found _ := entry?_insertFragment_of_some found

/-- Asking for a fragment spares what is there. -/
theorem Settled.fragment_spares (settled : s.Settled K) {root : EntryId} {base pointer : String}
    {part : Value} {d : Entry} (found : s.entry? root = some d) (doc : d.pointer = "")
    (nonempty : pointer ≠ "") (cuts : s.Cuts root pointer base part) :
    ∃ id isNew s', s.fragment root base pointer part = (id, isNew, s') ∧ s'.Settled K ∧
      s.Spares s' ∧ (isNew = true → s.entries.size ≤ id.index) := by
  obtain ⟨id, isNew, s', eq, settled', -⟩ := settled.fragment found doc nonempty cuts
  refine ⟨id, isNew, s', eq, settled', ?_⟩
  obtain ⟨id', ⟨e, -, -, eq'⟩ | ⟨-, rfl, eq', -⟩⟩ :=
    settled.toSound.fragment found doc nonempty cuts
  · rw [eq] at eq'
    cases eq'
    exact ⟨.refl s, fun new => by cases new⟩
  · rw [eq] at eq'
    cases eq'
    exact ⟨spares_insertFragment s root base part d.isMeta nonempty, fun _ => Nat.le_refl _⟩

end Store

/-- What was compiled before is not compiled again. -/
theorem Compilation.Tracks.not_mem_started {origin : Store} {c : Compilation}
    (tracks : c.Tracks origin) {id : EntryId} {e : Entry} {node : Node}
    {refs : Bindings String EntryId} (found : origin.entry? id = some e)
    (done : e.progress = .done node refs) : id ∉ c.started := by
  intro begun
  have idle := tracks.begun id begun e found
  rw [done] at idle
  cases idle

/-- A compilation spares what was there all the time: it adds fragments only, and compiles only
    what was not compiled. -/
theorem Compilation.Good.spares {K : EntryId → Compiler → Prop} {origin : Store} {c : Compilation}
    (good : c.Good K origin) (settled : origin.Settled K) : origin.Spares c.store := by
  have tracks := good.tracks
  refine
    { size := tracks.size, schemas := tracks.schemas, refs := tracks.refs, cache := tracks.cache
      documents := fun j => ?_, compiled := fun j e node refs found done => ?_ }
  · cases found : origin.entry? j with
    | some e =>
      obtain ⟨e', found', same, -⟩ := tracks.kept j e found
      exact Store.document?_of_reset found found' same
    | none =>
      rw [Store.document?_eq_none (s := origin) fun e h => by rw [found] at h; cases h]
      refine Store.document?_eq_none fun e' found' doc => ?_
      -- a document is in the cache, and the cache is as it was
      obtain ⟨-, key, -, cached⟩ := good.sound.linked.document j e' found' doc
      have cached : c.store.cache.find? key = some j := cached
      rw [tracks.cache] at cached
      obtain ⟨e, found₀, -⟩ := settled.linked.cached _ (Bindings.mem_of_find? cached)
      rw [found] at found₀
      cases found₀
  · obtain ⟨e', found', -, same⟩ := tracks.kept j e found
    rw [← same (tracks.not_mem_started found done)]
    exact found'

namespace Compiler

open Compilation (Good)

variable {K : EntryId → Compiler → Prop} {origin : Store} {compiler : Compiler}

/-- A compilation spares what was there, whatever its outcome. -/
theorem compile_spares (settled : origin.Settled K) (k : ∀ id, K id compiler) (id : EntryId) :
    origin.Spares (compiler.compile id origin).2.1 := by
  rcases compile_cases settled k id with ⟨c, run, good, -, -⟩ | ⟨e, c, run, good⟩
  · rw [run]
    exact good.spares settled
  · rw [run]
    obtain ⟨schemas, refs, -, cache, size, entries⟩ := rollback_spec settled good id
    refine
      { size := size, schemas := schemas, refs := refs, cache := cache
        documents := fun j => ?_, compiled := fun j e node refs found done => ?_ }
    · cases found : origin.entry? j with
      | some e =>
        refine Store.document?_of_reset found (by rw [entries, found]; rfl) ?_
        split <;> rfl
      | none => rw [Store.document?, Store.document?, entries, found]; rfl
    · rw [entries, found, Option.map_some, if_neg (good.tracks.not_mem_started found done)]

end Compiler

end JsonSchema
