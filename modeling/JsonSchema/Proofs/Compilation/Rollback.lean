import JsonSchema.Proofs.Compilation.Schemas

/-!
# Compilations as transactions

A compilation that succeeds leaves a settled store with its entry compiled. One that fails
is taken back: what was there before is there as it was, except that the entries it began
are not compiled, and nothing else is there.

* `Store.Consistent`: what is asked of the store for this.
* `Compilation.Tracks.remove`: removing the fragments that were made loses nothing else.
* `Compiler.rollback_restores`: the store after a failed compilation.
* `Compiler.compile_settled`: both outcomes leave a settled store.
-/

namespace JsonSchema

open Compilation (Good Leads Tracks)

variable {K : EntryId → Compiler → Prop} {origin : Store} {c : Compilation}

/-! ## Between compilations -/

/-- What holds of a store between compilations: nothing is being compiled, what is compiled leads to
    what is compiled, and the tables lead to entries. That an entry has a compiled schema exactly if
    it is compiled, and that only what is compiled refers to anything, lies in the type of entries. -/
structure Store.Consistent (s : Store) : Prop where
  idle : ∀ id e, s.entry? id = some e → e.progress.isPending = false
  leads : ∀ id e node refs, s.entry? id = some e → e.progress = .done node refs →
    ∀ ref ∈ refs, ∃ t node' refs', s.entry? ref.2 = some t ∧ t.progress = .done node' refs'
  schemas : ∀ b ∈ s.schemas, s.isLive b.2 = true
  refs : ∀ b ∈ s.refs, s.isLive b.2 = true
  cached : ∀ b ∈ s.cache, s.isLive b.2 = true
  /-- A fragment is found by its document, which is there, and by its pointer. -/
  fragments : ∀ b ∈ s.fragments, s.isLive b.1.1 = true ∧
    ∃ e, s.entry? b.2 = some e ∧ e.root = b.1.1 ∧ e.pointer = b.1.2

/-- All fragments that are found are there. -/
def Store.IsBound (s : Store) : Prop := ∀ b ∈ s.fragments, s.isLive b.2 = true

theorem Store.Consistent.isBound {s : Store} (consistent : s.Consistent) : s.IsBound := by
  intro b mem
  obtain ⟨-, e, found, -⟩ := consistent.fragments b mem
  exact isLive_of_entry found

theorem Store.Settled.consistent {s : Store} (settled : s.Settled K) : s.Consistent where
  idle := settled.idle
  leads id e node refs found done ref mem := by
    obtain ⟨t, foundT, started⟩ := settled.leads id e node refs found done ref mem
    have idle := settled.idle _ t foundT
    cases p : t.progress with
    | done node' refs' => exact ⟨t, node', refs', foundT, p⟩
    | inProgress => rw [p] at idle; cases idle
    | _ => rw [p] at started; cases started
  schemas b mem := let ⟨_, found, _⟩ := settled.linked.schemas b mem; isLive_of_entry found
  refs b mem := let ⟨_, found, _⟩ := settled.linked.refs b mem; isLive_of_entry found
  cached b mem := let ⟨_, found, _⟩ := settled.linked.cached b mem; isLive_of_entry found
  fragments b mem := by
    obtain ⟨e, found, root, pointer, -⟩ := settled.linked.fragments b mem
    obtain ⟨d, foundD, -⟩ := settled.linked.root_entry found
    rw [root] at foundD
    exact ⟨isLive_of_entry foundD, e, found, root, pointer⟩

/-! ## Removed entries -/

namespace Store

variable {s : Store} {id j : EntryId} {e : Entry}

theorem entry?_remove_eq_none (h : s.entry? j = none ∨ j = id) : Store.entry? (s.remove id) j = none := by
  by_cases live : s.isLive id = true
  · have gone : Store.entry? (s.without (s.family id)) j = none := by
      rw [entry?_without]
      split
      · rfl
      · next out => exact h.elim (fun h => h) fun e => absurd (mem_family.2 (.inl e)) out
    rw [remove_of_isLive live, entry?_invalidate, gone]
    split <;> rfl
  · have dead := Bool.eq_false_iff.2 live
    rw [remove_of_not_isLive dead]
    rcases h with h | h
    · exact h
    · rw [h]
      exact isLive_eq_false_iff.1 dead

/-- What is there after a removal was there before, and may have been reset. -/
theorem entry?_of_remove (found : Store.entry? (s.remove id) j = some e) :
    ∃ e', s.entry? j = some e' ∧ (e = e' ∨ e = e'.reset) := by
  by_cases live : s.isLive id = true
  · rw [remove_of_isLive live, entry?_invalidate] at found
    split at found
    · obtain ⟨e', found', rfl⟩ := Option.map_eq_some_iff.1 found
      exact ⟨e', (Linked.not_mem_of_entry?_without found').2, .inr rfl⟩
    · exact ⟨e, (Linked.not_mem_of_entry?_without found).2, .inl rfl⟩
  · rw [remove_of_not_isLive (Bool.eq_false_iff.2 live)] at found
    exact ⟨e, found, .inl rfl⟩

theorem remove_size (s : Store) (id : EntryId) :
    (s.remove id).entries.size = s.entries.size := by
  by_cases live : s.isLive id = true
  · rw [remove_of_isLive live, (invalidate_tables _ _).2.2.2.2, without_size]
  · rw [remove_of_not_isLive (Bool.eq_false_iff.2 live)]

/-- Of the fragments that are found, none is lost to a removal without being forgotten. -/
theorem IsBound.remove (bound : s.IsBound) (id : EntryId) : (s.remove id).IsBound := by
  by_cases live : s.isLive id = true
  · intro b mem
    rw [remove_of_isLive live] at mem ⊢
    rw [(invalidate_tables _ _).2.2.1] at mem
    obtain ⟨old, out⟩ := List.mem_filter.1 mem
    obtain ⟨e, found⟩ := isLive_iff.1 (bound b old)
    have out : b.2 ∉ s.family id := by simp_all
    have kept : Store.entry? (s.without (s.family id)) b.2 = some e := by
      rw [entry?_without, if_neg out, found]
    rw [isLive, entry?_invalidate, kept]
    split <;> rfl
  · rw [remove_of_not_isLive (Bool.eq_false_iff.2 live)]
    exact bound

/-- A filter that every binding passes. -/
theorem filter_eq_self_of_live {α : Type} {t : Bindings α EntryId} {gone : List EntryId}
    (out : ∀ b ∈ t, b.2 ∉ gone) : t.filter (!gone.contains ·.2) = t := by
  refine List.filter_eq_self.2 fun b hb => ?_
  simpa using out b hb

end Store

/-! ## Taking a compilation back -/

namespace Compilation

/-- What was there before a compilation is at a place of its own. -/
theorem Tracks.not_mem_created (tracks : c.Tracks origin) {id : EntryId} {e : Entry}
    (found : origin.entry? id = some e) : id ∉ c.created := by
  intro mem
  have := Store.index_lt_size found
  have := tracks.fresh id mem
  omega

/-- What belongs to a fragment that was made was made. -/
theorem Tracks.family_subset (consistent : origin.Consistent) (tracks : c.Tracks origin)
    {id : EntryId} (made : id ∈ c.created) : ∀ j ∈ c.store.family id, j ∈ c.created := by
  intro j mem
  rcases Store.mem_family.1 mem with rfl | ⟨pointer, bound, -⟩
  · exact made
  · obtain ⟨more, hm, hb⟩ := tracks.fragments
    rw [hm] at bound
    rcases List.mem_append.1 bound with old | new
    · obtain ⟨d, foundD⟩ := Store.isLive_iff.1 (consistent.fragments _ old).1
      exact absurd made (tracks.not_mem_created foundD)
    · exact hb _ new

/-- What was compiled before leads to nothing that was begun or made since. -/
theorem Tracks.apart (consistent : origin.Consistent) (tracks : c.Tracks origin) {id : EntryId}
    {e : Entry} (found : origin.entry? id = some e) {ref : String × EntryId} (mem : ref ∈ e.refs) :
    ref.2 ∉ c.started ∧ ref.2 ∉ c.created := by
  have idle := consistent.idle id e found
  rw [Entry.refs] at mem
  cases p : e.progress with
  | done node refs =>
    rw [p] at mem
    obtain ⟨t, node', refs', foundT, done⟩ := consistent.leads id e node refs found p ref mem
    refine ⟨fun h => ?_, tracks.not_mem_created foundT⟩
    have idle := tracks.begun _ h t foundT
    rw [done] at idle
    cases idle
  | inProgress => rw [p] at idle; cases idle
  | _ => rw [p] at mem; cases mem

/-- Removing a fragment that was made keeps everything else. -/
theorem Tracks.remove (consistent : origin.Consistent) (tracks : c.Tracks origin) {id : EntryId}
    (made : id ∈ c.created) : Tracks origin { c with store := c.store.remove id } := by
  by_cases live : c.store.isLive id = true
  · let gone := c.store.family id
    let reduced := c.store.without gone
    let D := reduced.dependents reduced.entries.size gone
    have removed : c.store.remove id = reduced.invalidate gone := Store.remove_of_isLive live
    have created : ∀ j ∈ gone, j ∈ c.created := tracks.family_subset consistent made
    have out : ∀ {j : EntryId} {e : Entry}, origin.entry? j = some e → j ∉ gone :=
      fun found mem => tracks.not_mem_created found (created _ mem)
    -- only what was begun or made leads to what was made
    have closed : ∀ j ∈ D, j ∈ c.started ∨ j ∈ c.created := by
      refine Store.dependents_subset (fun j e found ⟨ref, mem, h⟩ => ?_) fun j mem =>
        .inr (created j mem)
      obtain ⟨-, found⟩ := Store.Linked.not_mem_of_entry?_without found
      rcases tracks.added j e found with ⟨e₀, found₀⟩ | made
      · by_cases begun : j ∈ c.started
        · exact .inl begun
        · obtain ⟨e', found', -, same⟩ := tracks.kept j e₀ found₀
          rw [found] at found'
          cases found'
          rw [same begun] at mem
          have := tracks.apart consistent found₀ mem
          exact absurd h fun h => h.elim this.1 this.2
      · exact .inr made
    obtain ⟨h1, h2, h3, h4, h5⟩ := Store.invalidate_tables reduced gone
    have tables : ∀ {α : Type} {t : Bindings α EntryId},
        (∀ b ∈ t, origin.isLive b.2 = true) → t.filter (!gone.contains ·.2) = t :=
      fun h => Store.filter_eq_self_of_live fun b hb =>
        let ⟨_, found⟩ := Store.isLive_iff.1 (h b hb); out found
    refine
      { schemas := ?_, refs := ?_, cache := ?_, size := ?_, kept := fun j e found => ?_
        added := fun j e found => ?_, fresh := tracks.fresh, begun := tracks.begun
        pending := fun j e found pending => ?_, fragments := ?_ }
    · show (c.store.remove id).schemas = _
      rw [removed, h1]
      show c.store.schemas.filter _ = _
      rw [tracks.schemas, tables consistent.schemas]
    · show (c.store.remove id).refs = _
      rw [removed, h2]
      show c.store.refs.filter _ = _
      rw [tracks.refs, tables consistent.refs]
    · show (c.store.remove id).cache = _
      rw [removed, h4]
      show c.store.cache.filter _ = _
      rw [tracks.cache, tables consistent.cached]
    · show _ ≤ (c.store.remove id).entries.size
      rw [Store.remove_size]
      exact tracks.size
    · obtain ⟨e', found', eq, same⟩ := tracks.kept j e found
      show ∃ e', Store.entry? (c.store.remove id) j = some e' ∧ _
      rw [removed, Store.entry?_invalidate, Store.entry?_without, if_neg (out found), found']
      split
      · next mem =>
        refine ⟨e'.reset, rfl, eq, fun idle => ?_⟩
        exact absurd (closed j mem) fun h => h.elim idle (tracks.not_mem_created found)
      · exact ⟨e', rfl, eq, same⟩
    · obtain ⟨e', found', -⟩ := Store.entry?_of_remove found
      exact tracks.added j e' found'
    · obtain ⟨e', found', rfl | rfl⟩ := Store.entry?_of_remove found
      · exact tracks.pending j e found' pending
      · cases pending
    · obtain ⟨more, hm, hb⟩ := tracks.fragments
      refine ⟨more.filter fun f => !gone.contains f.1.1 && !gone.contains f.2, ?_, fun b mem =>
        hb b (List.mem_filter.1 mem).1⟩
      show (c.store.remove id).fragments = _
      rw [removed, h3]
      show c.store.fragments.filter _ = _
      rw [hm, List.filter_append]
      congr 1
      refine List.filter_eq_self.2 fun b hb => ?_
      obtain ⟨live, e, found, -⟩ := consistent.fragments b hb
      obtain ⟨d, foundD⟩ := Store.isLive_iff.1 live
      have := out found
      have := out foundD
      simp_all
  · rw [Store.remove_of_not_isLive (Bool.eq_false_iff.2 live)]
    exact tracks

/-- Removing several of the fragments that were made. -/
theorem Tracks.removeAll (consistent : origin.Consistent) {ids : List EntryId} {s : Store}
    (bound : s.IsBound) (tracks : Tracks origin { c with store := s })
    (made : ∀ id ∈ ids, id ∈ c.created) :
    (ids.foldl Store.remove s).IsBound ∧
      Tracks origin { c with store := ids.foldl Store.remove s } ∧
      ∀ j, s.entry? j = none ∨ j ∈ ids → Store.entry? (ids.foldl Store.remove s) j = none := by
  induction ids generalizing s with
  | nil => exact ⟨bound, tracks, fun j h => h.elim (fun h => h) fun h => by cases h⟩
  | cons id rest ih =>
    have step :=
      Tracks.remove (c := { c with store := s }) consistent tracks (made id List.mem_cons_self)
    obtain ⟨bound', tracks', dead⟩ := ih (bound.remove id) step fun j mem =>
      made j (List.mem_cons_of_mem _ mem)
    refine ⟨bound', tracks', fun j h => dead j ?_⟩
    rcases h with h | h
    · exact .inl (Store.entry?_remove_eq_none (.inl h))
    · rcases List.mem_cons.1 h with h | h
      · exact .inl (Store.entry?_remove_eq_none (.inr h))
      · exact .inr h

end Compilation

namespace Compiler

/-- After a failed compilation the store is as it was, except that what was begun is not
    compiled, and that the places of the fragments are used up. -/
theorem rollback_restores (consistent : origin.Consistent) (tracks : c.Tracks origin)
    (bound : c.store.IsBound) (failed : EntryId) :
    (rollback failed c).schemas = origin.schemas ∧ (rollback failed c).refs = origin.refs ∧
      (rollback failed c).fragments = origin.fragments ∧
      (rollback failed c).cache = origin.cache ∧
      origin.entries.size ≤ (rollback failed c).entries.size ∧
      ∀ id, Store.entry? (rollback failed c) id =
        (origin.entry? id).map fun e => if id ∈ c.started then e.giveUp (id = failed) else e := by
  obtain ⟨bound, tracks, dead⟩ := Tracks.removeAll (s := c.store) consistent bound tracks
    fun _ mem => mem
  let s := c.created.foldl Store.remove c.store
  obtain ⟨h1, h2, h3, h4, h5⟩ :=
    Store.foldl_modify_tables (fun id e => e.giveUp (id = failed)) c.started s
  have fragments : s.fragments = origin.fragments := by
    obtain ⟨more, hm, hb⟩ := tracks.fragments
    have hm : s.fragments = origin.fragments ++ more := hm
    cases more with
    | nil => rw [hm, List.append_nil]
    | cons b rest =>
      have live := bound b (by
        show b ∈ s.fragments
        rw [hm]
        exact List.mem_append_right _ List.mem_cons_self)
      rw [Store.isLive, dead b.2 (.inr (hb b List.mem_cons_self))] at live
      cases live
  refine ⟨h1.trans tracks.schemas, h2.trans tracks.refs, h3.trans fragments, h4.trans tracks.cache,
    Nat.le_trans tracks.size (Nat.le_of_eq h5.symm), fun id => ?_⟩
  show Store.entry? (c.started.foldl (fun s id => s.modify id fun e => e.giveUp (id = failed)) s) id = _
  rw [Store.entry?_foldl_modify (fun id e => e.giveUp (id = failed)) fun _ _ => rfl]
  cases found : origin.entry? id with
  | none =>
    have none : s.entry? id = none := by
      cases h : s.entry? id with
      | none => rfl
      | some e =>
        rcases tracks.added id e h with ⟨e₀, found₀⟩ | made
        · rw [found] at found₀
          cases found₀
        · rw [dead id (.inr made)] at h
          cases h
    rw [none]
    split <;> rfl
  | some e =>
    obtain ⟨e', found', eq, same⟩ := tracks.kept id e found
    have found' : s.entry? id = some e' := found'
    rw [found']
    by_cases begun : id ∈ c.started
    · rw [if_pos begun, Option.map_some, Option.map_some, if_pos begun]
      rw [Entry.eq_of_reset_eq eq.symm]
      rfl
    · rw [if_neg begun, Option.map_some, if_neg begun, same begun]

/-- The same after a compilation that was good until it failed. -/
theorem rollback_spec (settled : origin.Settled K) (good : Good K origin c) (failed : EntryId) :
    (rollback failed c).schemas = origin.schemas ∧ (rollback failed c).refs = origin.refs ∧
      (rollback failed c).fragments = origin.fragments ∧
      (rollback failed c).cache = origin.cache ∧
      origin.entries.size ≤ (rollback failed c).entries.size ∧
      ∀ id, Store.entry? (rollback failed c) id =
        (origin.entry? id).map fun e => if id ∈ c.started then e.giveUp (id = failed) else e := by
  refine rollback_restores settled.consistent good.tracks (fun b mem => ?_) failed
  obtain ⟨e, found, -⟩ := good.sound.linked.fragments b mem
  exact Store.isLive_of_entry found

/-- A failed compilation leaves a settled store. -/
theorem rollback_settled (settled : origin.Settled K) (good : Good K origin c)
    (failed : EntryId) : (rollback failed c).Settled K := by
  obtain ⟨schemas, refs, fragments, cache, -, entries⟩ := rollback_spec settled good failed
  let s := rollback failed c
  have entry : ∀ {id : EntryId} {e' : Entry}, s.entry? id = some e' →
      ∃ e, origin.entry? id = some e ∧
        (e' = e ∧ id ∉ c.started ∨ e' = e.giveUp (id = failed) ∧ id ∈ c.started) := by
    intro id e' found
    rw [entries] at found
    obtain ⟨e, he, rfl⟩ := Option.map_eq_some_iff.1 found
    refine ⟨e, he, ?_⟩
    by_cases begun : id ∈ c.started
    · exact .inr ⟨if_pos begun, begun⟩
    · exact .inl ⟨if_neg begun, begun⟩
  have alike : origin.Alike s := by
    refine ⟨schemas, refs, fragments, cache, fun id => ?_⟩
    rw [entries, Option.map_map]
    congr 1
    funext e
    show (if id ∈ c.started then _ else e).bare = e.bare
    split <;> rfl
  refine settled.calm (· ∈ c.started) (fun _ => True)
    (settled.linked.of_alike alike) ?_ alike.preserves (fun _ _ => trivial) ?_ ?_ ?_
  · intro id e' d' found foundD
    obtain ⟨e, he, he'⟩ := entry found
    obtain ⟨d, hd, hd'⟩ := entry foundD
    have plain : e'.isMeta = e.isMeta ∧ e'.root = e.root := by
      rcases he' with ⟨rfl, -⟩ | ⟨rfl, -⟩ <;> exact ⟨rfl, rfl⟩
    have plainD : d'.isMeta = d.isMeta := by
      rcases hd' with ⟨rfl, -⟩ | ⟨rfl, -⟩ <;> rfl
    rw [plain.2] at hd
    rw [plain.1, plainD]
    exact settled.uniform id e d he hd
  · intro id e found ⟨ref, mem, begun⟩
    exact absurd begun (good.tracks.apart settled.consistent found mem).1
  · intro id e found idle
    rw [entries, found, Option.map_some, if_neg idle]
  · intro id e' found
    obtain ⟨e, he, ⟨rfl, idle⟩ | ⟨rfl, -⟩⟩ := entry found
    · exact .inl ⟨idle, he⟩
    · refine .inr ?_
      show (if decide (id = failed) = true then Progress.failed else .notStarted).isStarted = false
      split <;> rfl

/-! ## Whole compilations -/

/-- A compilation of an entry ends in one of two ways. -/
theorem compile_cases (settled : origin.Settled K) {compiler : Compiler} (k : ∀ id, K id compiler)
    (id : EntryId) :
    (∃ c, compiler.compile id origin = (.ok (), c.store, c.events) ∧ Good K origin c ∧
      Leads { store := origin } c ∧ c.store.IsStarted id) ∨
    ∃ e c, compiler.compile id origin = (.error e, rollback id c, c.events) ∧
      Good K origin c := by
  have start : Good K origin { store := origin } := ⟨settled.toSound, Tracks.start settled.idle⟩
  have ensured := entry_ensures k (schema_compiles k (depthOf origin)) start id false
  unfold CompileM.Ensures at ensured
  cases run : entry (compiler.schema (depthOf origin)) id false { store := origin } with
  | ok u c =>
    rw [run] at ensured
    refine .inl ⟨c, ?_, ensured⟩
    simp only [compile, EStateM.run, run]
  | error e c =>
    rw [run] at ensured
    refine .inr ⟨e, c, ?_, ensured⟩
    simp only [compile, EStateM.run, run]

/-- A compilation that succeeds leaves a settled store, with the entry compiled. -/
theorem settled_of_leads (settled : origin.Settled K) (good : Good K origin c)
    (leads : Leads { store := origin } c) : c.store.Settled K where
  toSound := good.sound
  idle id e found := by
    refine Bool.eq_false_iff.2 fun pending => ?_
    obtain ⟨e₀, found₀, pending₀, -⟩ := leads.pending id e found pending
    rw [settled.idle id e₀ found₀] at pending₀
    cases pending₀

/-- Whatever the outcome, a compilation leaves a settled store. -/
theorem compile_settled (settled : origin.Settled K) {compiler : Compiler} (k : ∀ id, K id compiler)
    (id : EntryId) : (compiler.compile id origin).2.1.Settled K := by
  rcases compile_cases settled k id with ⟨c, run, good, leads, -⟩ | ⟨e, c, run, good⟩
  · rw [run]
    exact settled_of_leads settled good leads
  · rw [run]
    exact rollback_settled settled good id

end Compiler

end JsonSchema
