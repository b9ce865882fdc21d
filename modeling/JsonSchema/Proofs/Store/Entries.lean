import JsonSchema.Proofs.Store.Bindings
import JsonSchema.Store

/-!
# Entries of a store

Which entry is at a place after the store was changed, one equation for each change. An entry is
reset when a chain of references that were followed leads from it to an entry that is gone or has
changed.

* `Store.entry?_modify`, `Store.entry?_insert`, `Store.entry?_without`,
  `Store.entry?_foldl_modify`.
* `Entry.reset`: what an entry is apart from its compilation. Every step of a compilation
  keeps it.
* `Store.dependents_closed`: whatever leads into the dependents is one of them. The rounds
  of the search are enough: each but the last finds a live entry.
* `Store.dependents_subset`: the dependents are the least such set.
* `Store.entry?_invalidate`, `Store.entry?_remove`: the entries afterwards.
-/

namespace JsonSchema

/-! ## Compilation of an entry -/

namespace Entry

@[simp] theorem reset_reset (e : Entry) : e.reset.reset = e.reset := rfl

@[simp] theorem begin_reset (e : Entry) : e.begin.reset = e.reset := rfl

@[simp] theorem finish_reset (e : Entry) (node : Node) : (e.finish node).reset = e.reset := rfl

@[simp] theorem giveUp_reset (e : Entry) (marked : Bool) : (e.giveUp marked).reset = e.reset := rfl

@[simp] theorem remember_reset (e : Entry) (reference : String) (target : EntryId) :
    (e.remember reference target).reset = e.reset := by
  unfold remember
  split <;> rfl

@[simp] theorem reset_refs (e : Entry) : e.reset.refs = [] := rfl

@[simp] theorem reset_progress (e : Entry) : e.reset.progress = .notStarted := rfl

theorem refersTo_iff {e : Entry} {targets : List EntryId} :
    e.refersTo targets = true ↔ ∃ ref ∈ e.refs, ref.2 ∈ targets := by
  simp only [refersTo, List.any_eq_true, List.contains_iff_mem]

/-- Entries that are the same apart from their compilation agree in everything else. -/
theorem eq_of_reset_eq {e e' : Entry} (h : e.reset = e'.reset) :
    e' = { e with progress := e'.progress } := by
  cases e
  cases e'
  simp only [reset, Entry.mk.injEq] at h ⊢
  simp only [h, and_self]

end Entry

namespace Store

variable {s : Store} {id : EntryId} {e : Entry}

/-! ## Places -/

theorem isLive_iff : s.isLive id = true ↔ ∃ e, s.entry? id = some e := Option.isSome_iff_exists

theorem isLive_of_entry (h : s.entry? id = some e) : s.isLive id = true := isLive_iff.2 ⟨e, h⟩

theorem isLive_eq_false_iff : s.isLive id = false ↔ s.entry? id = none := by
  rw [isLive, Option.isSome_eq_false_iff, Option.isNone_iff_eq_none]

theorem index_lt_size (h : s.entry? id = some e) : id.index < s.entries.size := by
  rw [ entry?, Option.join_eq_some_iff] at h
  exact (Array.getElem?_eq_some_iff.1 h).1

theorem entry?_eq_none_of_size_le (h : s.entries.size ≤ id.index) : s.entry? id = none := by
  rw [ entry?, Array.getElem?_eq_none h]
  rfl

theorem mem_live : id ∈ s.live ↔ ∃ e, s.entry? id = some e := by
  rw [live, List.mem_filter, isLive_iff, List.mem_map]
  constructor
  · exact fun h => h.2
  · rintro ⟨e, h⟩
    exact ⟨⟨id.index, List.mem_range.2 (index_lt_size h), rfl⟩, e, h⟩

theorem length_live_le (s : Store) : s.live.length ≤ s.entries.size := by
  refine Nat.le_trans (List.length_filter_le _ _) (Nat.le_of_eq ?_)
  rw [List.length_map, List.length_range]

theorem nodup_live (s : Store) : s.live.Nodup := by
  refine List.Nodup.sublist List.filter_sublist ?_
  rw [List.nodup_iff_pairwise_ne, List.pairwise_map]
  refine List.Pairwise.imp ?_ List.nodup_range
  intro a b h e
  exact h (congrArg EntryId.index e)

/-! ## Changing an entry -/

theorem entry?_modify (s : Store) (id : EntryId) (change : Entry → Entry) (j : EntryId) :
    Store.entry? (s.modify id change) j = if j = id then (s.entry? j).map change else s.entry? j := by
  simp only [ entry?, modify, Array.getElem?_modify]
  by_cases h : j = id
  · subst h
    cases s.entries[j.index]? <;> simp
  · have : id.index ≠ j.index := fun e => h (by cases id; cases j; simp_all)
    rw [if_neg h, if_neg this]

theorem entry?_modify_self (s : Store) (id : EntryId) (change : Entry → Entry) :
    Store.entry? (s.modify id change) id = (s.entry? id).map change := by
  rw [entry?_modify, if_pos rfl]

theorem entry?_modify_of_ne {j : EntryId} (h : j ≠ id) (change : Entry → Entry) :
    Store.entry? (s.modify id change) j = s.entry? j := by
  rw [entry?_modify, if_neg h]

@[simp] theorem modify_size (s : Store) (id : EntryId) (change : Entry → Entry) :
    (s.modify id change).entries.size = s.entries.size := Array.size_modify

/-- Several changes of entries one after the other leave the tables alone. -/
theorem foldl_modify_tables (change : EntryId → Entry → Entry) (ids : List EntryId) (s : Store) :
    let s' := ids.foldl (fun s id => s.modify id (change id)) s
    s'.schemas = s.schemas ∧ s'.refs = s.refs ∧ s'.fragments = s.fragments ∧
      s'.cache = s.cache ∧ s'.entries.size = s.entries.size := by
  induction ids generalizing s with
  | nil => exact ⟨rfl, rfl, rfl, rfl, rfl⟩
  | cons id rest ih =>
    obtain ⟨h1, h2, h3, h4, h5⟩ := ih (s.modify id (change id))
    exact ⟨h1, h2, h3, h4, h5.trans (modify_size _ _ _)⟩

/-- A change that makes no difference when it is made again changes exactly the entries of
    a list. -/
theorem entry?_foldl_modify (change : EntryId → Entry → Entry)
    (again : ∀ id e, change id (change id e) = change id e) (ids : List EntryId) (s : Store)
    (j : EntryId) :
    Store.entry? (ids.foldl (fun s id => s.modify id (change id)) s) j =
      if j ∈ ids then (s.entry? j).map (change j) else s.entry? j := by
  induction ids generalizing s with
  | nil => simp
  | cons id rest ih =>
    rw [List.foldl_cons, ih, entry?_modify]
    by_cases h : j = id
    · subst h
      by_cases hr : j ∈ rest
      · simp [hr, Option.map_map, Function.comp_def, again]
      · simp [hr]
    · by_cases hr : j ∈ rest
      · simp [h, hr]
      · simp [h, hr]

/-! ## New entries -/

@[simp] theorem insert_fst (s : Store) (make : EntryId → Entry) :
    (s.insert make).1 = ⟨s.entries.size⟩ := rfl

theorem entry?_insert (s : Store) (make : EntryId → Entry) (j : EntryId) :
    Store.entry? (s.insert make).2 j =
      if j = ⟨s.entries.size⟩ then some (make ⟨s.entries.size⟩) else s.entry? j := by
  simp only [ entry?, insert, Array.getElem?_push]
  by_cases h : j = ⟨s.entries.size⟩
  · subst h
    simp
  · have : j.index ≠ s.entries.size := fun e => h (by cases j; simp_all)
    rw [if_neg h, if_neg this]

@[simp] theorem insert_size (s : Store) (make : EntryId → Entry) :
    (s.insert make).2.entries.size = s.entries.size + 1 := Array.size_push _

/-- The next place is free. -/
theorem entry?_next (s : Store) : s.entry? ⟨s.entries.size⟩ = none :=
  entry?_eq_none_of_size_le (Nat.le_refl _)

/-! ## Removed entries -/

theorem entry?_without (s : Store) (gone : List EntryId) (j : EntryId) :
    Store.entry? (s.without gone) j = if j ∈ gone then none else s.entry? j := by
  have step : ∀ (gone : List EntryId) (entries : Array (Option Entry)),
      ((gone.foldl (fun es id => es.modify id.index fun _ => none) entries)[j.index]?).join =
        if j ∈ gone then none else (entries[j.index]?).join := by
    intro gone
    induction gone with
    | nil => simp
    | cons id rest ih =>
      intro entries
      rw [List.foldl_cons, ih, Array.getElem?_modify]
      by_cases h : j = id
      · subst h
        cases entries[j.index]? <;> simp
      · have : id.index ≠ j.index := fun e => h (by cases id; cases j; simp_all)
        simp [h, this]
  exact step gone s.entries

theorem without_size (s : Store) (gone : List EntryId) :
    (s.without gone).entries.size = s.entries.size := by
  have step : ∀ (gone : List EntryId) (entries : Array (Option Entry)),
      (gone.foldl (fun es id => es.modify id.index fun _ => none) entries).size =
        entries.size := by
    intro gone
    induction gone with
    | nil => exact fun _ => rfl
    | cons id rest ih => exact fun entries => (ih _).trans Array.size_modify
  exact step gone s.entries

/-! ## Dependents -/

/-- The live entries that a search has not reached. -/
def unreached (s : Store) (targets : List EntryId) : List EntryId :=
  s.live.filter (!targets.contains ·)

theorem mem_unreached {targets : List EntryId} {id : EntryId} :
    id ∈ s.unreached targets ↔ (∃ e, s.entry? id = some e) ∧ id ∉ targets := by
  rw [unreached, List.mem_filter, mem_live]
  simp

theorem length_unreached_lt {targets next : List EntryId} {id : EntryId}
    (live : ∃ e, s.entry? id = some e) (fresh : id ∉ targets) (mem : id ∈ next) :
    (s.unreached (targets ++ next)).length < (s.unreached targets).length := by
  have sub : s.unreached (targets ++ next) = (s.unreached targets).filter (!next.contains ·) := by
    rw [unreached, unreached, List.filter_filter]
    refine List.filter_congr fun j _ => ?_
    simp [Bool.and_comm]
  rw [sub]
  refine Nat.lt_of_le_of_ne (List.length_filter_le _ _) fun e => ?_
  have all := List.length_filter_eq_length_iff.1 e id (mem_unreached.2 ⟨live, fresh⟩)
  simp [mem] at all

theorem subset_dependents (s : Store) (fuel : Nat) (targets : List EntryId) :
    ∀ id ∈ targets, id ∈ s.dependents fuel targets := by
  induction fuel generalizing targets with
  | zero => exact fun id h => h
  | succ fuel ih =>
    intro id h
    rw [dependents]
    split
    · exact h
    · exact ih _ id (List.mem_append_left _ h)

theorem dependents_closed_of_le {fuel : Nat} {targets : List EntryId}
    (enough : (s.unreached targets).length ≤ fuel) {id : EntryId} {e : Entry}
    (found : s.entry? id = some e) (refers : e.refersTo (s.dependents fuel targets) = true) :
    id ∈ s.dependents fuel targets := by
  induction fuel generalizing targets with
  | zero =>
    have none : s.unreached targets = [] := List.eq_nil_of_length_eq_zero (Nat.le_zero.1 enough)
    refine Classical.byContradiction fun h => ?_
    have : id ∈ s.unreached targets := mem_unreached.2 ⟨⟨e, found⟩, h⟩
    rw [none] at this
    cases this
  | succ fuel ih =>
    rw [dependents] at refers ⊢
    split at refers
    · next stop =>
      rw [if_pos stop]
      refine Classical.byContradiction fun h => ?_
      have : id ∈ s.live.filter fun id => !targets.contains id &&
          ((s.entry? id).map (·.refersTo targets)).getD false := by
        refine List.mem_filter.2 ⟨mem_live.2 ⟨e, found⟩, ?_⟩
        simp [h, found, refers]
      rw [List.isEmpty_iff.1 stop] at this
      cases this
    · next go =>
      rw [if_neg go]
      refine ih ?_ refers
      obtain ⟨j, hj⟩ := List.exists_mem_of_ne_nil _ fun e => go (List.isEmpty_iff.2 e)
      obtain ⟨live, fresh⟩ := List.mem_filter.1 hj
      have fresh : j ∉ targets := by
        intro h
        simp [h] at fresh
      have := length_unreached_lt (mem_live.1 live) fresh hj
      omega

/-- An entry that leads into the dependents of some entries is one of them. -/
theorem dependents_closed {targets : List EntryId} {id : EntryId} {e : Entry}
    (found : s.entry? id = some e)
    (refers : ∃ ref ∈ e.refs, ref.2 ∈ s.dependents s.entries.size targets) :
    id ∈ s.dependents s.entries.size targets :=
  dependents_closed_of_le (Nat.le_trans (List.length_filter_le _ _) (length_live_le s)) found
    (Entry.refersTo_iff.2 refers)

/-- The dependents of some entries are in every set that holds these entries and all that
    leads into it. -/
theorem dependents_subset {S : EntryId → Prop}
    (closed : ∀ id e, s.entry? id = some e → (∃ ref ∈ e.refs, S ref.2) → S id)
    {fuel : Nat} {targets : List EntryId} (start : ∀ id ∈ targets, S id) :
    ∀ id ∈ s.dependents fuel targets, S id := by
  induction fuel generalizing targets with
  | zero => exact start
  | succ fuel ih =>
    rw [dependents]
    split
    · exact start
    · refine ih fun id h => ?_
      rcases List.mem_append.1 h with h | h
      · exact start id h
      · obtain ⟨live, refers⟩ := List.mem_filter.1 h
        obtain ⟨e, found⟩ := mem_live.1 live
        rw [found] at refers
        simp only [Option.map_some, Option.getD_some, Bool.and_eq_true] at refers
        obtain ⟨ref, mem, target⟩ := Entry.refersTo_iff.1 refers.2
        exact closed id e found ⟨ref, mem, start _ target⟩

/-! ## Resetting -/

theorem entry?_invalidate (s : Store) (targets : List EntryId) (j : EntryId) :
    Store.entry? (s.invalidate targets) j =
      if j ∈ s.dependents s.entries.size targets then (s.entry? j).map Entry.reset
      else s.entry? j :=
  entry?_foldl_modify (fun _ => Entry.reset) (fun _ _ => rfl) _ s j

theorem invalidate_tables (s : Store) (targets : List EntryId) :
    (s.invalidate targets).schemas = s.schemas ∧ (s.invalidate targets).refs = s.refs ∧
      (s.invalidate targets).fragments = s.fragments ∧
      (s.invalidate targets).cache = s.cache ∧
      (s.invalidate targets).entries.size = s.entries.size :=
  foldl_modify_tables (fun _ => Entry.reset) _ s

/-! ## Removing -/

theorem remove_of_isLive {id : EntryId} (live : s.isLive id = true) :
    s.remove id = (s.without (s.family id)).invalidate (s.family id) := by
  rw [remove, if_pos live]

theorem remove_of_not_isLive {id : EntryId} (dead : s.isLive id = false) : s.remove id = s := by
  rw [remove, dead]
  rfl

theorem mem_family {id j : EntryId} :
    j ∈ s.family id ↔ j = id ∨ ∃ pointer, ((id, pointer), j) ∈ s.fragments ∧ j ≠ id := by
  simp only [family, List.mem_cons, List.mem_map, List.mem_filter, Bool.and_eq_true,
    decide_eq_true_eq]
  constructor
  · rintro (h | ⟨⟨⟨root, pointer⟩, f⟩, ⟨mem, e, ne⟩, rfl⟩)
    · exact .inl h
    · cases e
      exact .inr ⟨pointer, mem, ne⟩
  · rintro (h | ⟨pointer, mem, ne⟩)
    · exact .inl h
    · exact .inr ⟨((id, pointer), j), ⟨mem, rfl, ne⟩, rfl⟩

end Store

end JsonSchema
