import JsonSchema.Proofs.Registry.Reachable
import JsonSchema.Proofs.Store.Removing

/-!
# Removing documents from a registry

A removal takes the documents away that its target names, and what came with them. Nothing else
changes, except that what referred to them, over any number of references, has to be compiled
again.

* `Registry.Good.mem_victims`: what a target names is there, and is a document.
* `Registry.removeSchema_loses`: what a removal leaves, and what it returns.
* `Registry.run_removes`: this after any operations.
-/

namespace JsonSchema

namespace Registry

open RegistryM (bind_ok get_bind)

variable {K : EntryId → Compiler → Prop} {r : Registry} {target : RemoveTarget} {id : EntryId}

/-! ## What a target names -/

theorem nodup_eraseDups : (ids : List EntryId) → ids.eraseDups.Nodup
  | [] => List.nodup_nil
  | id :: rest => by
    rw [List.eraseDups_cons, List.nodup_cons, List.mem_eraseDups, List.mem_filter]
    exact ⟨fun h => by simp at h, nodup_eraseDups (rest.filter fun other => !other == id)⟩
termination_by ids => ids.length
decreasing_by exact Nat.lt_succ_of_le (List.length_filter_le _ _)

/-- No target names a document twice. -/
theorem nodup_victims (r : Registry) (target : RemoveTarget) : (r.victims target).Nodup := by
  cases target with
  | all => exact r.store.nodup_live.sublist List.filter_sublist
  | key name =>
    rw [victims]
    cases r.store.lookup (normalizeId name) with
    | none => exact List.nodup_nil
    | some id => exact List.nodup_singleton id
  | pattern pattern => exact nodup_eraseDups _
  | document document => exact nodup_eraseDups _

/-- A target names documents that are there. -/
theorem Good.mem_victims (good : r.Good K) (mem : id ∈ r.victims target) :
    ∃ e, r.store.entry? id = some e ∧ e.pointer = "" := by
  have linked := good.settled.linked
  cases target with
  | all =>
    obtain ⟨live, ordinary⟩ := List.mem_filter.1 mem
    obtain ⟨e, found⟩ := Store.mem_live.1 live
    rw [found, Option.map_some, Option.getD_some, isOrdinary, Bool.and_eq_true,
      Bool.not_eq_true', Bool.not_eq_true', Store.isFragment_eq_false_iff] at ordinary
    exact ⟨e, found, ordinary.2⟩
  | key name => exact linked.lookup_document (Option.mem_toList.1 mem)
  | pattern pattern =>
    obtain ⟨named, -⟩ := List.mem_filter.1 (List.mem_eraseDups.1 mem)
    obtain ⟨b, bound, rfl⟩ := List.mem_map.1 named
    rcases List.mem_append.1 (List.mem_filter.1 bound).1 with bound | bound
    · exact linked.schemas b bound
    · exact linked.refs b bound
  | document document =>
    rcases List.mem_append.1 (List.mem_eraseDups.1 mem) with cached | named
    · obtain ⟨e, found, doc, -⟩ :=
        linked.cached _ (Bindings.mem_of_find? (Option.mem_toList.1 cached))
      exact ⟨e, found, doc⟩
    · cases hid : document.value.schemaId with
      | error _ => rw [hid] at named; cases named
      | ok name =>
        rw [hid] at named
        dsimp only at named
        split at named
        · cases named
        · exact linked.lookup_document (Option.mem_toList.1 named)

/-! ## What a removal leaves -/

/-- A document is there that is not removed. -/
theorem document_remove {s : Store} {v : EntryId} {d e : Entry} (linked : s.Linked)
    (found : s.entry? v = some d) (doc : d.pointer = "") (foundE : s.entry? id = some e)
    (docE : e.pointer = "") (ne : id ≠ v) :
    ∃ e', Store.entry? (s.remove v) id = some e' ∧ e'.pointer = "" := by
  have out : e.root ∉ [v] := by
    rw [linked.document_root foundE docE, List.mem_singleton]
    exact ne
  obtain ⟨e', found', same⟩ := (linked.loses_remove found doc).of_entry foundE out
  exact ⟨e', found', by rw [Entry.eq_of_reset_eq same.symm]; exact docE⟩

/-- Removing documents one after the other removes them all, and counts them. -/
theorem removeEach (documents : List EntryId) (nodup : documents.Nodup) (linked : r.store.Linked)
    (there : ∀ id ∈ documents, ∃ e, r.store.entry? id = some e ∧ e.pointer = "") (count : Nat) :
    ∃ s, (documents.foldlM
        (fun count id => do
          let isLive := (← get).store.isLive id
          updateStore (·.remove id)
          return if isLive then count + 1 else count)
        count : RegistryM Nat) r = .ok (count + documents.length) { r with store := s } ∧
      r.store.Loses documents s := by
  induction documents generalizing r count with
  | nil => exact ⟨r.store, rfl, .refl _⟩
  | cons v rest ih =>
    obtain ⟨d, found, doc⟩ := there v List.mem_cons_self
    obtain ⟨fresh, nodup⟩ := List.nodup_cons.1 nodup
    have there' : ∀ id ∈ rest, ∃ e, Store.entry? (r.store.remove v) id = some e ∧ e.pointer = "" := by
      intro id mem
      obtain ⟨e, foundE, docE⟩ := there id (List.mem_cons_of_mem _ mem)
      exact document_remove linked found doc foundE docE fun same => fresh (same ▸ mem)
    obtain ⟨s, ran, loses⟩ := ih (r := { r with store := r.store.remove v }) nodup
      (linked.remove v) there' (count + 1)
    refine ⟨s, ?_, (linked.loses_remove found doc).trans loses⟩
    have first : (do
        let isLive := (← get).store.isLive v
        updateStore (·.remove v)
        return if isLive then count + 1 else count : RegistryM Nat) r =
          .ok (count + 1) { r with store := r.store.remove v } := by
      show EStateM.Result.ok (if r.store.isLive v then count + 1 else count) _ = _
      rw [if_pos (Store.isLive_of_entry found)]
    rw [List.foldlM_cons, bind_ok first, ran, List.length_cons, Nat.add_assoc, Nat.add_comm 1]

/-- A removal never fails. It takes away what its target names, and returns how much that was. -/
theorem removeSchema_loses (good : r.Good K) (target : RemoveTarget) :
    ∃ s, removeSchema target r = .ok (r.victims target).length { r with store := s } ∧
      r.store.Loses (r.victims target) s := by
  obtain ⟨s, ran, loses⟩ := removeEach (r.victims target) (nodup_victims r target)
    good.settled.linked (fun _ => good.mem_victims) 0
  rw [Nat.zero_add] at ran
  exact ⟨s, (get_bind _ r).trans ran, loses⟩

end Registry

namespace Store

variable {s s' : Store} {gone : List EntryId}

/-- The documents of a store, in the order of their places. -/
def documents (s : Store) : List EntryId := s.live.filter s.holdsDocument

theorem holdsDocument_iff {id : EntryId} :
    s.holdsDocument id = true ↔ ∃ e, s.entry? id = some e ∧ e.pointer = "" := by
  rw [holdsDocument]
  constructor
  · intro holds
    cases found : s.entry? id with
    | none => rw [found] at holds; cases holds
    | some e =>
      rw [found, Option.map_some, Option.getD_some, Bool.not_eq_true',
        isFragment_eq_false_iff] at holds
      exact ⟨e, rfl, holds⟩
  · rintro ⟨e, found, doc⟩
    rw [found, Option.map_some, Option.getD_some, Bool.not_eq_true', isFragment_eq_false_iff]
    exact doc

theorem mem_documents {id : EntryId} :
    id ∈ s.documents ↔ ∃ e, s.entry? id = some e ∧ e.pointer = "" := by
  rw [documents, List.mem_filter, holdsDocument_iff, mem_live]
  exact ⟨fun h => h.2, fun h => ⟨h.imp fun _ h => h.1, h⟩⟩

/-- The documents are found at their places, whatever else is live. -/
theorem documents_eq_filter (s : Store) :
    s.documents = ((List.range s.entries.size).map EntryId.mk).filter s.holdsDocument := by
  rw [documents, live, List.filter_filter]
  refine List.filter_congr fun id _ => ?_
  rw [Bool.eq_iff_iff, Bool.and_eq_true, and_iff_left_iff_imp, holdsDocument_iff, isLive_iff]
  exact fun h => h.imp fun _ h => h.1

namespace Loses

/-- The documents that are left are those that did not go. -/
theorem documents_eq (loses : s.Loses gone s') (linked : s.Linked) :
    s'.documents = s.documents.filter (fun id => id ∉ gone) := by
  rw [documents_eq_filter, documents_eq_filter, loses.size, List.filter_filter]
  refine List.filter_congr fun id _ => ?_
  rw [Bool.eq_iff_iff, Bool.and_eq_true, decide_eq_true_iff, holdsDocument_iff, holdsDocument_iff]
  constructor
  · rintro ⟨e', found', doc⟩
    obtain ⟨e, found, out, ⟨-, rfl⟩ | ⟨-, rfl⟩⟩ := loses.entry found'
    all_goals
      rw [linked.document_root found doc] at out
      exact ⟨out, _, found, doc⟩
  · rintro ⟨out, e, found, doc⟩
    rw [← linked.document_root found doc] at out
    obtain ⟨e', found', same⟩ := loses.of_entry found out
    exact ⟨e', found', by rw [Entry.eq_of_reset_eq same.symm]; exact doc⟩

/-- What is left and led to nothing that is gone is compiled as it was, if it was. The rest has to
    be compiled anew. -/
theorem slots_eq (loses : s.Loses gone s') {id : EntryId} {e : Entry} (found : s.entry? id = some e)
    (out : e.root ∉ gone) :
    (¬ s.LeadsTo (s.BelongsTo gone) id → s'.slots id = s.slots id) ∧
      (s.LeadsTo (s.BelongsTo gone) id → s'.slots id = none) := by
  refine ⟨fun apart => ?_, fun leads => ?_⟩
  · rw [slots, slots, loses.kept id e found out apart, found]
  · rw [slots, loses.reset id e found out leads]
    rfl

end Loses

end Store

/-- After any operations, a removal never fails and returns how many documents it takes away, which
    are those that its target names. They are gone with their fragments and their names. An entry
    that is left is what it was exactly if no references led from it to anything that is gone, and
    is to be compiled anew otherwise. The loop that finds such entries ends, whatever the references
    are, and in whatever order the entries that are gone are pending. -/
theorem Registry.run_removes (options : Options) (operations : List Operation)
    (target : RemoveTarget) :
    let r := (create options).run operations
    let gone := r.victims target
    ∃ s, removeSchema target r = .ok gone.length { r with store := s } ∧
      gone.Nodup ∧ (∀ id ∈ gone, id ∈ r.store.documents) ∧
      s.documents = r.store.documents.filter (fun id => id ∉ gone) ∧
      r.store.Loses gone s ∧
      (∀ id e, r.store.entry? id = some e → e.root ∉ gone →
        (s.entry? id = some e ∧ s.slots id = r.store.slots id ↔
          ¬ r.store.LeadsTo (r.store.BelongsTo gone) id) ∧
        (r.store.LeadsTo (r.store.BelongsTo gone) id →
          s.entry? id = some { e with progress := .notStarted } ∧ s.slots id = none)) ∧
      ∀ (s : Store) (id : EntryId) (targets : List EntryId), s.isLive id = true →
        (∀ target, target ∈ targets ↔ target ∈ s.family id) →
        let left := s.without (s.family id)
        Store.drain (targets.length + left.referring.length) left targets =
          some (s.remove id) := by
  intro r gone
  have good : r.Good fun _ _ => True := reached_good options operations
  have linked := good.settled.linked
  obtain ⟨s, ran, loses⟩ := removeSchema_loses good target
  refine ⟨s, ran, nodup_victims r target, fun id mem => Store.mem_documents.2 (good.mem_victims mem),
    loses.documents_eq linked, loses, fun id e found out => ?_,
    fun _ _ _ live same => Store.drain_eq_remove live same⟩
  obtain ⟨kept, emptied⟩ := loses.slots_eq found out
  refine ⟨⟨fun h => (loses.entry?_eq_iff found out).1 h.1, fun apart => ?_⟩, fun leads => ?_⟩
  · exact ⟨(loses.entry?_eq_iff found out).2 apart, kept apart⟩
  · exact ⟨loses.reset id e found out leads, emptied leads⟩

end JsonSchema
