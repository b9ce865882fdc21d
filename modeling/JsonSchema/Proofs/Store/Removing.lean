import JsonSchema.Proofs.Store.Leading
import JsonSchema.Proofs.Store.Linked

/-!
# What removals leave

Documents are removed one after the other, and each removal resets what led to its document
before the next one is made. In the end it is as if all of them had been removed at once.

* `Store.Loses`: documents are gone with their fragments, and what led to them is reset.
* `Store.Linked.loses_remove`: so it is after the removal of one document.
* `Store.Loses.trans`: and after another one, though the chains of references that led to both are
  forgotten by then.
-/

namespace JsonSchema

namespace Store

variable {s s₁ s' : Store} {id : EntryId} {e : Entry} {gone more : List EntryId}

/-- An entry belongs to one of some documents: it is the document, or a fragment of it. -/
def BelongsTo (s : Store) (documents : List EntryId) (id : EntryId) : Prop :=
  ∃ e, s.entry? id = some e ∧ e.root ∈ documents

theorem not_belongsTo {documents : List EntryId} (found : s.entry? id = some e)
    (out : e.root ∉ documents) : ¬ s.BelongsTo documents id := by
  rintro ⟨e', found', mem⟩
  rw [found] at found'
  cases found'
  exact out mem

/-- Some documents are gone from a store: they, their fragments and all names of theirs are not
    there any more, entries from which references led to them are reset, and nothing else is
    different. -/
structure Loses (s : Store) (gone : List EntryId) (s' : Store) : Prop where
  size : s'.entries.size = s.entries.size
  schemas : s'.schemas = s.schemas.filter (fun b => b.2 ∉ gone)
  refs : s'.refs = s.refs.filter (fun b => b.2 ∉ gone)
  cache : s'.cache = s.cache.filter (fun b => b.2 ∉ gone)
  fragments : s'.fragments = s.fragments.filter (fun b => b.1.1 ∉ gone)
  absent : ∀ id, s.entry? id = none → s'.entry? id = none
  removed : ∀ id, s.BelongsTo gone id → s'.entry? id = none
  reset : ∀ id e, s.entry? id = some e → e.root ∉ gone → s.LeadsTo (s.BelongsTo gone) id →
    s'.entry? id = some e.reset
  kept : ∀ id e, s.entry? id = some e → e.root ∉ gone → ¬ s.LeadsTo (s.BelongsTo gone) id →
    s'.entry? id = some e

namespace Loses

/-- What is there afterwards was there before, belongs to no removed document, and differs at most
    in its compilation. -/
theorem entry (loses : s.Loses gone s') {e' : Entry} (found' : s'.entry? id = some e') :
    ∃ e, s.entry? id = some e ∧ e.root ∉ gone ∧
      (s.LeadsTo (s.BelongsTo gone) id ∧ e' = e.reset ∨
        ¬ s.LeadsTo (s.BelongsTo gone) id ∧ e' = e) := by
  cases found : s.entry? id with
  | none =>
    rw [loses.absent id found] at found'
    cases found'
  | some e =>
    have out : e.root ∉ gone := by
      intro mem
      rw [loses.removed id ⟨e, found, mem⟩] at found'
      cases found'
    refine ⟨e, rfl, out, ?_⟩
    by_cases leads : s.LeadsTo (s.BelongsTo gone) id
    · rw [loses.reset id e found out leads] at found'
      exact .inl ⟨leads, (Option.some.inj found').symm⟩
    · rw [loses.kept id e found out leads] at found'
      exact .inr ⟨leads, (Option.some.inj found').symm⟩

theorem of_entry (loses : s.Loses gone s') (found : s.entry? id = some e) (out : e.root ∉ gone) :
    ∃ e', s'.entry? id = some e' ∧ e'.reset = e.reset := by
  by_cases leads : s.LeadsTo (s.BelongsTo gone) id
  · exact ⟨_, loses.reset id e found out leads, rfl⟩
  · exact ⟨_, loses.kept id e found out leads, rfl⟩

/-- An entry is what it was exactly if no references led from it to anything that is gone. -/
theorem entry?_eq_iff (loses : s.Loses gone s') (found : s.entry? id = some e)
    (out : e.root ∉ gone) :
    s'.entry? id = some e ↔ ¬ s.LeadsTo (s.BelongsTo gone) id := by
  refine ⟨fun same leads => ?_, loses.kept id e found out⟩
  rw [loses.reset id e found out leads, Option.some.injEq] at same
  exact leads.refs_ne_nil found (by rw [← same]; rfl)

/-- References that are still there were there before. -/
theorem follows {target : EntryId} (loses : s.Loses gone s') (follows : s'.Follows id target) :
    s.Follows id target := by
  obtain ⟨e', found', ref, mem, there⟩ := follows
  obtain ⟨e, found, -, ⟨-, rfl⟩ | ⟨-, rfl⟩⟩ := loses.entry found'
  · cases mem
  · exact ⟨e', found, ref, mem, there⟩

theorem belongsTo (loses : s.Loses gone s') (belongs : s'.BelongsTo more id) :
    s.BelongsTo more id := by
  obtain ⟨e', found', mem⟩ := belongs
  obtain ⟨e, found, -, ⟨-, rfl⟩ | ⟨-, rfl⟩⟩ := loses.entry found'
  · exact ⟨e, found, mem⟩
  · exact ⟨e', found, mem⟩

theorem refl (s : Store) : s.Loses [] s where
  size := rfl
  schemas := by simp
  refs := by simp
  cache := by simp
  fragments := by simp
  absent _ h := h
  removed := by
    rintro id ⟨e, -, mem⟩
    cases mem
  reset := by
    rintro id e - - ⟨target, -, belongs⟩
    obtain ⟨_, _, mem⟩ := belongs
    cases mem
  kept _ _ found _ _ := found

/-- Where no references led to a document that is gone already, they still lead to the others that
    go, as far as they did. -/
theorem leadsTo_append_iff (loses : s.Loses gone s₁) (out : ¬ s.BelongsTo gone id)
    (apart : ¬ s.LeadsTo (s.BelongsTo gone) id) :
    s.LeadsTo (s.BelongsTo (gone ++ more)) id ↔ s₁.LeadsTo (s₁.BelongsTo more) id := by
  constructor
  · intro leads
    -- `C`: what the first removals took away or reset; whatever refers to it was reset with it
    let C := fun id => s.BelongsTo gone id ∨ s.LeadsTo (s.BelongsTo gone) id
    have closed : ∀ id target, s.Follows id target → C target → C id := by
      rintro id target follows (belongs | leads)
      · exact .inr (.single follows belongs)
      · exact .inr (.head follows leads)
    have same : ∀ id e, s.entry? id = some e → C id ∨ s₁.entry? id = some e := by
      intro id e found
      by_cases forgot : C id
      · exact .inl forgot
      · exact .inr (loses.kept id e found (fun mem => forgot (.inl ⟨e, found, mem⟩))
          fun leads => forgot (.inr leads))
    have kept : ∀ id target, s.Follows id target → C id ∨ s₁.Follows id target := by
      rintro id target ⟨e, found, there⟩
      exact (same id e found).imp_right fun found' => ⟨e, found', there⟩
    refine (leads.cut kept (fun id target follows belongs => ?_) fun id target follows forgot =>
      .inl (closed id target follows forgot)).resolve_left fun h => h.elim out apart
    · obtain ⟨e, found, mem⟩ := belongs
      rcases List.mem_append.1 mem with mem | mem
      · exact .inl (closed id target follows (.inl ⟨e, found, mem⟩))
      · refine (same target e found).imp (closed id target follows) fun found' => ⟨e, found', mem⟩
  · refine fun leads => leads.mono (fun _ _ => loses.follows) fun id belongs => ?_
    obtain ⟨e, found, mem⟩ := loses.belongsTo belongs
    exact ⟨e, found, List.mem_append_right _ mem⟩

/-- Removing documents, and then others, removes all of them. -/
theorem trans (loses : s.Loses gone s₁) (loses' : s₁.Loses more s') :
    s.Loses (gone ++ more) s' := by
  have filtered : ∀ {β : Type} (t : List β) (of : β → EntryId),
      (t.filter fun b => of b ∉ gone).filter (fun b => of b ∉ more) =
        t.filter fun b => of b ∉ gone ++ more := by
    intro β t of
    rw [List.filter_filter]
    refine List.filter_congr fun b _ => ?_
    rw [← Bool.decide_and, decide_eq_decide, List.mem_append, not_or, and_comm]
  refine
    { size := loses'.size.trans loses.size
      schemas := by rw [loses'.schemas, loses.schemas]; exact filtered s.schemas (·.2)
      refs := by rw [loses'.refs, loses.refs]; exact filtered s.refs (·.2)
      cache := by rw [loses'.cache, loses.cache]; exact filtered s.cache (·.2)
      fragments := by rw [loses'.fragments, loses.fragments]; exact filtered s.fragments (·.1.1)
      absent := fun id absent => loses'.absent id (loses.absent id absent)
      removed := ?_, reset := ?_, kept := ?_ }
  · rintro id ⟨e, found, mem⟩
    by_cases first : e.root ∈ gone
    · exact loses'.absent id (loses.removed id ⟨e, found, first⟩)
    · obtain ⟨e₁, found₁, same⟩ := loses.of_entry found first
      refine loses'.removed id ⟨e₁, found₁, ?_⟩
      rw [Entry.eq_of_reset_eq same.symm]
      exact (List.mem_append.1 mem).resolve_left first
  · intro id e found out leads
    rw [List.mem_append, not_or] at out
    by_cases first : s.LeadsTo (s.BelongsTo gone) id
    · have found₁ := loses.reset id e found out.1 first
      exact loses'.kept id e.reset found₁ out.2 fun leads => leads.refs_ne_nil found₁ rfl
    · have found₁ := loses.kept id e found out.1 first
      have apart := not_belongsTo found out.1
      exact loses'.reset id e found₁ out.2 ((loses.leadsTo_append_iff apart first).1 leads)
  · intro id e found out apart
    rw [List.mem_append, not_or] at out
    have first : ¬ s.LeadsTo (s.BelongsTo gone) id := fun leads =>
      apart (leads.mono (fun _ _ follows => follows) fun j ⟨e, found, mem⟩ =>
        ⟨e, found, List.mem_append_left _ mem⟩)
    refine loses'.kept id e (loses.kept id e found out.1 first) out.2 fun leads => apart ?_
    exact (loses.leadsTo_append_iff (not_belongsTo found out.1) first).2 leads

end Loses

/-! ## One document -/

namespace Linked

variable {v : EntryId} {d : Entry}

/-- What goes with a document is what belongs to it. -/
theorem mem_family_iff (linked : s.Linked) (found : s.entry? v = some d) (doc : d.pointer = "")
    {j : EntryId} : j ∈ s.family v ↔ s.BelongsTo [v] j := by
  constructor
  · intro mem
    rcases mem_family.1 mem with rfl | ⟨pointer, bound, -⟩
    · exact ⟨d, found, List.mem_singleton.2 (linked.document_root found doc)⟩
    · obtain ⟨f, foundF, root, -⟩ := linked.fragments _ bound
      exact ⟨f, foundF, List.mem_singleton.2 root⟩
  · rintro ⟨f, foundF, root⟩
    refine linked.mem_family_of_root foundF ?_
    rw [List.mem_singleton.1 root]
    exact mem_family.2 (.inl rfl)

/-- Removing a document removes it. -/
theorem loses_remove (linked : s.Linked) (found : s.entry? v = some d) (doc : d.pointer = "") :
    s.Loses [v] (s.remove v) := by
  have family : ∀ {j}, j ∈ s.family v ↔ s.BelongsTo [v] j := linked.mem_family_iff found doc
  have gone : ∀ j e, s.entry? j = some e → (j ∈ s.family v ↔ e.root = v) := by
    intro j e foundE
    rw [family, ← List.mem_singleton]
    refine ⟨fun ⟨e', found', mem⟩ => ?_, fun mem => ⟨e, foundE, mem⟩⟩
    rw [foundE] at found'
    cases found'
    exact mem
  have leads : ∀ j, j ∉ s.family v → (s.LeadsTo (s.BelongsTo [v]) j ↔
      (s.without (s.family v)).LeadsTo (· ∈ s.family v) j) := by
    intro j out
    constructor
    · intro leads
      refine (leads.cut (C := (· ∈ s.family v)) (fun i target follows => ?_)
        (fun _ _ _ belongs => .inr (family.2 belongs)) fun _ _ _ mem => .inr mem).resolve_left out
      by_cases mem : i ∈ s.family v
      · exact .inl mem
      · exact .inr (follows.of_eq (entry?_without_family mem))
    · refine fun leads => leads.mono (fun i target follows => ?_) fun _ mem => family.1 mem
      obtain ⟨e, foundE, there⟩ := follows
      exact ⟨e, (not_mem_of_entry?_without foundE).2, there⟩
  rw [remove_of_isLive (isLive_of_entry found)]
  obtain ⟨schemas, refs, fragments, cache, size⟩ :=
    (s.without (s.family v)).invalidate_tables (s.family v)
  have names : ∀ (t : Bindings String EntryId),
      (∀ b ∈ t, ∃ e, s.entry? b.2 = some e ∧ e.pointer = "") →
        t.filter (!(s.family v).contains ·.2) = t.filter fun b => b.2 ∉ [v] := by
    intro t documents
    refine List.filter_congr fun b mem => ?_
    obtain ⟨e, foundE, docE⟩ := documents b mem
    rw [List.contains_eq_mem, ← decide_not, decide_eq_decide, gone _ e foundE,
      linked.document_root foundE docE, List.mem_singleton]
  refine
    { size := size.trans (without_size _ _)
      schemas := schemas.trans (names _ linked.schemas)
      refs := refs.trans (names _ linked.refs)
      cache := cache.trans (List.filter_congr fun b mem => ?_)
      fragments := fragments.trans (List.filter_congr fun b mem => ?_)
      absent := fun j absent => ?_, removed := fun j belongs => ?_
      reset := fun j e foundE out chain => ?_, kept := fun j e foundE out chain => ?_ }
  · obtain ⟨e, foundE, docE, -⟩ := linked.cached b mem
    rw [List.contains_eq_mem, ← decide_not, decide_eq_decide, gone _ e foundE,
      linked.document_root foundE docE, List.mem_singleton]
  · obtain ⟨e, foundE, root, -⟩ := linked.fragments b mem
    have root_ : b.1.1 ∈ s.family v ↔ b.1.1 = v := by
      obtain ⟨d', foundD, -, self⟩ := linked.root_entry foundE
      rw [root] at foundD self
      rw [gone _ d' foundD, self]
    rw [List.contains_eq_mem, List.contains_eq_mem, ← decide_not, ← decide_not, ← Bool.decide_and,
      decide_eq_decide, gone _ e foundE, root, root_, and_self, List.mem_singleton]
  · have none' : Store.entry? (s.without (s.family v)) j = none := by
      rw [entry?_without, absent, ite_self]
    rw [entry?_invalidate, none', Option.map_none, ite_self]
  · have none' : Store.entry? (s.without (s.family v)) j = none := by
      rw [entry?_without, if_pos (family.2 belongs)]
    rw [entry?_invalidate, none', Option.map_none, ite_self]
  · have out : j ∉ s.family v := fun mem => not_belongsTo foundE out (family.1 mem)
    rw [entry?_invalidate_of_leadsTo (.inr ((leads j out).1 chain)), entry?_without_family out,
      foundE, Option.map_some]
  · have out : j ∉ s.family v := fun mem => not_belongsTo foundE out (family.1 mem)
    rw [entry?_invalidate_of_not_leadsTo out fun h => chain ((leads j out).2 h),
      entry?_without_family out, foundE]

end Linked

end Store

end JsonSchema
