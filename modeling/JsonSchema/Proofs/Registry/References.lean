import JsonSchema.Proofs.Compilation.References
import JsonSchema.Proofs.Registry.Reachable
import JsonSchema.Proofs.Validation.Violations

/-!
# References between compiled schemas

Between two operations every reference in a compiled schema leads to a compiled schema, though
this is not so while something is compiled.

* `Store.Intact`: what holds of the references of a store between two operations.
* `Store.Settled.closed`: what is compiled refers to what is compiled.
* `Registry.run_intact`: this is so after any operations, and no validator that is returned then
  says that a reference leads nowhere.
-/

namespace JsonSchema

namespace Store

/-- Whether an entry is compiled. -/
def IsDone (s : Store) (id : EntryId) : Prop :=
  ∃ e node refs, s.entry? id = some e ∧ e.progress = .done node refs

/-- How the progress of entries, what they refer to and what is compiled agree. -/
structure Intact (s : Store) : Prop where
  /-- Nothing is being compiled. -/
  idle : ∀ id e refs, s.entry? id = some e → e.progress ≠ .inProgress refs
  /-- There is a compiled schema of exactly those entries that are compiled. -/
  slots : ∀ id, (s.slots id).isSome ↔ s.IsDone id
  /-- What is not compiled refers to nothing. -/
  bare : ∀ id e, s.entry? id = some e → ¬ s.IsDone id → e.refs = []
  /-- A reference in a compiled schema is one of the references of its entry, and what it leads
      to is compiled. -/
  proxies : ∀ id node, s.slots id = some node →
    ∀ target reference, node.Contains (.ref target reference) →
      (∃ e, s.entry? id = some e ∧ (reference, target) ∈ e.refs) ∧
        s.IsDone target ∧ (s.slots target).isSome

variable {K : EntryId → Compiler → Prop} {s : Store}

theorem isSome_slots_iff {id : EntryId} : (s.slots id).isSome ↔ s.IsDone id := by
  rw [Option.isSome_iff_exists]
  constructor
  · rintro ⟨node, slot⟩
    obtain ⟨e, refs, found, done⟩ := done_of_slots slot
    exact ⟨e, node, refs, found, done⟩
  · rintro ⟨e, node, refs, found, done⟩
    refine ⟨node, ?_⟩
    rw [Store.slots, found, Option.bind_some, done]
    rfl

namespace Settled

variable (settled : s.Settled K)

include settled

theorem isDone {id : EntryId} (started : s.IsStarted id) : s.IsDone id :=
  settled.started_done started

/-- A reference in a compiled schema was followed, and leads to what is compiled. -/
theorem proxy {id target : EntryId} {node : Node} {reference : String}
    (slot : s.slots id = some node) (occurs : node.Contains (.ref target reference)) :
    (∃ e, s.entry? id = some e ∧ (reference, target) ∈ e.refs) ∧ s.IsDone target := by
  obtain ⟨e, refs, found, done⟩ := done_of_slots slot
  obtain ⟨compiler, fuel, underMeta, -, -, shape⟩ := settled.holds id e node refs found done
  have mem := Bindings.mem_of_find? (shape.find?_of_contains occurs)
  refine ⟨⟨e, found, ?_⟩, settled.isDone (settled.leads id e node refs found done _ mem)⟩
  rw [Entry.refs, done]
  exact mem

/-- What is compiled refers to what is compiled. -/
theorem closed (id : EntryId) (node : Node) (slot : s.slots id = some node) :
    node.Closed s.slots where
  refs target reference occurs := isSome_slots_iff.2 (settled.proxy slot occurs).2
  places rules occurs := by
    obtain ⟨e, refs, found, done⟩ := done_of_slots slot
    obtain ⟨compiler, fuel, underMeta, -, -, shape⟩ := settled.holds id e node refs found done
    exact shape.schemaPath_ne_root occurs

theorem intact : s.Intact where
  idle id e refs found pending := by
    have idle := settled.idle id e found
    rw [pending] at idle
    cases idle
  slots _ := isSome_slots_iff
  bare id e found undone := by
    refine Progress.refs_eq_nil (Bool.eq_false_iff.2 fun started => undone ?_)
    exact settled.isDone ⟨e, found, started⟩
  proxies id node slot target reference occurs := by
    obtain ⟨followed, done⟩ := settled.proxy slot occurs
    exact ⟨followed, done, isSome_slots_iff.2 done⟩

/-- A validator of what is compiled never says that a reference leads nowhere. -/
theorem resolved {validator : Validator} (started : s.IsStarted validator.entry) :
    validator.Resolved s.slots :=
  Validator.resolved settled.closed (isSome_slots_iff.2 (settled.isDone started))

end Settled

end Store

end JsonSchema
