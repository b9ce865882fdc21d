import JsonSchema.Proofs.Json.Walking
import JsonSchema.Proofs.Registry.Interpretation

/-!
# Pieces of documents

A piece of a document that something refers to has an entry of its own, which is found under the
pointer of the reference. So a piece has one entry for each pointer that leads to it: only one if the
pointers are as the standard of JSON pointers has them.

* `Store.Linked.walk?`: an entry is what its pointer leads to in its document.
* `Registry.run_walks`: where pointers lead, and how many entries a piece of a document has after
  any operations.
* `Registry.walks_loosely`: a piece with two entries.
-/

namespace JsonSchema

/-- Every entry is what its pointer leads to in its document. -/
theorem Store.Linked.walk? {s : Store} (linked : s.Linked) {id : EntryId} {e : Entry}
    (found : s.entry? id = some e) :
    ∃ owner, s.entry? e.root = some owner ∧
      owner.document.walk? owner.id e.pointer = some (e.document, e.id) := by
  by_cases document : e.pointer = ""
  · refine ⟨e, (linked.document_root found document).symm ▸ found, ?_⟩
    rw [document]
    rfl
  · obtain ⟨-, -, owner, foundOwner, -, segments, read, follows⟩ :=
      linked.fragment id e found document
    refine ⟨owner, foundOwner, ?_⟩
    rw [Value.walk?, read]
    exact follows

namespace Registry

/-- A pointer that nothing is decoded in leads where the turns lead that it names, and there is one
    pointer among those for the same turns that the standard reads, to the same end. Every entry of a
    registry, after any operations, is what turns that its pointer names lead to in its document. Two
    entries for the same turns are the same if the standard reads both pointers. -/
theorem run_walks (options : Options) (operations : List Operation) :
    (∀ (document : Value) (base pointer : String), document.IsIndexable → Pointer.IsPlain pointer →
      (∀ part, (document.walk? base pointer).map Prod.fst = some part ↔
        ∃ turns, document.at? turns = some part ∧ Pointer.Names pointer turns) ∧
      (∀ part, document.evaluate? pointer = some part →
        (document.walk? base pointer).map Prod.fst = some part) ∧
      ∀ turns part, document.at? turns = some part → Pointer.Names pointer turns →
        document.evaluate? pointer =
          if pointer = Pointer.ofTurns turns then some part else none) ∧
    let s := ((create options).run operations).store
    ∀ id e, s.entry? id = some e → Pointer.IsPlain e.pointer →
      ∃ owner turns, s.entry? e.root = some owner ∧
        owner.document.walk? owner.id e.pointer = some (e.document, e.id) ∧
        owner.document.at? turns = some e.document ∧ Pointer.Names e.pointer turns ∧
        (owner.document.IsIndexable → ∀ id' e', s.entry? id' = some e' → e'.root = e.root →
          Pointer.IsPlain e'.pointer → Pointer.Names e'.pointer turns →
          owner.document.evaluate? e.pointer ≠ none →
          owner.document.evaluate? e'.pointer ≠ none → id' = id) := by
  refine ⟨fun document base pointer indexable plain => ⟨fun part => ?_, fun part leads => ?_,
    fun turns part leads named => ?_⟩, ?_⟩
  · exact Value.walk?_eq_some_iff plain
  · exact Value.walk?_of_evaluate? indexable plain leads
  · exact Value.evaluate?_of_names indexable plain leads named
  intro s id e found plain
  have linked := (reached_good options operations).settled.linked
  obtain ⟨owner, foundOwner, walks⟩ := linked.walk? found
  obtain ⟨turns, leads, named⟩ :=
    (Value.walk?_eq_some_iff plain).1 (congrArg (Option.map Prod.fst) walks)
  refine ⟨owner, turns, foundOwner, walks, leads, named,
    fun indexable id' e' found' root plain' named' read read' => ?_⟩
  -- the standard reads only the pointer that is put together from the turns
  have only {pointer : String} (plain : Pointer.IsPlain pointer)
      (named : Pointer.Names pointer turns) (read : owner.document.evaluate? pointer ≠ none) :
      pointer = Pointer.ofTurns turns := by
    rw [Value.evaluate?_of_names indexable plain leads named] at read
    split at read
    · next same => exact same
    · exact absurd rfl read
  exact linked.eq_of_root_of_pointer found' found root
    ((only plain' named' read').trans (only plain named read).symm)

/-- A document that refers twice to its only item, once with a zero in front of the position. -/
def spelled : Document where
  value := .object
    [("allOf", .array
      [.object [("$ref", .string "#/items/0")], .object [("$ref", .string "#/items/00")]]),
     ("items", .array [.bool true])]
  identity := .given 0

/-- A registry that has compiled it. -/
def spelling : Registry :=
  (create { serialize := .disabled, installMeta := false }).run [.compile spelled]

theorem indexable_spelled : spelled.value.IsIndexable := by
  have text (s : String) : (Value.string s).IsIndexable :=
    Value.isIndexable_of_parts nofun fun turn part leads => by cases leads
  have bool (b : Bool) : (Value.bool b).IsIndexable :=
    Value.isIndexable_of_parts nofun fun turn part leads => by cases leads
  refine Value.isIndexable_object ?_
  simp only [List.mem_cons, List.not_mem_nil, or_false, forall_eq_or_imp, forall_eq]
  refine ⟨Value.isIndexable_array (by decide) ?_, Value.isIndexable_array (by decide) ?_⟩
  · simp only [List.mem_cons, List.not_mem_nil, or_false, forall_eq_or_imp, forall_eq]
    constructor
    all_goals
      refine Value.isIndexable_object ?_
      simp only [List.mem_singleton, forall_eq]
      exact text _
  · simp only [List.mem_singleton, forall_eq]
    exact bool true

/-- The item is found under the pointer that the standard does not read, and has an entry for it. -/
theorem run_walks_spelled : spelled.value.evaluate? "/items/00" = none ∧
    ∃ e owner turns, spelling.store.entry? ⟨2⟩ = some e ∧ e.pointer = "/items/00" ∧
      spelling.store.entry? e.root = some owner ∧
      owner.document.at? turns = some e.document ∧ Pointer.Names e.pointer turns := by
  have plain : Pointer.IsPlain "/items/00" :=
    ⟨fun c first => (Option.some.inj first).symm, by decide⟩
  obtain ⟨named, entries⟩ := run_walks { serialize := .disabled, installMeta := false }
    [.compile spelled]
  constructor
  · have items : String.ofList (Pointer.unescape "items".toList) = "items" := by decide
    have zero : Pointer.IsIndex (String.ofList (Pointer.unescape "00".toList)) 0 :=
      ⟨by decide, [], 1, .inl rfl, by decide⟩
    have names : Pointer.Names "/items/00" [.member "items", .item 0] :=
      ⟨["items".toList, "00".toList], by decide, by decide,
        .cons items (.cons zero .nil)⟩
    rw [(named spelled.value "" "/items/00" indexable_spelled plain).2.2 _ (.bool true)
      (by decide +kernel) names]
    decide +kernel
  · have entry : (spelling.store.entry? ⟨2⟩).map (·.pointer) = some "/items/00" := by
      decide +kernel
    obtain ⟨e, found, pointer⟩ := Option.map_eq_some_iff.1 entry
    obtain ⟨owner, turns, foundOwner, -, leads, names, -⟩ :=
      entries ⟨2⟩ e found (pointer ▸ plain)
    exact ⟨e, owner, turns, found, pointer, foundOwner, leads, names⟩

/-- A position with a zero in front, or with a plus sign, is no position for the standard. But
    references that have it lead to the item, and give it an entry besides the one that it has. -/
theorem walks_loosely :
    (["/items/0", "/items/00", "/items/+0"].map fun pointer =>
      ((spelled.value.walk? "" pointer).map Prod.fst, spelled.value.evaluate? pointer)) =
        [(some (.bool true), some (.bool true)), (some (.bool true), none),
          (some (.bool true), none)] ∧
      (([⟨1⟩, ⟨2⟩] : List EntryId).map fun id =>
        (spelling.store.entry? id).map fun e => (e.root, e.pointer, e.document)) =
        [some (⟨0⟩, "/items/0", .bool true), some (⟨0⟩, "/items/00", .bool true)] := by
  decide +kernel

end Registry

end JsonSchema
