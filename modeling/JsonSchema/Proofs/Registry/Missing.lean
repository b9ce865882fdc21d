import JsonSchema.Proofs.Registry.Errors

/-!
# What a document lacks

If a document does not compile because something is missing, the error names a document under
which something can be taken in: the document part of a reference, which is found under its
stored form.

* `Registry.compile_raises`: the error names the document part of what is missing.
* `normalizeId_documentPart_isEmpty`: the stored form of a document part is not empty.
* `Registry.Knows`: a document is known under a name.
* `Registry.knows_iff`: which names these are.
-/

namespace JsonSchema

/-! ## Stored forms -/

theorem Reference.mem_stripMark {c : Char} {cs : List Char} (plain : c ≠ '#') (mem : c ∈ cs) :
    c ∈ stripMark cs := by
  unfold stripMark
  split
  · next last =>
    obtain ⟨rest, rfl⟩ := List.getLast?_eq_some_iff.1 last
    rw [List.dropLast_concat]
    rcases List.mem_append.1 mem with mem | mem
    · exact mem
    · exact absurd (List.mem_singleton.1 mem) plain
  · exact mem

/-- The stored form of a text is not empty, unless it is empty or a number sign. -/
theorem normalizeId_isEmpty_of_mem {raw : String} {c : Char} (plain : c ≠ '#')
    (mem : c ∈ raw.toList) : (normalizeId raw).isEmpty = false := by
  have stays : (String.ofList (Reference.stripMark raw.toList)).isEmpty = false := by
    rw [← Bool.not_eq_true, String.isEmpty_iff]
    intro empty
    have gone := Reference.mem_stripMark plain mem
    rw [String.ofList_eq_empty_iff.1 empty] at gone
    cases gone
  unfold normalizeId
  simp only
  split
  · next url _ =>
    have mark : ':' ∈ url.characters := by simp [Url.characters]
    have gone := Reference.mem_stripMark (by decide) mark
    rw [← Bool.not_eq_true, String.isEmpty_iff]
    intro empty
    rw [String.ofList_eq_empty_iff.1 empty] at gone
    cases gone
  · exact stays

/-- A document part that is not empty has a stored form that is not. -/
theorem normalizeId_documentPart_isEmpty {reference : String}
    (named : (documentPart reference).isEmpty = false) :
    (normalizeId (documentPart reference)).isEmpty = false := by
  obtain ⟨c, mem⟩ : ∃ c, c ∈ (Reference.splitAtMark reference.toList).1 := by
    refine List.exists_mem_of_ne_nil _ fun empty => ?_
    rw [documentPart, empty] at named
    cases named
  refine normalizeId_isEmpty_of_mem (c := c) ?_ (by rw [documentPart, String.toList_ofList]; exact mem)
  rintro rfl
  have unmarked := List.all_eq_true.1 List.all_takeWhile _ mem
  simp at unmarked

/-! ## Names -/

namespace Registry

/-- A document is known under a name. -/
def Knows (r : Registry) (name : String) : Prop := (r.schemaEntry? name).isSome = true

theorem knows_iff {K : EntryId → Compiler → Prop} {r : Registry} (good : r.Good K) {name : String} :
    r.Knows name ↔ r.store.isTaken (normalizeId name) = true := by
  rw [← Bool.not_eq_false, ← good.settled.linked.lookup_eq_none_iff, Knows, schemaEntry?]
  cases found : r.store.lookup (normalizeId name) with
  | none => simp
  | some id =>
    obtain ⟨e, found, -⟩ := good.settled.linked.lookup_document found
    simp [found]

/-! ## Compiling a document -/

theorem suits_namesPart (o : Options) : Suits o SchemaError.NamesPart where
  toSuits := SchemaError.suits_namesPart
  refused _ _ := nofun
  unknown _ _ := nofun

/-- A document that does not compile because something is missing names the document part of it. -/
theorem compile_raises (document : Document) : Raises SchemaError.NamesPart (compile document) :=
  fun r e r' failed => (compile_fails (suits_namesPart r.options) document r rfl).2 e r' failed

end Registry

end JsonSchema
