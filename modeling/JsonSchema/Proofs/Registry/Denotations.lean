import JsonSchema.Proofs.Registry.Steps

/-!
# What followed references denote

A compiled entry keeps the references it followed with the entries they led to, and never asks
again. Other documents come and go meanwhile, under names that may be given out anew, so it has to
be shown that asking again would give nothing else.

* `Store.IsCurrent`: the references that were kept lead to what they are kept with.
* `Store.KeepsDenotations`: later they lead where they led, or what they led to is gone, and then
  they are not kept any more.
* `Store.Steps.lookup_eq`: as long as a document is there, no other one is found by its names.
* `Store.Denotes.resolve_eq`: a reference denotes one place only as long as it denotes one entry,
  since the entry tells which place it was made for.
* `Registry.run_current`: both, after any operations.
-/

namespace JsonSchema

namespace Store

variable {K : EntryId → Compiler → Prop} {options : Options} {s s' : Store} {source target : EntryId}
  {reference : String}

/-- Every reference that a compiled entry keeps denotes the entry it is kept with: resolved anew
    it leads to this document, or to the part of a document that this fragment was made of. -/
def IsCurrent (s : Store) : Prop :=
  ∀ id e node refs, s.entry? id = some e → e.progress = .done node refs →
    ∀ reference target, (reference, target) ∈ refs → s.Denotes id reference target

/-- A reference that a compiled entry kept leads where it led as long as the entry and what it led
    to are there, whatever else came and went. If only the entry is left, it does not keep the
    reference any more: it was reset. -/
def KeepsDenotations (s s' : Store) : Prop :=
  ∀ id e e' node refs, s.entry? id = some e → e.progress = .done node refs →
    s'.entry? id = some e' → ∀ reference target, (reference, target) ∈ refs →
      (s'.isLive target = true → s'.resolve id reference = s.resolve id reference) ∧
        (s'.isLive target = false → ∀ ref ∈ e'.refs, ref.2 ≠ target)

/-! ## Names -/

/-- A change leaves its names to a document that it leaves there. -/
theorem Step.lookup_eq (step : Step options s s') {name : String} {id : EntryId}
    (found : s.lookup name = some id) (live : s'.isLive id = true) : s'.lookup name = some id := by
  obtain ⟨linked, linked', -, change⟩ := step
  have bound := linked.lookup_eq_some_iff.1 found
  have spared (spares : s.Spares s') : s'.lookup name = some id := by
    rw [linked'.lookup_eq_some_iff, spares.schemas, spares.refs]
    exact bound
  obtain ⟨_, _, _, spares⟩ | ⟨edit⟩ := change
  · exact spared spares
  cases edit with
  | fragment spares => exact spared spares
  | insert doc new fresh listed =>
    refine linked'.lookup_eq_some_iff.2 (bound.imp_right fun bound => ?_)
    exact find?_refs_insertDocument (fun named => (fresh named).2) bound
  | @name name' other free agree =>
    refine linked'.lookup_eq_some_iff.2 (bound.imp_left fun bound => ?_)
    show (s.schemas.bind name' other).find? name = some id
    rw [Bindings.find?_bind, if_neg, bound]
    rintro rfl
    rw [free] at bound
    cases bound
  | promote root =>
    obtain ⟨reset, promotes⟩ := s.promotes (s.membersOf root)
    rw [promotes.alike.lookup]
    exact found
  | remove other =>
    by_cases there : s.isLive other = true
    · rw [remove_of_isLive there] at live ⊢
      have alike := invalidate_alike (s.without (s.family other)) (s.family other)
      have out : id ∉ s.family other := by
        intro mem
        rw [alike.isLive, isLive_iff] at live
        obtain ⟨e, left⟩ := live
        exact (Linked.not_mem_of_entry?_without left).1 mem
      rw [alike.lookup]
      exact (linked.preserves_without other).lookup name id out found
    · rw [remove_of_not_isLive (Bool.eq_false_iff.2 there)]
      exact found

/-- As long as a document is there, it is found by its names. -/
theorem Steps.lookup_eq (steps : Steps options s s') {name : String} {id : EntryId}
    (found : s.lookup name = some id) (live : s'.isLive id = true) : s'.lookup name = some id := by
  induction steps using Relation.ReflTransGen.head_induction_on with
  | refl => exact found
  | @head s₀ s₁ step later ih =>
    refine ih (step.lookup_eq found ?_)
    -- places are given out once, so the document is there in the meantime
    obtain ⟨e, there, -⟩ := step.linked.lookup_document found
    obtain ⟨e', there'⟩ := isLive_iff.1 live
    obtain ⟨e₁, there₁, -⟩ := (Steps.succeeds later).entry id e'
      (Nat.lt_of_lt_of_le (index_lt_size there) step.succeeds.size) there'
    exact isLive_of_entry there₁

/-! ## The same later -/

namespace Succeeds

variable {e e' : Entry} {id : EntryId}

/-- An entry that is still there is what it was, apart from its compilation. -/
theorem bare_eq (succeeds : s.Succeeds s') (found : s.entry? id = some e)
    (found' : s'.entry? id = some e') : e'.bare = e.bare := by
  obtain ⟨was, foundWas, same⟩ := succeeds.entry id e' (index_lt_size found) found'
  rw [found] at foundWas
  cases foundWas
  exact same

/-- What was cut from a document is cut from it in the same way later. -/
theorem cuts (succeeds : s.Succeeds s') {pointer base : String} {part : Value} {d : Entry}
    (cut : s'.Cuts id pointer base part) (there : s.entry? id = some d) :
    s.Cuts id pointer base part := by
  obtain ⟨d', segments, found', parsed, follows⟩ := cut
  have same := Entry.eq_of_bare_eq (succeeds.bare_eq there found')
  rw [same] at follows
  exact ⟨d, segments, there, parsed, follows⟩

end Succeeds

/-- A reference that denotes the same entry at two times leads to the same place at both. -/
theorem Denotes.resolve_eq (linked : s.Linked) (linked' : s'.Linked) (succeeds : s.Succeeds s')
    (denotes : s.Denotes source reference target) (denotes' : s'.Denotes source reference target) :
    s'.resolve source reference = s.resolve source reference := by
  obtain ⟨t, found⟩ := denotes.isLive linked
  obtain ⟨t', found'⟩ := denotes'.isLive linked'
  have same := Entry.eq_of_bare_eq (succeeds.bare_eq found found')
  rcases denotes_iff.1 denotes with
    reaches | ⟨root, pointer, base, part, reaches, nonempty, cuts, bound⟩ <;>
  rcases denotes_iff.1 denotes' with
    reaches' | ⟨root', pointer', base', part', reaches', nonempty', cuts', bound'⟩
  · rw [resolve_of_reaches_document reaches, resolve_of_reaches_document reaches']
  · -- the entry is a document before and a fragment afterwards
    obtain ⟨d, foundD, doc⟩ := reaches.document linked
    obtain ⟨f, foundF, -, part', nonempty', -⟩ := linked'.fragment_cuts bound'
    rw [found] at foundD
    cases foundD
    rw [found'] at foundF
    cases foundF
    rw [same] at part'
    exact absurd (part'.symm.trans doc) nonempty'
  · obtain ⟨d, foundD, doc⟩ := reaches'.document linked'
    obtain ⟨f, foundF, -, part, nonempty, -⟩ := linked.fragment_cuts bound
    rw [found'] at foundD
    cases foundD
    rw [found] at foundF
    cases foundF
    rw [same] at doc
    exact absurd (part.symm.trans doc) nonempty
  · obtain ⟨f, foundF, ofRoot, atPointer, -⟩ := linked.fragment_cuts bound
    obtain ⟨f', foundF', ofRoot', atPointer', -⟩ := linked'.fragment_cuts bound'
    rw [found] at foundF
    cases foundF
    rw [found'] at foundF'
    cases foundF'
    rw [same] at ofRoot' atPointer'
    have root_ : root = root' := ofRoot.symm.trans ofRoot'
    have pointer_ : pointer = pointer' := atPointer.symm.trans atPointer'
    subst root_ pointer_
    obtain ⟨d, foundD, -⟩ := reaches.document linked
    obtain ⟨rfl, rfl⟩ := cuts.unique (succeeds.cuts cuts' foundD)
    rw [resolve_of_reaches_part reaches nonempty cuts,
      resolve_of_reaches_part reaches' nonempty' cuts']

/-! ## Between operations -/

/-- Later changes keep what belongs to the documents that are still there. -/
theorem Steps.preserves (steps : Steps options s s') (linked : s.Linked) (linked' : s'.Linked) :
    s.Preserves s' (s'.isLive · = true) where
  root id e live found := by
    obtain ⟨e', found'⟩ := isLive_iff.1 live
    obtain ⟨d, foundD, -⟩ := linked'.root_entry found'
    have root : e'.root = e.root := (congrArg Entry.root (steps.succeeds.bare_eq found found') :)
    exact isLive_of_entry (root ▸ foundD)
  entry id e live found := by
    obtain ⟨e', found'⟩ := isLive_iff.1 live
    exact ⟨_, _, found'.trans
      (congrArg some (Entry.eq_of_bare_eq (steps.succeeds.bare_eq found found')))⟩
  lookup name id live found := steps.lookup_eq found live
  fragment root pointer id live bound := by
    obtain ⟨t, found, ofRoot, atPointer, nonempty, -⟩ := linked.fragment_cuts bound
    obtain ⟨t', found'⟩ := isLive_iff.1 live
    rw [Entry.eq_of_bare_eq (steps.succeeds.bare_eq found found')] at found'
    have part : t.pointer ≠ "" := atPointer ▸ nonempty
    rw [← ofRoot, ← atPointer]
    exact (linked'.fragment id _ found' part).2.1

namespace Settled

theorem isCurrent (settled : s.Settled K) : s.IsCurrent := by
  intro id e node refs found done reference target mem
  refine settled.current id e found (reference, target) ?_
  rw [Entry.refs, done]
  exact mem

theorem keepsDenotations (settled : s.Settled K) (settled' : s'.Settled K)
    (steps : Steps options s s') : s.KeepsDenotations s' := by
  intro id e e' node refs found done found' reference target mem
  have linked := settled.linked
  have linked' := settled'.linked
  have before := settled.isCurrent id e node refs found done reference target mem
  refine ⟨fun live => ?_, fun gone ref mem at_ => ?_⟩
  · have after : s'.Denotes id reference target := before.transfer linked
      (steps.preserves linked linked') (isLive_of_entry found') live
    exact before.resolve_eq linked linked' steps.succeeds after
  · obtain ⟨t, there⟩ := (settled'.current id e' found' ref mem).isLive linked'
    rw [at_] at there
    rw [isLive_of_entry there] at gone
    cases gone

end Settled

end Store

/-- After any operations every reference that a compiled entry keeps denotes what it led to.
    Whatever follows changes what it denotes only by taking away the entry that made it or the one
    that it led to, and in the second case the entry that made it is reset. -/
theorem Registry.run_current (options : Options) (operations more : List Operation) :
    let r := (create options).run operations
    r.store.IsCurrent ∧ r.store.KeepsDenotations (r.run more).store := by
  intro r
  have good : r.Good fun _ _ => True := reached_good options operations
  obtain ⟨good', -⟩ := run_good good more fun _ _ => trivial
  obtain ⟨-, steps⟩ := run_steps good more fun _ _ => trivial
  exact ⟨good.settled.isCurrent, good.settled.keepsDenotations good'.settled steps⟩

end JsonSchema
