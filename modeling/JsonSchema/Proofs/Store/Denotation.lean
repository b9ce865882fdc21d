import JsonSchema.Proofs.Store.Linked

/-!
# What references denote

A reference that was followed is kept with the entry that it led to. Resolving it anew leads
to the same entry for as long as that entry is there.

* `Store.Reaches`: how a reference leads to a place in a document.
* `Store.resolve_eq_entry_iff`, `Store.resolve_eq_fragment_iff`: what `Store.resolve` gives,
  said with `Store.Reaches`.
* `Store.Denotes`: the entry that a reference leads to, fragments included.
* `Store.Denotes.transfer`: changes that keep the entries concerned keep what is denoted.
-/

namespace JsonSchema

namespace Store

variable {s s' : Store} {id : EntryId} {e : Entry}

/-! ## Resolving -/

/-- A reference made inside the entry `source` leads to a place in the document `target`. -/
def Reaches (s : Store) (source : EntryId) (reference : String) (target : EntryId)
    (pointer : String) : Prop :=
  ∃ e d start found, s.entry? source = some e ∧ s.entry? e.root = some d ∧
    s.targetOf? e.root d (documentPart reference) = some (target, start) ∧
    s.entry? target = some found ∧
    pointerOf? found start (documentPart reference) (fragmentPart reference) = some pointer

/-- The part of a document at a pointer, with its base. -/
def Cuts (s : Store) (target : EntryId) (pointer base : String) (part : Value) : Prop :=
  ∃ found segments, s.entry? target = some found ∧ Pointer.segments? pointer = some segments ∧
    found.document.follow? found.id segments = some (part, base)

/-- The steps of `Store.resolve`, as far as they go. -/
theorem resolve_steps (s : Store) (source : EntryId) (reference : String) :
    (s.resolve source reference = .missing) ∨
    ∃ target pointer, s.Reaches source reference target pointer ∧
      ((pointer = "" ∧ s.resolve source reference = .entry target) ∨
        (pointer ≠ "" ∧ ∃ base part, s.Cuts target pointer base part ∧
          s.resolve source reference = .fragment target base pointer part)) := by
  cases hs : s.entry? source with
  | none => exact .inl (by simp [resolve, hs])
  | some e =>
    cases hd : s.entry? e.root with
    | none => exact .inl (by simp [resolve, hs, hd])
    | some d =>
      cases ht : s.targetOf? e.root d (documentPart reference) with
      | none => exact .inl (by simp [resolve, hs, hd, ht])
      | some at_ =>
        obtain ⟨target, start⟩ := at_
        cases hf : s.entry? target with
        | none => exact .inl (by simp [resolve, hs, hd, ht, hf])
        | some found =>
          cases hp : pointerOf? found start (documentPart reference) (fragmentPart reference) with
          | none => exact .inl (by simp [resolve, hs, hd, ht, hf, hp])
          | some pointer =>
            have reaches : s.Reaches source reference target pointer :=
              ⟨e, d, start, found, hs, hd, ht, hf, hp⟩
            by_cases empty : pointer = ""
            · exact .inr ⟨target, pointer, reaches,
                .inl ⟨empty, by simp [resolve, hs, hd, ht, hf, hp, empty]⟩⟩
            · cases hg : Pointer.segments? pointer with
              | none => exact .inl (by simp [resolve, hs, hd, ht, hf, hp, empty, hg])
              | some segments =>
                cases hw : found.document.follow? found.id segments with
                | none => exact .inl (by simp [resolve, hs, hd, ht, hf, hp, empty, hg, hw])
                | some cut =>
                  obtain ⟨part, base⟩ := cut
                  exact .inr ⟨target, pointer, reaches, .inr ⟨empty, base, part,
                    ⟨found, segments, hf, hg, hw⟩,
                    by simp [resolve, hs, hd, ht, hf, hp, empty, hg, hw]⟩⟩

theorem Reaches.unique {source target target' : EntryId} {reference pointer pointer' : String}
    (h : s.Reaches source reference target pointer)
    (h' : s.Reaches source reference target' pointer') : target = target' ∧ pointer = pointer' := by
  obtain ⟨e, d, start, found, hs, hd, ht, hf, hp⟩ := h
  obtain ⟨e', d', start', found', hs', hd', ht', hf', hp'⟩ := h'
  rw [hs] at hs'
  cases hs'
  rw [hd] at hd'
  cases hd'
  rw [ht] at ht'
  cases ht'
  rw [hf] at hf'
  cases hf'
  rw [hp] at hp'
  cases hp'
  exact ⟨rfl, rfl⟩

theorem Cuts.unique {target : EntryId} {pointer base base' : String} {part part' : Value}
    (h : s.Cuts target pointer base part) (h' : s.Cuts target pointer base' part') :
    base = base' ∧ part = part' := by
  obtain ⟨found, segments, hf, hg, hw⟩ := h
  obtain ⟨found', segments', hf', hg', hw'⟩ := h'
  rw [hf] at hf'
  cases hf'
  rw [hg] at hg'
  cases hg'
  rw [hw] at hw'
  cases hw'
  exact ⟨rfl, rfl⟩

theorem resolve_of_reaches_document {source target : EntryId} {reference : String}
    (h : s.Reaches source reference target "") : s.resolve source reference = .entry target := by
  obtain ⟨e, d, start, found, hs, hd, ht, hf, hp⟩ := h
  simp [resolve, hs, hd, ht, hf, hp]

theorem resolve_of_reaches_part {source target : EntryId} {reference pointer base : String}
    {part : Value} (h : s.Reaches source reference target pointer) (nonempty : pointer ≠ "")
    (cuts : s.Cuts target pointer base part) :
    s.resolve source reference = .fragment target base pointer part := by
  obtain ⟨e, d, start, found, hs, hd, ht, hf, hp⟩ := h
  obtain ⟨found', segments, hf', hg, hw⟩ := cuts
  rw [hf] at hf'
  cases hf'
  simp [resolve, hs, hd, ht, hf, hp, nonempty, hg, hw]

theorem resolve_eq_entry_iff {source target : EntryId} {reference : String} :
    s.resolve source reference = .entry target ↔ s.Reaches source reference target "" := by
  refine ⟨fun h => ?_, resolve_of_reaches_document⟩
  rcases resolve_steps s source reference with missing |
    ⟨target', pointer, reaches, ⟨rfl, found⟩ | ⟨-, base, part, -, found⟩⟩
  · rw [missing] at h
    cases h
  · rw [found] at h
    cases h
    exact reaches
  · rw [found] at h
    cases h

theorem resolve_eq_fragment_iff {source target : EntryId} {reference pointer base : String}
    {part : Value} :
    s.resolve source reference = .fragment target base pointer part ↔
      s.Reaches source reference target pointer ∧ pointer ≠ "" ∧
        s.Cuts target pointer base part := by
  refine ⟨fun h => ?_, fun h => resolve_of_reaches_part h.1 h.2.1 h.2.2⟩
  rcases resolve_steps s source reference with missing |
    ⟨target', pointer', reaches, ⟨-, found⟩ | ⟨nonempty, base', part', cuts, found⟩⟩
  · rw [missing] at h
    cases h
  · rw [found] at h
    cases h
  · rw [found] at h
    cases h
    exact ⟨reaches, nonempty, cuts⟩

/-- A reference leads into a document, and not into a fragment. -/
theorem Reaches.document (linked : s.Linked) {source target : EntryId}
    {reference pointer : String} (h : s.Reaches source reference target pointer) :
    ∃ d, s.entry? target = some d ∧ d.pointer = "" := by
  obtain ⟨e, d, start, found, hs, hd, ht, hf, -⟩ := h
  obtain ⟨d', hd', doc, root⟩ := linked.root_entry hs
  rw [hd] at hd'
  cases hd'
  rw [targetOf?] at ht
  split at ht
  · cases ht
    exact ⟨d, hd, doc⟩
  · split at ht
    · cases ht
      exact ⟨d, hd, doc⟩
    · obtain ⟨named, hl, eq⟩ := Option.map_eq_some_iff.1 ht
      obtain ⟨n, hn, docN⟩ := linked.lookup_document hl
      rw [hn, Option.map_some, Option.getD_some, linked.document_root hn docN] at eq
      cases eq
      exact ⟨n, hn, docN⟩

/-! ## Denoting -/

/-- The fragment that was made of the part of a document holds that part, with its base. -/
theorem Linked.fragment_cuts (linked : s.Linked) {root target : EntryId} {pointer : String}
    (bound : s.fragments.find? (root, pointer) = some target) :
    ∃ t, s.entry? target = some t ∧ t.root = root ∧ t.pointer = pointer ∧ pointer ≠ "" ∧
      s.Cuts root pointer t.id t.document := by
  obtain ⟨t, found, root_, pointer_, nonempty⟩ := linked.fragments _ (Bindings.mem_of_find? bound)
  obtain ⟨-, -, d, foundD, -, segments, parsed, cut⟩ := linked.fragment target t found nonempty
  have root_ : t.root = root := root_
  have pointer_ : t.pointer = pointer := pointer_
  exact ⟨t, found, root_, pointer_, pointer_ ▸ nonempty, d, segments, root_ ▸ foundD,
    pointer_ ▸ parsed, cut⟩

/-- The reference made inside the entry `source` denotes the entry `target`: a document, or
    the fragment that was made of the part of one. -/
def Denotes (s : Store) (source : EntryId) (reference : String) (target : EntryId) : Prop :=
  match s.resolve source reference with
  | .entry id => id = target
  | .fragment root _ pointer _ => s.fragments.find? (root, pointer) = some target
  | .missing => False

theorem denotes_iff {source target : EntryId} {reference : String} :
    s.Denotes source reference target ↔
      s.Reaches source reference target "" ∨
      ∃ root pointer base part, s.Reaches source reference root pointer ∧ pointer ≠ "" ∧
        s.Cuts root pointer base part ∧ s.fragments.find? (root, pointer) = some target := by
  rw [Denotes]
  constructor
  · intro h
    split at h
    · next root found =>
      subst h
      exact .inl (resolve_eq_entry_iff.1 found)
    · next root base pointer part found =>
      obtain ⟨reaches, nonempty, cuts⟩ := resolve_eq_fragment_iff.1 found
      exact .inr ⟨root, pointer, base, part, reaches, nonempty, cuts, h⟩
    · cases h
  · rintro (reaches | ⟨root, pointer, base, part, reaches, nonempty, cuts, bound⟩)
    · rw [resolve_of_reaches_document reaches]
    · rw [resolve_of_reaches_part reaches nonempty cuts]
      exact bound

/-- What a reference denotes is there. -/
theorem Denotes.isLive (linked : s.Linked) {source target : EntryId} {reference : String}
    (h : s.Denotes source reference target) : ∃ t, s.entry? target = some t := by
  rcases denotes_iff.1 h with reaches | ⟨root, pointer, base, part, -, -, -, bound⟩
  · obtain ⟨d, found, -⟩ := reaches.document linked
    exact ⟨d, found⟩
  · obtain ⟨t, found, -⟩ := linked.fragments _ (Bindings.mem_of_find? bound)
    exact ⟨t, found⟩

/-! ## Changes of the store -/

/-- What has to stay so that some entries keep what their references denote. -/
structure Preserves (s s' : Store) (keep : EntryId → Prop) : Prop where
  /-- The documents of entries that are kept are kept. -/
  root : ∀ id e, keep id → s.entry? id = some e → keep e.root
  entry : ∀ id e, keep id → s.entry? id = some e →
    ∃ m p, s'.entry? id = some { e with isMeta := m, progress := p }
  lookup : ∀ name id, keep id → s.lookup name = some id → s'.lookup name = some id
  fragment : ∀ root pointer id, keep id → s.fragments.find? (root, pointer) = some id →
    s'.fragments.find? (root, pointer) = some id

theorem Reaches.transfer {keep : EntryId → Prop} (linked : s.Linked) (kept : s.Preserves s' keep)
    {source target : EntryId} {reference pointer : String}
    (h : s.Reaches source reference target pointer) (hs : keep source) (ht : keep target) :
    s'.Reaches source reference target pointer := by
  obtain ⟨e, d, start, found, foundE, foundD, at_, foundT, hp⟩ := h
  obtain ⟨m, p, foundE'⟩ := kept.entry _ _ hs foundE
  obtain ⟨m', p', foundD'⟩ := kept.entry _ _ (kept.root _ _ hs foundE) foundD
  obtain ⟨m'', p'', foundT'⟩ := kept.entry _ _ ht foundT
  refine ⟨_, _, start, _, foundE', foundD', ?_, foundT', hp⟩
  simp only [targetOf?] at at_ ⊢
  split at at_
  · next own => rw [if_pos own, at_]
  · next other =>
    rw [if_neg other]
    split at at_
    · exact at_
    · obtain ⟨named, hl, eq⟩ := Option.map_eq_some_iff.1 at_
      obtain ⟨n, foundN, docN⟩ := linked.lookup_document hl
      rw [foundN, Option.map_some, Option.getD_some, linked.document_root foundN docN] at eq
      cases eq
      rw [kept.lookup _ _ ht hl, Option.map_some, foundT', Option.map_some, Option.getD_some]
      rw [foundT] at foundN
      cases foundN
      rw [linked.document_root foundT docN]

/-- Changes that keep an entry and what a reference in it denotes keep this. -/
theorem Denotes.transfer {keep : EntryId → Prop} (linked : s.Linked)
    (kept : s.Preserves s' keep) {source target : EntryId} {reference : String}
    (h : s.Denotes source reference target) (hs : keep source) (ht : keep target) :
    s'.Denotes source reference target := by
  rcases denotes_iff.1 h with
    reaches | ⟨root, pointer, base, part, reaches, nonempty, ⟨found, segments, hf, hg, hw⟩, bound⟩
  · exact denotes_iff.2 (.inl (reaches.transfer linked kept hs ht))
  · obtain ⟨t, foundT, root_, -, -⟩ := linked.fragments _ (Bindings.mem_of_find? bound)
    have hr : keep root := by
      have := kept.root _ _ ht foundT
      rwa [root_] at this
    obtain ⟨m, p, found'⟩ := kept.entry _ _ hr hf
    exact denotes_iff.2 (.inr ⟨root, pointer, base, part, reaches.transfer linked kept hs hr,
      nonempty, ⟨_, segments, found', hg, hw⟩, kept.fragment _ _ _ ht bound⟩)

/-- Additions to a store keep everything that references denote. -/
theorem preserves_of_extends (entry : ∀ id e, s.entry? id = some e → s'.entry? id = some e)
    (lookup : ∀ name id, s.lookup name = some id → s'.lookup name = some id)
    (fragment : ∀ key id, s.fragments.find? key = some id → s'.fragments.find? key = some id) :
    s.Preserves s' fun _ => True where
  root _ _ _ _ := trivial
  entry id e _ found := ⟨e.isMeta, e.progress, entry id e found⟩
  lookup name id _ found := lookup name id found
  fragment root pointer id _ found := fragment (root, pointer) id found

/-- References denote the same in alike stores. -/
theorem Alike.preserves (h : s.Alike s') : s.Preserves s' fun _ => True := by
  refine ⟨fun _ _ _ _ => trivial, fun _ _ _ found => h.entry? found, ?_, ?_⟩
  · intro name id _ hl
    rw [h.lookup]
    exact hl
  · intro root pointer id _ bound
    rw [h.fragments]
    exact bound

theorem Preserves.alike {keep : EntryId → Prop} {s'' : Store} (kept : s.Preserves s' keep)
    (h : s'.Alike s'') : s.Preserves s'' keep := by
  refine ⟨kept.root, fun id e hid found => ?_, fun name id hid hl => ?_,
    fun root pointer id hid bound => ?_⟩
  · obtain ⟨m, p, found'⟩ := kept.entry id e hid found
    obtain ⟨m', p', found''⟩ := h.entry? found'
    exact ⟨m', p', found''⟩
  · rw [h.lookup]
    exact kept.lookup name id hid hl
  · rw [h.fragments]
    exact kept.fragment root pointer id hid bound

/-- A removal keeps what it does not remove. -/
theorem Linked.preserves_without (linked : s.Linked) (id : EntryId) :
    s.Preserves (s.without (s.family id)) (· ∉ s.family id) := by
  refine ⟨fun j e hj found h => hj (linked.mem_family_of_root found h), ?_, ?_, ?_⟩
  · intro j e hj found
    exact ⟨e.isMeta, e.progress, by rw [entry?_without_family hj, found]⟩
  · intro name j hj hl
    have bound := linked.lookup_eq_some_iff.1 hl
    refine (linked.without id).lookup_eq_some_iff.2 (bound.imp (fun h => ?_) fun h => ?_)
    · simp only [Store.without]
      rw [Bindings.find?_filter linked.schemasKeyed, Option.filter_eq_some_iff]
      exact ⟨h, by simpa using hj⟩
    · simp only [Store.without]
      rw [Bindings.find?_filter linked.refsKeyed, Option.filter_eq_some_iff]
      exact ⟨h, by simpa using hj⟩
  · intro root pointer j hj bound
    obtain ⟨f, found, eq, -, -⟩ := linked.fragments _ (Bindings.mem_of_find? bound)
    have root_ : root ∉ s.family id := by
      intro h
      exact hj (linked.mem_family_of_root found (by rw [eq]; exact h))
    simp only [Store.without]
    rw [Bindings.find?_filter linked.fragmentsKeyed, Option.filter_eq_some_iff]
    exact ⟨bound, by simp [root_, hj]⟩

end Store

end JsonSchema
