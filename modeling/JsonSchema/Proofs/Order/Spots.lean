import JsonSchema.Proofs.Registry.Sparing

/-!
# Spots

Stores that hold the same documents may have cut different fragments from them, and in another
order. A spot says which part of which document an entry holds, so that entries of such stores
can be compared.

* `Store.spot?`: the spot of an entry.
* `Store.Corresponds`: entries at the same places of documents that are matched.
* `Store.Matches`: what is matched is the same, so corresponding entries hold the same, and their
  references lead to corresponding ones if they lead anywhere (`Store.Matches.denotes`).
* `Store.Shares`: stores with the same documents under the same names.
* `Store.StartedAt`: the compilation of the entry at a spot has begun.
* `Store.Evolves`: how a compilation changes a store.
-/

namespace JsonSchema

/-- A document and a pointer to a part of it; the empty pointer for the document itself. -/
abbrev Spot := EntryId × String

/-- The spot of an entry. -/
def Entry.spot (e : Entry) : Spot := (e.root, e.pointer)

/-- The spot of what a reference denotes. -/
def Resolved.spot? : Resolved → Option Spot
  | .entry id => some (id, "")
  | .fragment root _ pointer _ => some (root, pointer)
  | .missing => none

/-- Two entries hold the same document, under the same identifier. -/
structure Entry.HoldsSame (e e' : Entry) : Prop where
  id : e.id = e'.id
  document : e.document = e'.document
  localRefs : e.localRefs = e'.localRefs

theorem Entry.HoldsSame.of_reset {e e' : Entry} (same : e.reset = e'.reset) : e.HoldsSame e' :=
  ⟨(congrArg Entry.id same :), (congrArg Entry.document same :), (congrArg Entry.localRefs same :)⟩

namespace Store

variable {s s' s'' : Store} {id id' : EntryId} {e e' : Entry}

/-- The spot of the entry of a name. -/
def spot? (s : Store) (id : EntryId) : Option Spot := (s.entry? id).map Entry.spot

/-- Two entries are at the same place of documents that are matched. -/
def Corresponds (M : EntryId → EntryId → Prop) (s s' : Store) (id id' : EntryId) : Prop :=
  ∃ spot spot', s.spot? id = some spot ∧ s'.spot? id' = some spot' ∧ M spot.1 spot'.1 ∧
    spot'.2 = spot.2

theorem spot?_eq (found : s.entry? id = some e) : s.spot? id = some e.spot := by
  rw [spot?, found]
  rfl

/-- What a reference denotes is at the spot where it leads. -/
theorem Linked.spot?_denotes (linked : s.Linked) {reference : String} {target : EntryId}
    (denotes : s.Denotes id reference target) :
    ∃ spot, (s.resolve id reference).spot? = some spot ∧ s.spot? target = some spot := by
  rw [Denotes] at denotes
  split at denotes
  · next document leads =>
    subst denotes
    obtain ⟨t, found, doc⟩ := (resolve_eq_entry_iff.1 leads).document linked
    refine ⟨_, by rw [leads]; rfl, ?_⟩
    rw [spot?_eq found, Entry.spot, linked.document_root found doc, doc]
  · next leads =>
    obtain ⟨t, found, root, pointer, -⟩ := linked.fragment_cuts denotes
    refine ⟨_, by rw [leads]; rfl, ?_⟩
    rw [spot?_eq found, Entry.spot, root, pointer]
  · exact denotes.elim

theorem Denotes.ne_missing {reference : String} {target : EntryId}
    (denotes : s.Denotes id reference target) : s.resolve id reference ≠ .missing := by
  intro missing
  rw [Denotes, missing] at denotes
  exact denotes

/-! ## Stores that match -/

/-- Documents that are matched are the same, and so is what a name stands for in both stores. -/
structure Matches (M : EntryId → EntryId → Prop) (s s' : Store) : Prop where
  documents : ∀ r r' d, M r r' → s.entry? r = some d → d.pointer = "" →
    ∃ d', s'.entry? r' = some d' ∧ d'.pointer = "" ∧ d'.HoldsSame d
  names : ∀ name r r', s.lookup name = some r → s'.lookup name = some r' → M r r'

namespace Matches

variable {M : EntryId → EntryId → Prop} (h : s.Matches M s') (linked : s.Linked) (linked' : s'.Linked)

include h linked

/-- The documents that two corresponding entries belong to are the same. -/
theorem roots (corresponds : Corresponds M s s' id id') :
    ∃ e e' d d', s.entry? id = some e ∧ s'.entry? id' = some e' ∧ M e.root e'.root ∧
      e'.pointer = e.pointer ∧ s.entry? e.root = some d ∧ s'.entry? e'.root = some d' ∧
      d.pointer = "" ∧ d'.HoldsSame d := by
  obtain ⟨spot, spot', at_, at_', root, pointer⟩ := corresponds
  obtain ⟨e, found, rfl⟩ := Option.map_eq_some_iff.1 at_
  obtain ⟨e', found', rfl⟩ := Option.map_eq_some_iff.1 at_'
  obtain ⟨d, foundD, doc, -⟩ := linked.root_entry found
  obtain ⟨d', foundD', -, same⟩ := h.documents _ _ d root foundD doc
  exact ⟨e, e', d, d', found, found', root, pointer, foundD, foundD', doc, same⟩

include linked' in
/-- Corresponding entries hold the same. -/
theorem content (corresponds : Corresponds M s s' id id') (found : s.entry? id = some e)
    (found' : s'.entry? id' = some e') :
    e.id = e'.id ∧ e.document = e'.document ∧ e.isFragment = e'.isFragment := by
  obtain ⟨f, f', d, d', foundF, foundF', root, pointer, foundD, foundD', doc, same⟩ :=
    h.roots linked corresponds
  cases found.symm.trans foundF
  cases found'.symm.trans foundF'
  have part : e.isFragment = e'.isFragment := by rw [Entry.isFragment, Entry.isFragment, pointer]
  by_cases whole : e.pointer = ""
  · have self := linked.document_root found whole
    have self' := linked'.document_root found' (pointer ▸ whole)
    rw [self] at foundD
    rw [self'] at foundD'
    cases found.symm.trans foundD
    cases found'.symm.trans foundD'
    exact ⟨same.id.symm, same.document.symm, part⟩
  · obtain ⟨-, -, f, hf, -, segments, parsed, cut⟩ := linked.fragment id e found whole
    obtain ⟨-, -, f', hf', -, segments', parsed', cut'⟩ :=
      linked'.fragment id' e' found' (pointer ▸ whole)
    cases foundD.symm.trans hf
    cases foundD'.symm.trans hf'
    rw [pointer] at parsed'
    cases parsed.symm.trans parsed'
    rw [same.document, same.id] at cut'
    obtain ⟨same, base⟩ := Prod.mk.inj (Option.some.inj (cut.symm.trans cut'))
    exact ⟨base, same, part⟩

/-- Corresponding entries are both asynchronous or neither. -/
theorem isAsync_eq (corresponds : Corresponds M s s' id id') : s.isAsync id = s'.isAsync id' := by
  obtain ⟨e, e', d, d', found, found', root, -, foundD, foundD', -, same⟩ :=
    h.roots linked corresponds
  rw [isAsync, isAsync, rootEntry?, rootEntry?, found, found', Option.bind_some, Option.bind_some,
    foundD, foundD', Option.map_some, Option.map_some, Entry.isAsync, Entry.isAsync, same.document]

omit linked in
theorem cuts {target target' : EntryId} {pointer base : String} {part : Value}
    (matched : M target target') (found : s.entry? target = some e) (doc : e.pointer = "")
    (cuts : s.Cuts target pointer base part) : s'.Cuts target' pointer base part := by
  obtain ⟨f, segments, hf, parsed, cut⟩ := cuts
  cases found.symm.trans hf
  obtain ⟨e', found', -, same⟩ := h.documents _ _ e matched found doc
  exact ⟨e', segments, found', parsed, by rw [same.document, same.id]; exact cut⟩

include linked'

/-- Where a reference of an entry leads, that of a corresponding one leads too, unless the second
    store lacks the document. -/
theorem reaches (corresponds : Corresponds M s s' id id') {reference pointer : String}
    {target : EntryId} (reaches : s.Reaches id reference target pointer) :
    (∃ target', M target target' ∧ s'.Reaches id' reference target' pointer) ∨
      (∃ named, s.lookup (documentPart reference) = some named) ∧
        s'.lookup (documentPart reference) = none ∧ s'.resolve id' reference = .missing := by
  obtain ⟨t, foundT, docT⟩ := reaches.document linked
  obtain ⟨e, e', d, d', found, found', root, -, foundD, foundD', doc, same⟩ :=
    h.roots linked corresponds
  obtain ⟨_, _, start, _, hs, hd, ht, hf, hp⟩ := reaches
  cases found.symm.trans hs
  cases foundD.symm.trans hd
  cases foundT.symm.trans hf
  -- the second document has the same place at the same pointer
  have arrive {target' : EntryId} (matched : M target target')
      (at_ : s'.targetOf? e'.root d' (documentPart reference) = some (target', start)) :
      ∃ target', M target target' ∧ s'.Reaches id' reference target' pointer := by
    obtain ⟨t', foundT', -, sameT⟩ := h.documents _ _ t matched foundT docT
    refine ⟨target', matched, e', d', start, t', found', foundD', at_, foundT', ?_⟩
    rw [pointerOf?, sameT.localRefs]
    exact hp
  rw [targetOf?] at ht
  split at ht
  · next own =>
    cases ht
    exact .inl (arrive root (by rw [targetOf?, same.id, if_pos own]))
  · next other =>
    split at ht
    · next declared =>
      cases ht
      exact .inl (arrive root (by rw [targetOf?, same.id, if_neg other, same.localRefs, declared]))
    · next undeclared =>
      obtain ⟨named, hl, eq⟩ := Option.map_eq_some_iff.1 ht
      obtain ⟨n, foundN, docN⟩ := linked.lookup_document hl
      rw [foundN, Option.map_some, Option.getD_some, linked.document_root foundN docN] at eq
      cases eq
      have at_ : s'.targetOf? e'.root d' (documentPart reference) =
          (s'.lookup (documentPart reference)).map fun found =>
            (((s'.entry? found).map (·.root)).getD found, "") := by
        rw [targetOf?, same.id, if_neg other, same.localRefs, undeclared]
      cases hl' : s'.lookup (documentPart reference) with
      | none =>
        refine .inr ⟨⟨_, hl⟩, rfl, ?_⟩
        rw [hl', Option.map_none] at at_
        simp [resolve, found', foundD', at_]
      | some named' =>
        obtain ⟨n', foundN', docN'⟩ := linked'.lookup_document hl'
        rw [hl', Option.map_some, foundN', Option.map_some, Option.getD_some,
          linked'.document_root foundN' docN'] at at_
        exact .inl (arrive (h.names _ _ _ hl hl') at_)

/-- The same of the spots to which references lead. -/
theorem resolve (corresponds : Corresponds M s s' id id') {reference : String} {spot : Spot}
    (leads : (s.resolve id reference).spot? = some spot) :
    (∃ spot', (s'.resolve id' reference).spot? = some spot' ∧ M spot.1 spot'.1 ∧ spot'.2 = spot.2) ∨
      (∃ named, s.lookup (documentPart reference) = some named) ∧
        s'.lookup (documentPart reference) = none ∧ s'.resolve id' reference = .missing := by
  cases found : s.resolve id reference with
  | missing =>
    rw [found] at leads
    cases leads
  | entry target =>
    rw [found] at leads
    cases leads
    refine (h.reaches linked linked' corresponds (resolve_eq_entry_iff.1 found)).imp_left ?_
    rintro ⟨target', matched, reaches⟩
    exact ⟨(target', ""), by rw [resolve_eq_entry_iff.2 reaches]; rfl, matched, rfl⟩
  | fragment root base pointer part =>
    rw [found] at leads
    cases leads
    obtain ⟨reaches, nonempty, cuts⟩ := resolve_eq_fragment_iff.1 found
    obtain ⟨d, foundD, doc⟩ := reaches.document linked
    refine (h.reaches linked linked' corresponds reaches).imp_left ?_
    rintro ⟨root', matched, reaches'⟩
    have leads' := resolve_eq_fragment_iff.2 ⟨reaches', nonempty, h.cuts matched foundD doc cuts⟩
    exact ⟨(root', pointer), by rw [leads']; rfl, matched, rfl⟩

/-- What references of corresponding entries denote corresponds. -/
theorem denotes (corresponds : Corresponds M s s' id id') {reference : String} {target target' : EntryId}
    (denotes : s.Denotes id reference target) (denotes' : s'.Denotes id' reference target') :
    Corresponds M s s' target target' := by
  obtain ⟨spot, leads, at_⟩ := linked.spot?_denotes denotes
  obtain ⟨spot', leads', at'⟩ := linked'.spot?_denotes denotes'
  rcases h.resolve linked linked' corresponds leads with ⟨_, found, matched⟩ | ⟨-, -, missing⟩
  · cases leads'.symm.trans found
    exact ⟨spot, spot', at_, at', matched⟩
  · exact absurd missing denotes'.ne_missing

/-- A reference that leads nowhere in the second store names a document that is lacking there. -/
theorem lacks (corresponds : Corresponds M s s' id id') {reference : String} {target : EntryId}
    (denotes : s.Denotes id reference target) (missing : s'.resolve id' reference = .missing) :
    (∃ named, s.lookup (documentPart reference) = some named) ∧
      s'.lookup (documentPart reference) = none := by
  obtain ⟨spot, leads, -⟩ := linked.spot?_denotes denotes
  rcases h.resolve linked linked' corresponds leads with ⟨_, found, -⟩ | ⟨named, free, -⟩
  · rw [missing] at found
    cases found
  · exact ⟨named, free⟩

end Matches

/-- Entries at the same spot correspond. -/
theorem Corresponds.of_spot {spot : Spot} (at_ : s.spot? id = some spot)
    (at' : s'.spot? id' = some spot) : Corresponds Eq s s' id id' := ⟨spot, spot, at_, at', rfl, rfl⟩

theorem Corresponds.spot (h : Corresponds Eq s s' id id') :
    ∃ spot, s.spot? id = some spot ∧ s'.spot? id' = some spot := by
  obtain ⟨spot, spot', at_, at', same⟩ := h
  exact ⟨spot, at_, by rw [at', Prod.ext same.1 same.2.symm]⟩

theorem Corresponds.symm (h : Corresponds Eq s s' id id') : Corresponds Eq s' s id' id := by
  obtain ⟨spot, at_, at'⟩ := h.spot
  exact .of_spot at' at_

/-! ## Stores that share their documents -/

/-- Two stores hold the same documents under the same names. -/
structure Shares (s s' : Store) : Prop where
  schemas : s'.schemas = s.schemas
  refs : s'.refs = s.refs
  documents : ∀ id, s'.document? id = s.document? id

namespace Shares

theorem symm (h : s.Shares s') : s'.Shares s :=
  ⟨h.schemas.symm, h.refs.symm, fun id => (h.documents id).symm⟩

theorem trans (h : s.Shares s') (h' : s'.Shares s'') : s.Shares s'' :=
  ⟨h'.schemas.trans h.schemas, h'.refs.trans h.refs,
    fun id => (h'.documents id).trans (h.documents id)⟩

/-- A document of one store is in the other one too. -/
theorem document (h : s.Shares s') (found : s.entry? id = some e) (doc : e.pointer = "") :
    ∃ e', s'.entry? id = some e' ∧ e'.reset = e.reset := by
  have whole : e.isFragment = false := by rw [Entry.isFragment, doc]; rfl
  have same := h.documents id
  rw [document?, document?, found, Option.filter_some, whole] at same
  obtain ⟨e', found', reset⟩ := Option.map_eq_some_iff.1 same
  exact ⟨e', (Option.filter_eq_some_iff.1 found').1, reset⟩

variable (h : s.Shares s') (linked : s.Linked) (linked' : s'.Linked)

include h linked linked'

theorem lookup_eq : s'.lookup = s.lookup := by
  funext name
  refine Option.ext fun id => ?_
  rw [linked'.lookup_eq_some_iff, linked.lookup_eq_some_iff, h.schemas, h.refs]

/-- Every document matches itself. -/
theorem matches_self : s.Matches Eq s' where
  documents := by
    rintro r _ d rfl found doc
    obtain ⟨d', found', reset⟩ := h.document found doc
    exact ⟨d', found', ((congrArg Entry.pointer reset :) : d'.pointer = d.pointer).trans doc,
      .of_reset reset⟩
  names name r r' found found' := by
    rw [h.lookup_eq linked linked', found] at found'
    exact Option.some.inj found'

/-- A reference made at one spot leads to one spot in both stores. -/
theorem resolve_spot (corresponds : Corresponds Eq s s' id id') (reference : String) :
    (s'.resolve id' reference).spot? = (s.resolve id reference).spot? := by
  have lacking {s s' : Store} (h : s.Shares s') (linked : s.Linked) (linked' : s'.Linked)
      {reference : String} : ¬ ((∃ named, s.lookup (documentPart reference) = some named) ∧
        s'.lookup (documentPart reference) = none) := by
    rintro ⟨⟨named, found⟩, free⟩
    rw [h.lookup_eq linked linked', found] at free
    cases free
  have leads {s s' : Store} {id id' : EntryId} (h : s.Shares s') (linked : s.Linked)
      (linked' : s'.Linked) (corresponds : Corresponds Eq s s' id id') {spot : Spot}
      (found : (s.resolve id reference).spot? = some spot) :
      (s'.resolve id' reference).spot? = some spot := by
    rcases (h.matches_self linked linked').resolve linked linked' corresponds found with
      ⟨spot', found', same⟩ | ⟨named, free, -⟩
    · rwa [Prod.ext same.1 same.2.symm]
    · exact absurd ⟨named, free⟩ (lacking h linked linked')
  refine Option.ext fun spot => ⟨fun found => ?_, leads h linked linked' corresponds⟩
  exact leads h.symm linked' linked corresponds.symm found

end Shares

/-- There is one entry at a spot. -/
theorem Linked.spot_unique (linked : s.Linked) {spot : Spot} (h : s.spot? id = some spot)
    (h' : s.spot? id' = some spot) : id = id' := by
  obtain ⟨e, found, rfl⟩ := Option.map_eq_some_iff.1 h
  obtain ⟨e', found', same⟩ := Option.map_eq_some_iff.1 h'
  obtain ⟨root, pointer⟩ := Prod.mk.inj same
  by_cases doc : e.pointer = ""
  · rw [← linked.document_root found doc, ← linked.document_root found' (pointer ▸ doc)]
    exact root.symm
  · obtain ⟨-, bound, -⟩ := linked.fragment id e found doc
    obtain ⟨-, bound', -⟩ := linked.fragment id' e' found' (fun h => doc (pointer ▸ h))
    rw [root, pointer, bound] at bound'
    exact Option.some.inj bound'

theorem Spares.shares (h : s.Spares s') : s.Shares s' := ⟨h.schemas, h.refs, h.documents⟩

/-! ## Progress at spots -/

/-- The compilation of the entry at a spot has begun. -/
def StartedAt (s : Store) (spot : Spot) : Prop := ∃ id, s.spot? id = some spot ∧ s.IsStarted id

theorem StartedAt.of_entry (found : s.entry? id = some e) (started : e.progress.isStarted = true) :
    s.StartedAt e.spot := ⟨id, spot?_eq found, e, found, started⟩

theorem startedAt_iff {spot : Spot} :
    s.StartedAt spot ↔ ∃ id e, s.entry? id = some e ∧ e.spot = spot ∧ e.progress.isStarted = true := by
  constructor
  · rintro ⟨id, at_, e, found, started⟩
    rw [spot?_eq found] at at_
    exact ⟨id, e, found, Option.some.inj at_, started⟩
  · rintro ⟨id, e, found, rfl, started⟩
    exact .of_entry found started

/-- After a change that begins or ends the compilation of an entry, what has begun is that and
    what had begun before. -/
theorem startedAt_modify {change : Entry → Entry} (spot : ∀ e, (change e).spot = e.spot)
    (starts : ∀ e, (change e).progress.isStarted = true) {at_ : Spot} :
    (s.modify id change).StartedAt at_ ↔ s.StartedAt at_ ∨ s.spot? id = some at_ := by
  rw [startedAt_iff, startedAt_iff]
  constructor
  · rintro ⟨j, e', found, rfl, started⟩
    by_cases h : j = id
    · subst h
      rw [entry?_modify_self] at found
      obtain ⟨e, before, rfl⟩ := Option.map_eq_some_iff.1 found
      exact .inr ((spot?_eq before).trans (congrArg some (spot e).symm))
    · exact .inl ⟨j, e', (entry?_modify_of_ne h change).symm.trans found, rfl, started⟩
  · have self {e : Entry} (found : s.entry? id = some e) :
        ∃ j e', Store.entry? (s.modify id change) j = some e' ∧ e'.spot = e.spot ∧
          e'.progress.isStarted = true :=
      ⟨id, change e, by rw [entry?_modify_self, found]; rfl, spot e, starts e⟩
    rintro (⟨j, e, found, rfl, started⟩ | own)
    · by_cases h : j = id
      · subst h
        exact self found
      · exact ⟨j, e, (entry?_modify_of_ne h change).trans found, rfl, started⟩
    · obtain ⟨e, found, rfl⟩ := Option.map_eq_some_iff.1 own
      exact self found

/-- Entries stay where they are, and what has begun stays so. -/
def Evolves (s s' : Store) : Prop :=
  ∀ id e, s.entry? id = some e → ∃ e', s'.entry? id = some e' ∧ e'.spot = e.spot ∧
    (e.progress.isStarted = true → e'.progress.isStarted = true)

namespace Evolves

theorem refl (s : Store) : s.Evolves s := fun _ e found => ⟨e, found, rfl, fun h => h⟩

theorem trans (h : s.Evolves s') (h' : s'.Evolves s'') : s.Evolves s'' := by
  intro id e found
  obtain ⟨e', found', at_, started⟩ := h id e found
  obtain ⟨e'', found'', at_', started'⟩ := h' id e' found'
  exact ⟨e'', found'', at_'.trans at_, fun h => started' (started h)⟩

theorem startedAt (h : s.Evolves s') {spot : Spot} (started : s.StartedAt spot) :
    s'.StartedAt spot := by
  obtain ⟨id, e, found, rfl, begun⟩ := startedAt_iff.1 started
  obtain ⟨e', found', at_, stays⟩ := h id e found
  exact startedAt_iff.2 ⟨id, e', found', at_, stays begun⟩

theorem spot? (h : s.Evolves s') {spot : Spot} (at_ : s.spot? id = some spot) :
    s'.spot? id = some spot := by
  obtain ⟨e, found, rfl⟩ := Option.map_eq_some_iff.1 at_
  obtain ⟨e', found', same, -⟩ := h id e found
  rw [spot?_eq found', same]

/-- A change of an entry that keeps its spot and what has begun. -/
theorem modify (s : Store) (id : EntryId) {change : Entry → Entry}
    (spot : ∀ e, (change e).spot = e.spot)
    (started : ∀ e, e.progress.isStarted = true → (change e).progress.isStarted = true) :
    s.Evolves (s.modify id change) := by
  intro j e found
  by_cases h : j = id
  · subst h
    exact ⟨change e, by rw [entry?_modify_self, found]; rfl, spot e, started e⟩
  · exact ⟨e, by rw [entry?_modify_of_ne h]; exact found, rfl, fun h => h⟩

end Evolves

end Store

end JsonSchema
