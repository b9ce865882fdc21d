import JsonSchema.Proofs.Registry.Reachable

/-!
# Documents that are no longer asynchronous

Two stores may know the same documents, the second one without the members that declare them
asynchronous. References then lead to the same places.

* `Value.synchronous`: a document without that member.
* `Entry.Twin`: entries that hold the same document.
* `Store.Agrees`: stores in which names lead to the same documents.
* `Store.Twins`: entries that hold the same document or the same part of one.
* `Store.Denotes.twins`: a reference that both stores know leads to twins.
-/

namespace JsonSchema

/-! ## Values -/

/-- A document without the member that declares it asynchronous. -/
def Value.synchronous : Value → Value
  | .object members => .object (Members.erase members "$async")
  | value => value

/-- A schema, or the schema without the member that declares it asynchronous. -/
inductive Value.Twin (value : Value) : Value → Prop
  | same : Twin value value
  | synchronous : Twin value value.synchronous

theorem Members.get?_erase {members : Members} {name other : String} (ne : name ≠ other) :
    Members.get? (members.erase other) name = members.get? name := by
  induction members with
  | nil => rfl
  | cons member rest ih =>
    obtain ⟨key, value⟩ := member
    by_cases gone : key = other
    · subst gone
      rw [show Members.erase ((key, value) :: rest) key = Members.erase rest key by simp [erase], ih,
        get?, if_neg ne.symm]
    · rw [show Members.erase ((key, value) :: rest) other = (key, value) :: Members.erase rest other
        by simp [erase, gone], get?, get?, ih]

theorem Members.get?_erase_self (members : Members) (name : String) :
    Members.get? (members.erase name) name = none := by
  cases found : Members.get? (members.erase name) name with
  | none => rfl
  | some value =>
    have mem := List.mem_filter.1 (Members.mem_of_get? found)
    simp at mem

/-- An object has an object as its twin, with the same members apart from one. -/
theorem Value.Twin.object {members : Members} {value : Value} (twin : Twin (.object members) value) :
    ∃ members', value = .object members' ∧
      ∀ name, name ≠ "$async" → Members.get? members' name = Members.get? members name := by
  cases twin with
  | same => exact ⟨members, rfl, fun _ _ => rfl⟩
  | synchronous => exact ⟨_, rfl, fun _ ne => Members.get?_erase ne⟩

/-- The part at the end of a step that is possible without the member. -/
theorem Value.step?_synchronous {value part : Value} {segment : String}
    (h : value.synchronous.step? segment = some part) : value.step? segment = some part := by
  cases value with
  | object members =>
    by_cases own : segment = "$async"
    · subst own
      cases (Members.get?_erase_self members "$async").symm.trans h
    · rw [← h]
      exact (Members.get?_erase own).symm
  | _ => exact h

/-- Without the member, steps lead to the same part. -/
theorem Value.follow?_synchronous {value part : Value} {base base' : String}
    {segments : List String} (h : value.synchronous.follow? base segments = some (part, base')) :
    ∃ whole, value.follow? base segments = some (whole, base') ∧ whole.Twin part := by
  cases segments with
  | nil =>
    cases h
    exact ⟨value, rfl, .synchronous⟩
  | cons segment rest =>
    cases rest with
    | nil =>
      obtain ⟨next, step, e⟩ := Option.map_eq_some_iff.1 h
      cases e
      refine ⟨part, ?_, .same⟩
      rw [follow?, step?_synchronous step]
      rfl
    | cons second rest =>
      obtain ⟨next, step, follow⟩ := Option.bind_eq_some_iff.1 h
      refine ⟨part, ?_, .same⟩
      show (value.step? segment).bind _ = _
      rw [step?_synchronous step]
      exact follow

/-! ## Entries -/

/-- Two entries hold the same document, the second one without the member that declares it
    asynchronous. -/
structure Entry.Twin (e e' : Entry) : Prop where
  id : e.id = e'.id
  localRefs : e.localRefs = e'.localRefs
  document : e'.document = e.document.synchronous

/-- Without the member a document is not asynchronous. -/
theorem Entry.Twin.isAsync {e e' : Entry} (twin : e.Twin e') : e'.isAsync = false := by
  rw [Entry.isAsync, twin.document]
  cases e.document with
  | object members =>
    show ((Members.get? (Members.erase members "$async") "$async").bind Value.asBool?).getD false = false
    rw [Members.get?_erase_self]
    rfl
  | _ => rfl

namespace Store

variable {s s' : Store} {id id' : EntryId} {e e' : Entry}

/-- Names that are known in both stores lead to the same documents. -/
def Agrees (s s' : Store) : Prop :=
  ∀ name id id' e e', s.lookup name = some id → s'.lookup name = some id' →
    s.entry? id = some e → s'.entry? id' = some e' → e.Twin e'

/-- Two entries hold the same document, or the same part of one. -/
structure Twins (s s' : Store) (id id' : EntryId) (e e' : Entry) : Prop where
  found : s.entry? id = some e
  found' : s'.entry? id' = some e'
  roots : ∃ d d', s.entry? e.root = some d ∧ s'.entry? e'.root = some d' ∧ d.Twin d'
  base : e.id = e'.id
  part : e.isFragment = e'.isFragment
  document : e.document.Twin e'.document

/-- Entries that hold the same document. -/
theorem Twins.of_documents (linked : s.Linked) (linked' : s'.Linked) (found : s.entry? id = some e)
    (found' : s'.entry? id' = some e') (doc : e.pointer = "") (doc' : e'.pointer = "")
    (twin : e.Twin e') : s.Twins s' id id' e e' where
  found := found
  found' := found'
  roots := by
    refine ⟨e, e', ?_, ?_, twin⟩
    · rw [linked.document_root found doc, found]
    · rw [linked'.document_root found' doc', found']
  base := twin.id
  part := by rw [isFragment_eq_false_iff.2 doc, isFragment_eq_false_iff.2 doc']
  document := twin.document ▸ .synchronous

/-! ## References -/

variable (linked : s.Linked) (linked' : s'.Linked) (agrees : s.Agrees s')

include linked linked' agrees

/-- A reference leads into the same document. -/
theorem Reaches.twins {reference pointer pointer' : String} {target target' : EntryId}
    (twins : s.Twins s' id id' e e') (h : s.Reaches id reference target pointer)
    (h' : s'.Reaches id' reference target' pointer') :
    pointer = pointer' ∧ ∃ t t', s.entry? target = some t ∧ s'.entry? target' = some t' ∧
      t.pointer = "" ∧ t'.pointer = "" ∧ t.Twin t' := by
  obtain ⟨t, foundT, docT⟩ := h.document linked
  obtain ⟨t', foundT', docT'⟩ := h'.document linked'
  obtain ⟨_, d, start, _, hs, hd, ht, hf, hp⟩ := h
  obtain ⟨_, d', start', _, hs', hd', ht', hf', hp'⟩ := h'
  cases foundT.symm.trans hf
  cases foundT'.symm.trans hf'
  cases twins.found.symm.trans hs
  cases twins.found'.symm.trans hs'
  obtain ⟨_, _, foundD, foundD', twin⟩ := twins.roots
  cases foundD.symm.trans hd
  cases foundD'.symm.trans hd'
  suffices both : start = start' ∧ t.Twin t' by
    obtain ⟨rfl, twinT⟩ := both
    refine ⟨?_, t, t', foundT, foundT', docT, docT', twinT⟩
    rw [pointerOf?, twinT.localRefs] at hp
    exact Option.some.inj (hp.symm.trans hp')
  rw [targetOf?, twin.id, twin.localRefs] at ht
  rw [targetOf?] at ht'
  split at ht
  · next own =>
    rw [if_pos own] at ht'
    cases ht
    cases ht'
    cases hd.symm.trans foundT
    cases hd'.symm.trans foundT'
    exact ⟨rfl, twin⟩
  · next other =>
    rw [if_neg other] at ht'
    split at ht
    · next found =>
      rw [found] at ht'
      cases ht
      cases ht'
      cases hd.symm.trans foundT
      cases hd'.symm.trans foundT'
      exact ⟨rfl, twin⟩
    · next missing =>
      rw [missing] at ht'
      obtain ⟨named, hl, eq⟩ := Option.map_eq_some_iff.1 ht
      obtain ⟨named', hl', eq'⟩ := Option.map_eq_some_iff.1 ht'
      obtain ⟨n, foundN, docN⟩ := linked.lookup_document hl
      obtain ⟨n', foundN', docN'⟩ := linked'.lookup_document hl'
      rw [foundN, Option.map_some, Option.getD_some, linked.document_root foundN docN] at eq
      rw [foundN', Option.map_some, Option.getD_some, linked'.document_root foundN' docN'] at eq'
      cases eq
      cases eq'
      exact ⟨rfl, agrees _ _ _ _ _ hl hl' foundT foundT'⟩

/-- What a reference denotes in both stores are twins. -/
theorem Denotes.twins {reference : String} {target target' : EntryId}
    (twins : s.Twins s' id id' e e') (h : s.Denotes id reference target)
    (h' : s'.Denotes id' reference target') : ∃ t t', s.Twins s' target target' t t' := by
  rcases denotes_iff.1 h with reaches | ⟨root, pointer, base, part, reaches, nonempty, cuts, bound⟩
  · rcases denotes_iff.1 h' with reaches' | ⟨_, _, _, _, reaches', nonempty, -, -⟩
    · obtain ⟨-, t, t', found, found', doc, doc', twin⟩ :=
        reaches.twins linked linked' agrees twins reaches'
      exact ⟨t, t', .of_documents linked linked' found found' doc doc' twin⟩
    · exact absurd (reaches.twins linked linked' agrees twins reaches').1.symm nonempty
  · rcases denotes_iff.1 h' with reaches' | ⟨root', pointer', base', part', reaches', -, cuts', bound'⟩
    · exact absurd (reaches.twins linked linked' agrees twins reaches').1 nonempty
    · obtain ⟨rfl, d, d', foundD, foundD', -, -, twin⟩ :=
        reaches.twins linked linked' agrees twins reaches'
      obtain ⟨t, found, rfl, rfl, -, cutsT⟩ := linked.fragment_cuts bound
      obtain ⟨t', found', rfl, pointerT', -, cutsT'⟩ := linked'.fragment_cuts bound'
      obtain ⟨d₁, segments, h₁, parsed, cut⟩ := cutsT
      obtain ⟨d₂, segments', h₂, parsed', cut'⟩ := cutsT'
      cases foundD.symm.trans h₁
      cases foundD'.symm.trans h₂
      cases parsed.symm.trans parsed'
      rw [twin.document, ← twin.id] at cut'
      obtain ⟨whole, cut'', twinT⟩ := Value.follow?_synchronous cut'
      obtain ⟨part, base⟩ := Prod.mk.inj (Option.some.inj (cut.symm.trans cut''))
      refine ⟨t, t', found, found', ⟨d, d', foundD, foundD', twin⟩, base, ?_, part ▸ twinT⟩
      rw [isFragment_eq_true_iff.2 nonempty, isFragment_eq_true_iff.2 (pointerT' ▸ nonempty)]

end Store

end JsonSchema
