import JsonSchema.Compilation.Schema
import JsonSchema.Proofs.Store.Documents
import JsonSchema.Proofs.Store.Entries
import JsonSchema.Proofs.Siblings.Schemas

/-!
# Stores with references in rules of their own

Two stores hold the same documents and have compiled the same of them, and only differ in whether
compiled references stand in rules of their own. They give the same answers to all questions, and
stay so when both are changed in the same way.

* `Entry.Wrapped`, `Store.Wrapped`: entries and stores that differ in nothing else.
* `Store.Wrapped.resolve_eq`, `Store.Wrapped.lookup_eq`: what references and names denote.
* `Store.Wrapped.modify`, `Store.Wrapped.insert`, `Store.Wrapped.fragment`: changes of both.
-/

namespace JsonSchema

/-! ## Entries -/

/-- The same progress, where compiled references may stand in rules of their own. -/
inductive Progress.Wrapped : Progress → Progress → Prop
  | notStarted : Wrapped .notStarted .notStarted
  | inProgress (refs : Bindings String EntryId) : Wrapped (.inProgress refs) (.inProgress refs)
  | done {node node' : Node} (h : node.Wrapped node') (refs : Bindings String EntryId) :
      Wrapped (.done node refs) (.done node' refs)
  | failed : Wrapped .failed .failed

/-- The same entry, where compiled references may stand in rules of their own. -/
structure Entry.Wrapped (e e' : Entry) : Prop where
  reset : e.reset = e'.reset
  progress : e.progress.Wrapped e'.progress

namespace Progress.Wrapped

variable {p p' : Progress}

theorem refl (p : Progress) : p.Wrapped p := by
  cases p with
  | done node refs => exact .done (.refl node) refs
  | _ => constructor

theorem isStarted_eq (h : p.Wrapped p') : p.isStarted = p'.isStarted := by cases h <;> rfl

theorem refs_eq (h : p.Wrapped p') : p.refs = p'.refs := by cases h <;> rfl

theorem node? (h : p.Wrapped p') : Option.Rel Node.Wrapped p.node? p'.node? := by
  cases h with
  | done h refs => exact .some h
  | _ => exact .none

end Progress.Wrapped

namespace Entry.Wrapped

variable {e e' : Entry}

theorem refl (e : Entry) : e.Wrapped e := ⟨rfl, .refl e.progress⟩

/-- What does not depend on the compilation of an entry is the same. -/
theorem congr (h : e.Wrapped e') {α : Type} (f : Entry → α) (same : ∀ e, f e.reset = f e) :
    f e = f e' := by rw [← same e, ← same e', h.reset]

theorem root_eq (h : e.Wrapped e') : e.root = e'.root := h.congr Entry.root fun _ => rfl

theorem id_eq (h : e.Wrapped e') : e.id = e'.id := h.congr Entry.id fun _ => rfl

theorem document_eq (h : e.Wrapped e') : e.document = e'.document :=
  h.congr Entry.document fun _ => rfl

theorem localRefs_eq (h : e.Wrapped e') : e.localRefs = e'.localRefs :=
  h.congr Entry.localRefs fun _ => rfl

theorem isMeta_eq (h : e.Wrapped e') : e.isMeta = e'.isMeta := h.congr Entry.isMeta fun _ => rfl

theorem refs_eq (h : e.Wrapped e') : e.refs = e'.refs := h.progress.refs_eq

theorem begin (h : e.Wrapped e') : e.begin.Wrapped e'.begin := ⟨h.reset, .inProgress []⟩

theorem finish (h : e.Wrapped e') {node node' : Node} (nodes : node.Wrapped node') :
    (e.finish node).Wrapped (e'.finish node') where
  reset := h.reset
  progress := by
    show Progress.Wrapped (.done node e.refs) (.done node' e'.refs)
    rw [h.refs_eq]
    exact .done nodes _

theorem remember (h : e.Wrapped e') (reference : String) (target : EntryId) :
    (e.remember reference target).Wrapped (e'.remember reference target) := by
  refine ⟨by rw [remember_reset, remember_reset, h.reset], ?_⟩
  have progress := h.progress
  unfold Entry.remember
  revert progress
  generalize e.progress = p, e'.progress = p'
  intro progress
  cases progress with
  | inProgress refs => exact .inProgress _
  | _ => exact h.progress

end Entry.Wrapped

/-! ## Stores -/

/-- The same store, where compiled references may stand in rules of their own. -/
structure Store.Wrapped (s s' : Store) : Prop where
  size : s.entries.size = s'.entries.size
  entries : ∀ id, Option.Rel Entry.Wrapped (s.entry? id) (s'.entry? id)
  schemas : s.schemas = s'.schemas
  refs : s.refs = s'.refs
  fragments : s.fragments = s'.fragments
  cache : s.cache = s'.cache

namespace Store.Wrapped

variable {s s' : Store}

theorem refl (s : Store) : s.Wrapped s where
  size := rfl
  entries id := by
    cases s.entry? id with
    | none => exact .none
    | some e => exact .some (.refl e)
  schemas := rfl
  refs := rfl
  fragments := rfl
  cache := rfl

variable (h : s.Wrapped s')

include h

/-! ### Questions -/

theorem bind_eq (id : EntryId) {α : Type} {f f' : Entry → Option α}
    (same : ∀ e e', e.Wrapped e' → f e = f' e') : (s.entry? id).bind f = (s'.entry? id).bind f' := by
  rcases option_rel_cases (h.entries id) with ⟨none, none'⟩ | ⟨e, e', found, found', wrapped⟩
  · rw [none, none']
    rfl
  · rw [found, found']
    exact same e e' wrapped

theorem map_eq (id : EntryId) {α : Type} {f f' : Entry → α}
    (same : ∀ e e', e.Wrapped e' → f e = f' e') : (s.entry? id).map f = (s'.entry? id).map f' := by
  rw [Option.map_eq_bind, Option.map_eq_bind]
  exact h.bind_eq id fun e e' wrapped => congrArg some (same e e' wrapped)

theorem slots (id : EntryId) : Option.Rel Node.Wrapped (s.slots id) (s'.slots id) := by
  unfold Store.slots
  rcases option_rel_cases (h.entries id) with ⟨none, none'⟩ | ⟨e, e', found, found', wrapped⟩
  · rw [none, none']
    exact .none
  · rw [found, found']
    exact wrapped.progress.node?

theorem isLive_eq : s.isLive = s'.isLive := by
  funext id
  have same : (s.entry? id).map (fun _ => ()) = (s'.entry? id).map fun _ => () :=
    h.map_eq id fun _ _ _ => rfl
  rw [isLive, isLive, ← Option.isSome_map (f := fun _ => ()), same, Option.isSome_map]

theorem lookup_eq (name : String) : s.lookup name = s'.lookup name := by
  rw [lookup, lookup, h.schemas, h.refs, h.isLive_eq]

theorem isTaken_eq (name : String) : s.isTaken name = s'.isTaken name := by
  rw [isTaken, isTaken, h.schemas, h.refs]

theorem isAsync_eq (id : EntryId) : s.isAsync id = s'.isAsync id := by
  unfold isAsync rootEntry?
  congr 1
  rw [Option.map_bind, Option.map_bind]
  refine h.bind_eq id fun e e' wrapped => ?_
  rw [Function.comp_apply, Function.comp_apply, wrapped.root_eq]
  exact h.map_eq _ fun d d' wrapped => by rw [Entry.isAsync, Entry.isAsync, wrapped.document_eq]

theorem resolve_eq (source : EntryId) (reference : String) :
    s.resolve source reference = s'.resolve source reference := by
  unfold resolve
  simp only [Option.bind_eq_bind]
  congr 1
  refine h.bind_eq source fun e e' wrapped => ?_
  rw [wrapped.root_eq]
  refine h.bind_eq _ fun owner owner' wrapped => ?_
  have target : s.targetOf? e'.root owner (documentPart reference) =
      s'.targetOf? e'.root owner' (documentPart reference) := by
    unfold targetOf?
    rw [wrapped.id_eq, wrapped.localRefs_eq, h.lookup_eq]
    simp only [h.map_eq _ fun e e' wrapped => wrapped.root_eq]
  rw [target]
  congr 1
  funext found
  refine h.bind_eq _ fun t t' wrapped => ?_
  unfold pointerOf?
  rw [wrapped.localRefs_eq, wrapped.document_eq, wrapped.id_eq]

theorem depthOf_eq : Compiler.depthOf s = Compiler.depthOf s' := by
  have listed (s : Store) : s.entries.toList = (List.range s.entries.size).map fun i => s.entry? ⟨i⟩ := by
    refine List.ext_getElem (by simp) fun i here there => ?_
    rw [Array.length_toList] at here
    rw [Array.getElem_toList, List.getElem_map, List.getElem_range, entry?,
      Array.getElem?_eq_getElem here]
    rfl
  unfold Compiler.depthOf
  rw [listed s, listed s', h.size, List.map_map, List.map_map]
  refine congrArg (fun weights => 10000 + Nat.pow (List.foldl (· + ·) 0 weights + 2) 6)
    (List.map_congr_left fun i _ => ?_)
  simp only [Function.comp_apply]
  rcases option_rel_cases (h.entries ⟨i⟩) with ⟨none, none'⟩ | ⟨e, e', found, found', wrapped⟩
  · rw [none, none']
  · rw [found, found']
    simp only [wrapped.document_eq, wrapped.localRefs_eq]

/-! ### Changes -/

theorem modify (id : EntryId) {change change' : Entry → Entry}
    (same : ∀ e e', e.Wrapped e' → (change e).Wrapped (change' e')) :
    (s.modify id change).Wrapped (s'.modify id change') where
  size := by rw [modify_size, modify_size, h.size]
  entries j := by
    rw [entry?_modify, entry?_modify]
    split
    · rcases option_rel_cases (h.entries j) with ⟨none, none'⟩ | ⟨e, e', found, found', wrapped⟩
      · rw [none, none']
        exact .none
      · rw [found, found']
        exact .some (same e e' wrapped)
    · exact h.entries j
  schemas := h.schemas
  refs := h.refs
  fragments := h.fragments
  cache := h.cache

theorem insert (make : EntryId → Entry) :
    (s.insert make).1 = (s'.insert make).1 ∧ (s.insert make).2.Wrapped (s'.insert make).2 := by
  refine ⟨by rw [insert_fst, insert_fst, h.size], ?_, fun j => ?_, h.schemas, h.refs, h.fragments, h.cache⟩
  · rw [insert_size, insert_size, h.size]
  · rw [entry?_insert, entry?_insert, h.size]
    split
    · exact .some (.refl _)
    · exact h.entries j

theorem insertDocument (e : Entry) (key : CacheKey) (named : Bool) :
    (s.insertDocument e key named).Wrapped (s'.insertDocument e key named) where
  size := (h.insert fun self => { e with root := self }).2.size
  entries := (h.insert fun self => { e with root := self }).2.entries
  schemas := h.schemas
  refs := by rw [Store.insertDocument, Store.insertDocument, h.refs, h.size]
  fragments := h.fragments
  cache := by rw [Store.insertDocument, Store.insertDocument, h.cache, h.size]

theorem fragment (root : EntryId) (base pointer : String) (schema : Value) :
    (s.fragment root base pointer schema).1 = (s'.fragment root base pointer schema).1 ∧
    (s.fragment root base pointer schema).2.1 = (s'.fragment root base pointer schema).2.1 ∧
    (s.fragment root base pointer schema).2.2.Wrapped (s'.fragment root base pointer schema).2.2 := by
  have isMeta := h.map_eq root fun e e' wrapped => wrapped.isMeta_eq
  unfold Store.fragment
  rw [h.fragments, h.isLive_eq, isMeta]
  split
  · exact ⟨rfl, rfl, h⟩
  · obtain ⟨same, inserted⟩ := h.insert fun _ =>
      { id := base, document := schema, isMeta := ((s'.entry? root).map (·.isMeta)).getD false
        root := root, pointer := pointer }
    refine ⟨same, rfl, inserted.size, inserted.entries, inserted.schemas, inserted.refs, ?_, inserted.cache⟩
    exact congrArg₂ (fun fragments id => Bindings.bind fragments (root, pointer) id) h.fragments same

end Store.Wrapped

end JsonSchema
