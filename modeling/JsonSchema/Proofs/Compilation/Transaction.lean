import JsonSchema.Proofs.Compilation.Sound

/-!
# Transactions

What a compilation does to the store, step by step, whether it ends well or not.

* `Compilation.Tracks`: what a compilation changed since its start is recorded, so that it
  can be taken back.
* `Compilation.Advances`, `Compilation.Leads`: what the success of a part of a compilation means for the store.
* `CompileM.Ensures`: the rule by which parts of a compilation are put together.
-/

namespace JsonSchema

namespace Compilation

variable {K : EntryId → Compiler → Prop} {origin : Store} {c c' c'' : Compilation}

/-! ## What is recorded -/

/-- A compilation that started from the store `origin` changed nothing but the progress of
    the entries it began, and added nothing but the fragments it made. -/
structure Tracks (origin : Store) (c : Compilation) : Prop where
  schemas : c.store.schemas = origin.schemas
  refs : c.store.refs = origin.refs
  cache : c.store.cache = origin.cache
  size : origin.entries.size ≤ c.store.entries.size
  /-- Entries stay, and change only if their compilation was begun. -/
  kept : ∀ id e, origin.entry? id = some e → ∃ e', c.store.entry? id = some e' ∧
    e'.reset = e.reset ∧ (id ∉ c.started → e' = e)
  /-- The other entries are the fragments that were made. -/
  added : ∀ id e, c.store.entry? id = some e → (∃ e₀, origin.entry? id = some e₀) ∨ id ∈ c.created
  fresh : ∀ id ∈ c.created, origin.entries.size ≤ id.index
  /-- What was compiled before is not compiled again. -/
  begun : ∀ id ∈ c.started, ∀ e, origin.entry? id = some e → e.progress.isStarted = false
  /-- What is being compiled was begun by this compilation. -/
  pending : ∀ id e, c.store.entry? id = some e → e.progress.isPending = true → id ∈ c.started
  fragments : ∃ more, c.store.fragments = origin.fragments ++ more ∧
    ∀ b ∈ more, b.2 ∈ c.created

/-- What holds of a compilation at every moment. -/
structure Good (K : EntryId → Compiler → Prop) (origin : Store) (c : Compilation) : Prop where
  sound : c.store.Sound K
  tracks : c.Tracks origin

theorem Tracks.start {s : Store}
    (idle : ∀ id e, s.entry? id = some e → e.progress.isPending = false) :
    Tracks s { store := s } where
  schemas := rfl
  refs := rfl
  cache := rfl
  size := Nat.le_refl _
  kept _ e found := ⟨e, found, rfl, fun _ => rfl⟩
  added _ e found := .inl ⟨e, found⟩
  fresh _ h := by cases h
  begun _ h := by cases h
  pending id e found pending := by rw [idle id e found] at pending; cases pending
  fragments := ⟨[], (List.append_nil _).symm, fun _ h => by cases h⟩

/-- A step in the compilation of an entry that was begun. -/
theorem Tracks.modify (tracks : c.Tracks origin) {id : EntryId} (begun : id ∈ c.started)
    {change : Entry → Entry} (keep : ∀ e, (change e).reset = e.reset) :
    Tracks origin { c with store := c.store.modify id change } where
  schemas := tracks.schemas
  refs := tracks.refs
  cache := tracks.cache
  size := Nat.le_trans tracks.size (Nat.le_of_eq (Store.modify_size _ _ _).symm)
  kept j e found := by
    obtain ⟨e', found', eq, same⟩ := tracks.kept j e found
    by_cases h : j = id
    · subst h
      refine ⟨change e', ?_, (keep e').trans eq, fun out => absurd begun out⟩
      show Store.entry? (c.store.modify j change) j = _
      rw [Store.entry?_modify_self, found']
      rfl
    · exact ⟨e', (Store.entry?_modify_of_ne h change).trans found', eq, same⟩
  added j e found := by
    have live : c.store.isLive j = true := by
      have found : Store.entry? (c.store.modify id change) j = some e := found
      rw [Store.entry?_modify] at found
      split at found
      · obtain ⟨e', found', -⟩ := Option.map_eq_some_iff.1 found
        exact Store.isLive_of_entry found'
      · exact Store.isLive_of_entry found
    obtain ⟨e', found'⟩ := Store.isLive_iff.1 live
    exact tracks.added j e' found'
  fresh := tracks.fresh
  begun := tracks.begun
  pending j e found pending := by
    by_cases h : j = id
    · rw [h]
      exact begun
    · exact tracks.pending j e ((Store.entry?_modify_of_ne h change).symm.trans found) pending
  fragments := tracks.fragments

/-- The first step in the compilation of an entry. -/
theorem Tracks.begin (tracks : c.Tracks origin) {id : EntryId} {e : Entry}
    (found : c.store.entry? id = some e) (idle : e.progress.isStarted = false) :
    Tracks origin
      { c with store := c.store.modify id Entry.begin, started := id :: c.started } := by
  have more : Tracks origin { c with started := id :: c.started } :=
    { tracks with
      kept := fun j e₀ found₀ => by
        obtain ⟨e', found', eq, same⟩ := tracks.kept j e₀ found₀
        exact ⟨e', found', eq, fun out => same fun mem => out (List.mem_cons_of_mem _ mem)⟩
      begun := fun j mem e₀ found₀ => by
        rcases List.mem_cons.1 mem with rfl | mem
        · obtain ⟨e', found', eq, same⟩ := tracks.kept j e₀ found₀
          rw [found] at found'
          cases found'
          by_cases out : j ∈ c.started
          · exact tracks.begun j out e₀ found₀
          · rw [← same out]
            exact idle
        · exact tracks.begun j mem e₀ found₀
      pending := fun j e' found' pending =>
        List.mem_cons_of_mem _ (tracks.pending j e' found' pending) }
  exact more.modify List.mem_cons_self fun e => e.begin_reset

/-! ## What a success means -/

/-- A part of a compilation began and finished entries, and followed references. What is
    being compiled refers to nothing more than before but what is allowed. -/
structure Advances (allowed : EntryId → Prop) (c c' : Compilation) : Prop where
  grows : ∀ id e, c.store.entry? id = some e → ∃ e', c'.store.entry? id = some e' ∧
    e'.reset = e.reset ∧ e.progress.Grows e'.progress
  pending : ∀ id e', c'.store.entry? id = some e' → e'.progress.isPending = true →
    ∃ e, c.store.entry? id = some e ∧ e.progress.isPending = true ∧
      ∀ ref ∈ e'.refs, ref ∈ e.refs ∨ allowed ref.2

/-- After a success, what is being compiled refers to what is compiled by now. -/
abbrev Leads (c c' : Compilation) : Prop := Advances c'.store.IsStarted c c'

theorem Advances.refl (allowed : EntryId → Prop) (c : Compilation) : Advances allowed c c where
  grows _ e found := ⟨e, found, rfl, .same _⟩
  pending _ e found pending := ⟨e, found, pending, fun _ mem => .inl mem⟩

theorem Advances.trans {A B C : EntryId → Prop} (h : Advances A c c') (h' : Advances B c' c'')
    (hA : ∀ id, A id → C id) (hB : ∀ id, B id → C id) : Advances C c c'' where
  grows id e found := by
    obtain ⟨e', found', eq, grows⟩ := h.grows id e found
    obtain ⟨e'', found'', eq', grows'⟩ := h'.grows id e' found'
    exact ⟨e'', found'', eq'.trans eq, grows.trans grows'⟩
  pending id e'' found'' pending'' := by
    obtain ⟨e', found', pending', more'⟩ := h'.pending id e'' found'' pending''
    obtain ⟨e, found, pending, more⟩ := h.pending id e' found' pending'
    refine ⟨e, found, pending, fun ref mem => ?_⟩
    rcases more' ref mem with mem | b
    · exact (more ref mem).imp (fun h => h) (hA _)
    · exact .inr (hB _ b)

theorem Advances.isStarted {A : EntryId → Prop} (h : Advances A c c') {id : EntryId}
    (started : c.store.IsStarted id) : c'.store.IsStarted id := by
  obtain ⟨e, found, hs⟩ := started
  obtain ⟨e', found', -, grows⟩ := h.grows id e found
  exact ⟨e', found', grows.isStarted hs⟩

/-- What is compiled meanwhile leaves documents as they are. -/
theorem Advances.keepsRoot {A : EntryId → Prop} (h : Advances A c c') (id : EntryId) :
    c.store.KeepsRoot c'.store id := by
  intro d found
  obtain ⟨e, foundE, foundD⟩ := Option.bind_eq_some_iff.1 found
  obtain ⟨e', foundE', eq, -⟩ := h.grows id e foundE
  obtain ⟨d', foundD', eqD, -⟩ := h.grows e.root d foundD
  have root : e'.root = e.root := (congrArg Entry.root eq :)
  have document : d'.document = d.document := (congrArg Entry.document eqD :)
  refine ⟨d', ?_, ?_⟩
  · rw [Store.rootEntry?_eq foundE', root, foundD']
  · rw [Entry.isAsync, document, Entry.isAsync]

theorem Leads.trans (h : Leads c c') (h' : Leads c' c'') : Leads c c'' :=
  Advances.trans h h' (fun _ => h'.isStarted) fun _ b => b

/-- A step that leaves the store alone. -/
theorem Leads.of_store_eq (h : c'.store = c.store) : Leads c c' where
  grows _ e found := ⟨e, by rw [h]; exact found, rfl, .same _⟩
  pending _ e found pending := ⟨e, by rw [← h]; exact found, pending, fun _ mem => .inl mem⟩

/-- The entry is being compiled. -/
def Active (c : Compilation) (id : EntryId) : Prop :=
  ∃ e, c.store.entry? id = some e ∧ e.progress.isPending = true

theorem Active.leads {A : EntryId → Prop} {id : EntryId} (active : c.Active id)
    (h : Advances A c c') : c'.Active id := by
  obtain ⟨e, found, pending⟩ := active
  obtain ⟨e', found', -, grows⟩ := h.grows id e found
  exact ⟨e', found', grows.isPending pending⟩

/-- The references that an entry followed. -/
def refsOf (c : Compilation) (id : EntryId) : Bindings String EntryId :=
  ((c.store.entry? id).map Entry.refs).getD []

theorem refsOf_eq {id : EntryId} {e : Entry} (found : c.store.entry? id = some e) :
    c.refsOf id = e.refs := by
  rw [refsOf, found]
  rfl

theorem Advances.find?_refsOf {A : EntryId → Prop} (h : Advances A c c') {id : EntryId} {key : String} {target : EntryId}
    (found : (c.refsOf id).find? key = some target) :
    (c'.refsOf id).find? key = some target := by
  cases he : c.store.entry? id with
  | none =>
    rw [refsOf, he] at found
    cases found
  | some e =>
    obtain ⟨e', he', -, grows⟩ := h.grows id e he
    rw [refsOf_eq he] at found
    rw [refsOf_eq he']
    exact grows.find? found

end Compilation

/-! ## Putting parts together -/

namespace CompileM

open Compilation (Good Leads)

variable {K : EntryId → Compiler → Prop} {origin : Store} {α β : Type}

theorem bind_ok {m : CompileM α} {f : α → CompileM β} {c c' : Compilation} {a : α}
    (h : m c = .ok a c') : (m >>= f) c = f a c' := by
  show EStateM.bind m f c = _
  rw [EStateM.bind, h]

theorem bind_error {m : CompileM α} {f : α → CompileM β} {c c' : Compilation} {e : SchemaError}
    (h : m c = .error e c') : (m >>= f) c = .error e c' := by
  show EStateM.bind m f c = _
  rw [EStateM.bind, h]

theorem get_bind (f : Compilation → CompileM β) (c : Compilation) :
    ((get : CompileM Compilation) >>= f) c = f c c := rfl

theorem modify_bind (change : Compilation → Compilation) (f : PUnit → CompileM β)
    (c : Compilation) :
    ((modify change : CompileM PUnit) >>= f) c = f ⟨⟩ (change c) := rfl

/-- From this moment of a compilation that is good so far, a part of it either succeeds with
    a result as described, or fails; in both cases the compilation is good then. -/
def Ensures (K : EntryId → Compiler → Prop) (origin : Store) (c : Compilation) (m : CompileM α)
    (post : α → Compilation → Prop) : Prop :=
  match m c with
  | .ok a c' => Good K origin c' ∧ Leads c c' ∧ post a c'
  | .error _ c' => Good K origin c'

namespace Ensures

variable {c : Compilation} {m : CompileM α} {post : α → Compilation → Prop}

theorem pure (good : Good K origin c) {a : α} (h : post a c) :
    Ensures K origin c (pure a : CompileM α) post :=
  ⟨good, .refl _ c, h⟩

theorem throw (good : Good K origin c) (e : SchemaError) :
    Ensures K origin c (throw e : CompileM α) post := good

theorem throw_bind (good : Good K origin c) (e : SchemaError) (f : β → CompileM α) :
    Ensures K origin c (MonadExcept.throw e >>= f) post := good

theorem bind {f : α → CompileM β} {post' : β → Compilation → Prop}
    (first : Ensures K origin c m post)
    (second : ∀ a c', Good K origin c' → Leads c c' → post a c' →
      Ensures K origin c' (f a) post') :
    Ensures K origin c (m >>= f) post' := by
  unfold Ensures at first ⊢
  cases hm : m c with
  | error e c' =>
    rw [bind_error hm]
    rw [hm] at first
    exact first
  | ok a c' =>
    rw [bind_ok hm]
    rw [hm] at first
    obtain ⟨good, leads, ha⟩ := first
    have rest := second a c' good leads ha
    unfold Ensures at rest
    cases hf : f a c' with
    | error e c'' =>
      rw [hf] at rest
      exact rest
    | ok b c'' =>
      rw [hf] at rest
      exact ⟨rest.1, Leads.trans leads rest.2.1, rest.2.2⟩

theorem imp {post' : α → Compilation → Prop} (first : Ensures K origin c m post)
    (h : ∀ a c', Leads c c' → post a c' → post' a c') : Ensures K origin c m post' := by
  unfold Ensures at first ⊢
  cases hm : m c with
  | error e c' =>
    rw [hm] at first
    exact first
  | ok a c' =>
    rw [hm] at first
    exact ⟨first.1, first.2.1, h a c' first.2.1 first.2.2⟩

theorem map {f : α → β} {post' : β → Compilation → Prop} (first : Ensures K origin c m post)
    (h : ∀ a c', Leads c c' → post a c' → post' (f a) c') :
    Ensures K origin c (f <$> m) post' := by
  rw [map_eq_pure_bind]
  exact first.bind fun a c' good leads ha => pure good (h a c' leads ha)

theorem get_bind {f : Compilation → CompileM β} {post' : β → Compilation → Prop}
    (rest : Ensures K origin c (f c) post') : Ensures K origin c (get >>= f) post' := rest

theorem trace (good : Good K origin c) (events : List Event) :
    Ensures K origin c (Compilation.trace events) fun _ _ => True :=
  ⟨⟨good.sound, { good.tracks with }⟩, .of_store_eq rfl, trivial⟩

/-- Parts that are done for the members of a list, one after the other. -/
theorem mapM (good : Good K origin c) {f : α → CompileM β} {list : List α}
    (post : α → β → Compilation → Prop)
    (step : ∀ a ∈ list, ∀ c', Good K origin c' → Leads c c' → Ensures K origin c' (f a) (post a))
    (stable : ∀ a b c' c'', Leads c' c'' → post a b c' → post a b c'') :
    Ensures K origin c (list.mapM f) fun bs c' =>
      List.Forall₂ (fun a b => post a b c') list bs := by
  induction list generalizing c with
  | nil =>
    rw [List.mapM_nil]
    exact pure good .nil
  | cons a rest ih =>
    rw [List.mapM_cons]
    refine (step a List.mem_cons_self c good (.refl _ c)).bind fun b c' good' leads hb => ?_
    refine (ih good' fun a ha c'' good'' leads' =>
      step a (List.mem_cons_of_mem _ ha) c'' good'' (Leads.trans leads leads')).bind
      fun bs c'' good'' leads' hbs => ?_
    exact pure good'' (.cons (stable a b c' c'' leads' hb) hbs)

end Ensures

end CompileM

end JsonSchema
