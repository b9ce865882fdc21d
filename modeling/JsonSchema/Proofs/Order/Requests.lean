import JsonSchema.Proofs.Order.Depth
import JsonSchema.Proofs.Order.Lockstep
import JsonSchema.Proofs.Registry.Failures

/-!
# Requests for validators

A request for the validator of a name compiles what the name denotes. Later requests find what
earlier ones compiled, which was compiled without a fault, so they end as they would without them.

* `Store.asked`: what a name denotes.
* `Registry.getSchema_cases`: a request compiles an entry at the spot of that, or there is none.
* `Registry.Follows`: a registry after requests, and `Registry.Follows.get`: one request more.
* `Registry.Follows.compile_eq`: compilations after different requests end in the same way.
-/

namespace JsonSchema

open Compilation (Good Leads)

variable {K : EntryId → Compiler → Prop}

namespace Store

variable {s s' : Store} {id : EntryId} {spot : Spot}

/-- What a name denotes: a document, or a part of the document that its first part names. -/
def asked (s : Store) (name : String) : Resolved :=
  match s.lookup (normalizeId name) with
  | some id => .entry id
  | none =>
    match s.lookup (documentPart (normalizeId name)) with
    | some source => s.resolve source (normalizeId name)
    | none => .missing

/-- A document is at the same spot of every store that shares it. -/
theorem Shares.corresponds (h : s.Shares s') {e : Entry} (found : s.entry? id = some e)
    (doc : e.pointer = "") : Corresponds Eq s s' id id := by
  obtain ⟨e', found', reset⟩ := h.document found doc
  exact .of_spot (spot?_eq found)
    ((spot?_eq found').trans (congrArg some (congrArg Entry.spot reset :)))

/-- A name denotes what is at one spot, in stores that share their documents. -/
theorem Shares.asked_eq (h : s.Shares s') (linked : s.Linked) (linked' : s'.Linked)
    (name : String) : (s'.asked name).spot? = (s.asked name).spot? := by
  rw [asked, asked, h.lookup_eq linked linked']
  cases s.lookup (normalizeId name) with
  | some id => rfl
  | none =>
    cases source : s.lookup (documentPart (normalizeId name)) with
    | none => rfl
    | some id =>
      obtain ⟨e, found, doc⟩ := linked.lookup_document source
      exact h.resolve_spot linked linked' (h.corresponds found doc) _

/-- Asking for a fragment gives the entry at its spot, and begins nothing. -/
theorem Settled.fragment_spot (settled : s.Settled K) {root : EntryId} {base pointer : String}
    {part : Value} {d : Entry} (found : s.entry? root = some d) (doc : d.pointer = "")
    (nonempty : pointer ≠ "") (cuts : s.Cuts root pointer base part) :
    (s.fragment root base pointer part).2.2.spot? (s.fragment root base pointer part).1 =
        some (root, pointer) ∧
      ∀ spot, (s.fragment root base pointer part).2.2.StartedAt spot → s.StartedAt spot := by
  have looks := Compilation.Looks.fragment { store := s } root base pointer part []
  refine ⟨?_, fun spot started => looks.startedAt_iff.1 started⟩
  obtain ⟨id, ⟨e, -, bound, made⟩ | ⟨-, rfl, made, -⟩⟩ :=
    settled.toSound.fragment found doc nonempty cuts
  · obtain ⟨e, there, rfl, rfl, -⟩ := settled.linked.fragments _ (Bindings.mem_of_find? bound)
    rw [made]
    exact spot?_eq there
  · rw [made]
    exact spot?_eq ((entry?_insertFragment _).trans (if_pos rfl))

/-- Removing an entry begins nothing. -/
theorem startedAt_of_remove (started : (s.remove id).StartedAt spot) : s.StartedAt spot := by
  obtain ⟨j, e, found, rfl, begun⟩ := startedAt_iff.1 started
  obtain ⟨e', found', rfl | rfl⟩ := entry?_of_remove found
  · exact .of_entry found' begun
  · cases begun

end Store

namespace Compiler

variable {compiler : Compiler} {s : Store} {id : EntryId}

/-- What is compiled already is compiled without doing anything. -/
theorem compile_of_started (started : s.IsStarted id) : compiler.compile id s = (.ok (), s, []) := by
  obtain ⟨e, found, begun⟩ := started
  rw [compile, EStateM.run, entry_of_started (c := { store := s }) found begun]

/-- A compilation that succeeds leaves what the compilation of its entry gave. -/
theorem entry_of_compile_ok (ok : (compiler.compile id s).1 = .ok ()) :
    ∃ d, entry (compiler.schema (depthOf s)) id false { store := s } = .ok () d ∧
      (compiler.compile id s).2.1 = d.store := by
  simp only [compile, EStateM.run] at ok ⊢
  cases run : entry (compiler.schema (depthOf s)) id false { store := s } with
  | ok u d => exact ⟨d, rfl, rfl⟩
  | error e d =>
    rw [run] at ok
    cases ok

/-- A compilation that succeeds leaves its entry where it is. -/
theorem spot?_compile (settled : s.Settled K) (k : ∀ id, K id compiler)
    (ok : (compiler.compile id s).1 = .ok ()) {spot : Spot} (at_ : s.spot? id = some spot) :
    (compiler.compile id s).2.1.spot? id = some spot := by
  rcases compile_cases settled k id with ⟨c, run, -, leads, -⟩ | ⟨e, c, run, -⟩
  · rw [run]
    exact leads.evolves.spot? at_
  · rw [run] at ok
    cases ok

/-- A failed compilation leaves nothing begun that was not before. -/
theorem startedAt_of_compile_error (settled : s.Settled K) (k : ∀ id, K id compiler)
    {error : SchemaError} (fails : (compiler.compile id s).1 = .error error) {spot : Spot}
    (started : (compiler.compile id s).2.1.StartedAt spot) : s.StartedAt spot := by
  rcases compile_cases settled k id with ⟨c, run, -⟩ | ⟨e, c, run, good⟩
  · rw [run] at fails
    cases fails
  · rw [run] at started
    obtain ⟨j, e', found', rfl, begun⟩ := Store.startedAt_iff.1 started
    obtain ⟨-, -, -, -, -, entries⟩ := rollback_spec settled good id
    rw [entries] at found'
    obtain ⟨e, found, rfl⟩ := Option.map_eq_some_iff.1 found'
    by_cases mine : j ∈ c.started
    · rw [if_pos mine] at begun
      have idle : (if decide (j = id) = true then Progress.failed else .notStarted).isStarted =
          false := by split <;> rfl
      exact absurd (begun.symm.trans idle) (by decide)
    · rw [if_neg mine] at begun ⊢
      exact .of_entry found begun

end Compiler

/-! ## One request -/

namespace RegistryM

variable {α β : Type} {m : RegistryM α} {answer : Validator → α} {r : Registry} {id : EntryId}
  {s : Store}

/-- The outcome of an operation is that of the compilation of an entry in a store. -/
structure Answers (m : RegistryM α) (answer : Validator → α) (r : Registry) (id : EntryId)
    (s : Store) : Prop where
  ok : (r.compiler.compile id s).1 = .ok () → ∃ r', m r = .ok (answer (r'.validator id)) r' ∧
    r'.compiler = r.compiler ∧ r'.store = (r.compiler.compile id s).2.1
  error : ∀ e, (r.compiler.compile id s).1 = .error e → ∃ r', m r = .error e r' ∧
    r'.compiler = r.compiler ∧
    ∀ spot, r'.store.StartedAt spot → (r.compiler.compile id s).2.1.StartedAt spot

namespace Answers

theorem map (h : m.Answers answer r id s) (f : α → β) :
    (f <$> m).Answers (fun v => f (answer v)) r id s where
  ok compiled := by
    obtain ⟨r', run, same⟩ := h.ok compiled
    exact ⟨r', by rw [map_eq_pure_bind, bind_ok run]; rfl, same⟩
  error e failed := by
    obtain ⟨r', run, same⟩ := h.error e failed
    exact ⟨r', by rw [map_eq_pure_bind, bind_error run], same⟩

/-- What is undone begins nothing. -/
theorem orElseUndo (h : m.Answers answer r id s) {undo : RegistryM Unit}
    (undoes : ∀ r, ∃ r', undo r = .ok () r' ∧ r'.compiler = r.compiler ∧
      ∀ spot, r'.store.StartedAt spot → r.store.StartedAt spot) :
    (Registry.orElseUndo m undo).Answers answer r id s where
  ok compiled := by
    obtain ⟨r', run, same⟩ := h.ok compiled
    refine ⟨r', ?_, same⟩
    show EStateM.tryCatch m _ r = _
    rw [EStateM.tryCatch, run]
  error e failed := by
    obtain ⟨r', run, compiler, fewer⟩ := h.error e failed
    obtain ⟨r'', undone, same, fewer'⟩ := undoes r'
    refine ⟨r'', ?_, same.trans compiler, fun spot started => fewer spot (fewer' spot started)⟩
    show EStateM.tryCatch m _ r = _
    rw [EStateM.tryCatch, run]
    show (undo >>= fun _ => (MonadExcept.throw e : RegistryM α)) r' = _
    rw [bind_ok undone]
    rfl

/-- An operation that puts another store in place first. -/
theorem of_run {m' : RegistryM α} {t : Store}
    (h : m'.Answers answer { r with store := t } id s) (run : m r = m' { r with store := t }) :
    m.Answers answer r id s where
  ok compiled := by
    rw [run]
    exact h.ok compiled
  error e failed := by
    rw [run]
    exact h.error e failed

end Answers

end RegistryM

namespace Registry

open RegistryM (Answers)

variable {r r' origin : Registry} {id : EntryId} {name : String}

/-- Compiling an entry, with what is compiled already. -/
theorem compileEntry_answers (r : Registry) (id : EntryId) :
    (compileEntry id).Answers (fun v => v) r id r.store := by
  by_cases compiled : r.isCompiled id = true
  · have run : r.compiler.compile id r.store = (.ok (), r.store, []) :=
      Compiler.compile_of_started (isStarted_of_isCompiled compiled)
    refine ⟨fun _ => ⟨r, ?_, rfl, by rw [run]⟩, fun e failed => ?_⟩
    · unfold compileEntry
      rw [RegistryM.get_bind, if_pos compiled]
      rfl
    · rw [run] at failed
      cases failed
  · cases outcome : r.compiler.compile id r.store with
    | mk result rest =>
      obtain ⟨t, events⟩ := rest
      have run : compileEntry id r = (do lift result; return (← get).validator id : RegistryM _)
          { r with store := t, events := r.events ++ events } := by
        unfold compileEntry
        rw [RegistryM.get_bind, if_neg compiled, outcome]
        rfl
      refine ⟨fun ok => ?_, fun e error => ?_⟩
      · rw [outcome] at ok ⊢
        cases ok
        exact ⟨_, run, rfl, rfl⟩
      · rw [outcome] at error ⊢
        cases error
        exact ⟨_, run, rfl, fun _ started => started⟩

/-- A request for a document, or for a part of one. -/
theorem getSchema_run (r : Registry) (name : String) :
    getSchema name r =
      match r.store.asked name with
      | .entry id => (some <$> compileEntry id) r
      | .fragment root base pointer part =>
        let (id, isNew, store) := r.store.fragment root base pointer part
        (some <$> orElseUndo (compileEntry id)
          (if isNew then updateStore (·.remove id) else pure ())) { r with store }
      | .missing => .ok none r := by
  unfold getSchema Store.asked
  rw [RegistryM.get_bind]
  cases direct : r.store.lookup (normalizeId name) with
  | some id => simp only
  | none =>
    simp only
    cases owner : r.store.lookup (documentPart (normalizeId name)) with
    | none => rfl
    | some source =>
      simp only [Option.map_some]
      cases r.store.resolve source (normalizeId name) <;> rfl

/-- A request compiles an entry at the spot of what is asked for, or that is nothing. -/
theorem getSchema_cases (good : r.Good K) (name : String) :
    ((r.store.asked name).spot? = none ∧ getSchema name r = .ok none r) ∨
    ∃ id s spot, (r.store.asked name).spot? = some spot ∧ s.spot? id = some spot ∧ s.Settled K ∧
      r.store.Spares s ∧ (∀ spot, s.StartedAt spot → r.store.StartedAt spot) ∧
      (getSchema name).Answers some r id s := by
  have run := getSchema_run r name
  have linked := good.settled.linked
  -- a whole document needs no preparation
  have whole {id : EntryId} {e : Entry} (asks : r.store.asked name = .entry id)
      (found : r.store.entry? id = some e) (doc : e.pointer = "") :
      ∃ id s spot, (r.store.asked name).spot? = some spot ∧ s.spot? id = some spot ∧ s.Settled K ∧
        r.store.Spares s ∧ (∀ spot, s.StartedAt spot → r.store.StartedAt spot) ∧
        (getSchema name).Answers some r id s := by
    rw [asks] at run
    refine ⟨id, r.store, (id, ""), by rw [asks]; rfl, ?_, good.settled, .refl _,
      fun _ started => started, ((compileEntry_answers r id).map some).of_run run⟩
    rw [Store.spot?_eq found, Entry.spot, linked.document_root found doc, doc]
  cases direct : r.store.lookup (normalizeId name) with
  | some id =>
    obtain ⟨e, found, doc⟩ := linked.lookup_document direct
    exact .inr (whole (by rw [Store.asked, direct]) found doc)
  | none =>
    cases owner : r.store.lookup (documentPart (normalizeId name)) with
    | none =>
      have asks : r.store.asked name = .missing := by simp only [Store.asked, direct, owner]
      rw [asks] at run ⊢
      exact .inl ⟨rfl, run⟩
    | some source =>
      have asks : r.store.asked name = r.store.resolve source (normalizeId name) := by
        simp only [Store.asked, direct, owner]
      cases leads : r.store.resolve source (normalizeId name) with
      | missing =>
        rw [asks, leads] at run ⊢
        exact .inl ⟨rfl, run⟩
      | entry id =>
        obtain ⟨e, found, doc⟩ := (Store.resolve_eq_entry_iff.1 leads).document linked
        exact .inr (whole (asks.trans leads) found doc)
      | fragment root base pointer part =>
        obtain ⟨reaches, nonempty, cuts⟩ := Store.resolve_eq_fragment_iff.1 leads
        obtain ⟨d, foundD, doc⟩ := reaches.document linked
        obtain ⟨at_, fewer⟩ := good.settled.fragment_spot foundD doc nonempty cuts
        obtain ⟨id, isNew, s, eq, settled, spares, -⟩ :=
          good.settled.fragment_spares foundD doc nonempty cuts
        rw [asks, leads] at run ⊢
        rw [eq] at at_ fewer
        simp only [eq] at run
        refine .inr ⟨id, s, (root, pointer), rfl, at_, settled, spares, fewer, ?_⟩
        refine (((compileEntry_answers { r with store := s } id).orElseUndo ?_).map some).of_run run
        intro r
        cases isNew with
        | true => exact ⟨_, rfl, rfl, fun _ started => Store.startedAt_of_remove started⟩
        | false => exact ⟨r, rfl, rfl, fun _ started => started⟩

/-! ## Many requests -/

/-- A registry that was reached by requests: what was begun since was compiled without a fault. -/
structure Follows (K : EntryId → Compiler → Prop) (origin r : Registry) : Prop where
  good : r.Good K
  compiler : r.compiler = origin.compiler
  spares : origin.store.Spares r.store
  begun : ∃ clean, origin.compiler.Clean K (.sharing origin.store) clean ∧
    ∀ spot, r.store.StartedAt spot → origin.store.StartedAt spot ∨ clean spot

namespace Follows

theorem refl (good : origin.Good K) : Follows K origin origin :=
  ⟨good, rfl, .refl _, _, Compiler.clean_empty, fun _ => .inl⟩

variable (goodOrigin : origin.Good K) (builtin : origin.vocabulary.IsBuiltin)

include goodOrigin builtin

/-- A request keeps what holds after requests. -/
theorem get (h : Follows K origin r) (name : String) :
    Follows K origin ((getSchema name).after r) := by
  have undoes := getSchema_undoes h.good name
  rcases getSchema_cases h.good name with ⟨-, run⟩ | ⟨id, s, spot, -, -, settled, spares, fewer, answers⟩
  · rw [RegistryM.after, run]
    exact h
  · obtain ⟨clean, cleans, covers⟩ := h.begun
    have known (spot : Spot) (started : s.StartedAt spot) := covers spot (fewer spot started)
    cases outcome : (r.compiler.compile id s).1 with
    | ok u =>
      obtain ⟨r', run, compiler, store⟩ := answers.ok outcome
      rw [RegistryM.after, run]
      have spared := spares.trans (Compiler.compile_spares settled h.good.current id)
      rw [← store] at spared
      refine ⟨(undoes.of_ok run).1, compiler.trans h.compiler, h.spares.trans spared, ?_⟩
      obtain ⟨d, ran, left⟩ := Compiler.entry_of_compile_ok outcome
      rw [h.compiler] at ran
      refine ⟨_, cleans.extend goodOrigin.current builtin (View.sharing_isFair goodOrigin.settled)
        settled (h.spares.trans spares) known ran, fun at_ started => ?_⟩
      rw [store, left] at started
      exact .inr (.inr ⟨at_, started, rfl⟩)
    | error e =>
      obtain ⟨r', run, compiler, left⟩ := answers.error e outcome
      rw [RegistryM.after, run]
      obtain ⟨good, spared⟩ := undoes.of_error run
      refine ⟨good, compiler.trans h.compiler, h.spares.trans spared, clean, cleans,
        fun at_ started => known at_ ?_⟩
      exact Compiler.startedAt_of_compile_error settled h.good.current outcome (left at_ started)

/-- Any number of requests. -/
theorem run (h : Follows K origin r) (names : List String) :
    Follows K origin (r.run (names.map .get)) := by
  induction names generalizing r with
  | nil => exact h
  | cons name rest ih => exact ih (h.get goodOrigin builtin name)

/-- After any requests the compilation of what is at a spot ends in the same way. -/
theorem compile_eq (h : Follows K origin r) (h' : Follows K origin r') {id' : EntryId}
    {s s' : Store} {spot : Spot} (settled : s.Settled K) (settled' : s'.Settled K)
    (spares : r.store.Spares s) (spares' : r'.store.Spares s')
    (fewer : ∀ spot, s.StartedAt spot → r.store.StartedAt spot)
    (fewer' : ∀ spot, s'.StartedAt spot → r'.store.StartedAt spot)
    (at_ : s.spot? id = some spot) (at' : s'.spot? id' = some spot) :
    (origin.compiler.compile id s).1 = (origin.compiler.compile id' s').1 := by
  obtain ⟨clean, cleans, covers⟩ := h.begun
  obtain ⟨clean', cleans', covers'⟩ := h'.begun
  have k := goodOrigin.current
  have spares := h.spares.trans spares
  have spares' := h'.spares.trans spares'
  refine Compiler.compile_abreast k builtin (cleans.union cleans') settled settled' spares spares'
    ⟨fun at_ started => ?_, fun at_ started => ?_⟩ (.of_spot at_ at')
    (Compiler.compile_shallow settled k builtin id) (Compiler.compile_shallow settled' k builtin id')
  · exact (covers at_ (fewer at_ started)).imp (goodOrigin.settled.spared_startedAt spares') .inl
  · exact (covers' at_ (fewer' at_ started)).imp (goodOrigin.settled.spared_startedAt spares) .inr

end Follows

end Registry

end JsonSchema
