import JsonSchema.Proofs.Order.Comparison

/-!
# Steps of a compilation

What following a reference, beginning an entry and finishing it change of the progress at spots.

* `Compilation.Looks`: a step that begins and finishes nothing.
* `Compiler.resolve_cases`: following a reference.
* `Compiler.entry_cases`: compiling an entry.
* `Compiler.schema_evolves`: a compilation only adds to what was there.
-/

namespace JsonSchema

open Compilation (Good Leads Advances)

variable {K : EntryId → Compiler → Prop} {origin : Store} {c c' : Compilation}

namespace Compilation

/-! ## Looking -/

/-- A step that begins and finishes nothing. It may make fragments. -/
structure Looks (c c' : Compilation) : Prop where
  started : c'.started = c.started
  stays : ∀ id e, c.store.entry? id = some e → ∃ e', c'.store.entry? id = some e' ∧
    e'.reset = e.reset ∧ e'.progress.isStarted = e.progress.isStarted ∧
    e'.progress.isPending = e.progress.isPending
  adds : ∀ id e', c'.store.entry? id = some e' →
    (∃ e, c.store.entry? id = some e) ∨ e'.progress.isStarted = false

namespace Looks

theorem refl (c : Compilation) : Looks c c where
  started := rfl
  stays _ e found := ⟨e, found, rfl, rfl, rfl⟩
  adds _ e found := .inl ⟨e, found⟩

theorem trans {c'' : Compilation} (h : Looks c c') (h' : Looks c' c'') : Looks c c'' where
  started := h'.started.trans h.started
  stays id e found := by
    obtain ⟨e', found', reset, started, pending⟩ := h.stays id e found
    obtain ⟨e'', found'', reset', started', pending'⟩ := h'.stays id e' found'
    exact ⟨e'', found'', reset'.trans reset, started'.trans started, pending'.trans pending⟩
  adds id e'' found'' := by
    rcases h'.adds id e'' found'' with ⟨e', found'⟩ | idle
    · refine (h.adds id e' found').imp_right fun idle => ?_
      obtain ⟨f, foundF, -, started, -⟩ := h'.stays id e' found'
      cases found''.symm.trans foundF
      exact started.trans idle
    · exact .inr idle

/-- A change of an entry that keeps whether it has begun and whether it is over. -/
theorem modify (c : Compilation) (id : EntryId) {change : Entry → Entry}
    (reset : ∀ e, (change e).reset = e.reset)
    (started : ∀ e, (change e).progress.isStarted = e.progress.isStarted)
    (pending : ∀ e, (change e).progress.isPending = e.progress.isPending) :
    Looks c { c with store := c.store.modify id change } where
  started := rfl
  stays j e found := by
    by_cases h : j = id
    · subst h
      exact ⟨change e, by rw [Store.entry?_modify_self, found]; rfl, reset e, started e, pending e⟩
    · exact ⟨e, by rw [Store.entry?_modify_of_ne h]; exact found, rfl, rfl, rfl⟩
  adds j e' found' := by
    left
    have found' : Store.entry? (c.store.modify id change) j = some e' := found'
    rw [Store.entry?_modify] at found'
    split at found'
    · obtain ⟨e, found, -⟩ := Option.map_eq_some_iff.1 found'
      exact ⟨e, found⟩
    · exact ⟨e', found'⟩

theorem remember (c : Compilation) (source : EntryId) (reference : String) (target : EntryId) :
    Looks c (c.remember source reference target) := by
  refine modify c source (fun e => e.remember_reset reference target) (fun e => ?_) fun e => ?_ <;>
    unfold Entry.remember <;> cases h : e.progress <;> simp only [h] <;> rfl

/-- Making a fragment. -/
theorem fragment (c : Compilation) (root : EntryId) (base pointer : String) (part : Value)
    (created : List EntryId) :
    Looks c { c with store := (c.store.fragment root base pointer part).2.2, created } := by
  unfold Store.fragment
  split
  · exact { refl c with }
  · have at_ := Store.entry?_insert c.store fun _ : EntryId =>
      ({ id := base, document := part, isMeta := ((c.store.entry? root).map (·.isMeta)).getD false
         root := root, pointer := pointer } : Entry)
    refine ⟨rfl, fun id e found => ⟨e, ?_, rfl, rfl, rfl⟩, fun id e' found' => ?_⟩
    · refine (at_ id).trans ?_
      rw [if_neg, found]
      rintro rfl
      rw [Store.entry?_next] at found
      cases found
    · have found' := (at_ id).symm.trans found'
      split at found'
      · cases found'
        exact .inr rfl
      · exact .inl ⟨e', found'⟩

section Spots

variable (looks : Looks c c')

include looks

theorem evolves : c.store.Evolves c'.store := by
  intro id e found
  obtain ⟨e', found', reset, started, -⟩ := looks.stays id e found
  exact ⟨e', found', (congrArg Entry.spot reset :), fun h => started.trans h⟩

theorem startedAt_iff {spot : Spot} :
    c'.store.StartedAt spot ↔ c.store.StartedAt spot := by
  refine ⟨fun h => ?_, looks.evolves.startedAt⟩
  obtain ⟨id, e', found', rfl, started⟩ := Store.startedAt_iff.1 h
  rcases looks.adds id e' found' with ⟨e, found⟩ | idle
  · obtain ⟨f, foundF, reset, same, -⟩ := looks.stays id e found
    cases found'.symm.trans foundF
    exact Store.startedAt_iff.2 ⟨id, e, found, (congrArg Entry.spot reset.symm :), same ▸ started⟩
  · rw [idle] at started
    cases started

theorem active {id : EntryId} (active : c.Active id) : c'.Active id := by
  obtain ⟨e, found, pending⟩ := active
  obtain ⟨e', found', -, -, same⟩ := looks.stays id e found
  exact ⟨e', found', same.trans pending⟩

end Spots

end Looks

end Compilation

/-! ## Following references -/

namespace Compiler

open Compilation (Looks refsOf_eq)

/-- Following a reference: it was followed before, or the store is asked what it denotes. -/
theorem resolve_run (source : EntryId) (base reference : String) (c : Compilation) :
    resolve source base reference c =
      let absolute := resolveUrl base reference
      match ((c.store.entry? source).bind (·.refs.find? absolute)).filter c.store.isLive with
      | some target => .ok (target, absolute) c
      | none =>
        match c.store.resolve source absolute with
        | .missing => .error (.missing absolute (documentPart absolute)) c
        | .entry target => .ok (target, absolute) (c.remember source absolute target)
        | .fragment root inner pointer part =>
          let (target, isNew, store) := c.store.fragment root inner pointer part
          let created := if isNew then target :: c.created else c.created
          let made : Compilation := { c with store, created }
          .ok (target, absolute) (made.remember source absolute target) := by
  unfold resolve
  refine (CompileM.get_bind _ c).trans ?_
  dsimp only
  cases ((c.store.entry? source).bind (·.refs.find? (resolveUrl base reference))).filter
      c.store.isLive with
  | some target => rfl
  | none => cases c.store.resolve source (resolveUrl base reference) <;> rfl

/-- Following a reference either finds nothing, or leads to the entry that it denotes. -/
theorem resolve_looks (source : EntryId) (base reference : String) (c : Compilation) :
    (c.store.resolve source (resolveUrl base reference) = .missing ∧
      resolve source base reference c =
        .error (.missing (resolveUrl base reference) (documentPart (resolveUrl base reference))) c) ∨
    ∃ target c', resolve source base reference c = .ok (target, resolveUrl base reference) c' ∧
      Looks c c' := by
  rw [resolve_run]
  dsimp only
  split
  · next target _ => exact .inr ⟨target, c, rfl, .refl c⟩
  · split
    · next missing => exact .inl ⟨missing, rfl⟩
    · next target _ => exact .inr ⟨target, _, rfl, .remember _ _ _ _⟩
    · next root inner pointer part _ =>
      exact .inr ⟨_, _, rfl, (Looks.fragment c _ _ _ _ _).trans (.remember _ _ _ _)⟩

/-- Following a reference of an entry that is being compiled. -/
theorem resolve_cases (good : Good K origin c) {source : EntryId} (active : c.Active source)
    (base reference : String) :
    (c.store.resolve source (resolveUrl base reference) = .missing ∧
      resolve source base reference c =
        .error (.missing (resolveUrl base reference) (documentPart (resolveUrl base reference))) c) ∨
    ∃ target c', resolve source base reference c = .ok (target, resolveUrl base reference) c' ∧
      Good K origin c' ∧ Looks c c' ∧
      c'.store.Denotes source (resolveUrl base reference) target := by
  refine (resolve_looks source base reference c).imp_right ?_
  rintro ⟨target, c', run, looks⟩
  have spec := resolve_spec good active base reference
  rw [run] at spec
  obtain ⟨good', -, -, followed⟩ := spec
  obtain ⟨e, found, -⟩ := looks.active active
  rw [refsOf_eq found] at followed
  have denotes := good'.sound.current source e found (resolveUrl base reference, target)
    (Bindings.mem_of_find? followed)
  exact ⟨target, c', run, good', looks, denotes⟩

theorem resolve_evolves (source : EntryId) (base reference : String) :
    (resolve source base reference).Evolves := by
  intro c a d ok
  rcases resolve_looks source base reference c with ⟨-, run⟩ | ⟨target, c', run, looks⟩
  · rw [run] at ok
    cases ok
  · rw [run] at ok
    cases ok
    exact looks.evolves

/-! ## Entries -/

/-- Compiling an entry: it is not there, or nothing is left to do, or its document is compiled. -/
theorem entry_run (schema : SchemaCompiler) (id : EntryId) (underMeta : Bool) (c : Compilation) :
    entry schema id underMeta c =
      match c.store.entry? id with
      | none => .error (.malformed (.vanished id.text)) c
      | some e =>
        if e.progress.isStarted then .ok () c
        else
          match schema e.document (e.place id underMeta) (begun c id) with
          | .ok node d => .ok () (finished d id node)
          | .error error d => .error error d := by
  unfold entry
  refine (CompileM.get_bind _ c).trans ?_
  cases c.store.entry? id with
  | none => rfl
  | some e =>
    cases started : e.progress.isStarted with
    | true =>
      simp only [started]
      rfl
    | false =>
      simp only [started]
      show (do
        modify fun c => begun c id
        let compiled ← schema e.document (e.place id underMeta)
        modify fun c => finished c id compiled : CompileM Unit) c = _
      rw [CompileM.modify_bind]
      cases run : schema e.document (e.place id underMeta) (begun c id) with
      | error error d => rw [CompileM.bind_error run]; rfl
      | ok node d => rw [CompileM.bind_ok run]; rfl

section Entry

variable {schema : SchemaCompiler} {id : EntryId} {underMeta : Bool} {e : Entry}

theorem entry_of_started (found : c.store.entry? id = some e) (started : e.progress.isStarted = true) :
    entry schema id underMeta c = .ok () c := by
  rw [entry_run, found]
  simp only [started, if_true]

theorem entry_of_idle (found : c.store.entry? id = some e) (idle : e.progress.isStarted = false) :
    entry schema id underMeta c =
      match schema e.document (e.place id underMeta) (begun c id) with
      | .ok node d => .ok () (finished d id node)
      | .error error d => .error error d := by
  rw [entry_run, found]
  simp only [idle, Bool.false_eq_true, if_false]

theorem entry_of_missing (missing : c.store.entry? id = none) :
    entry schema id underMeta c = .error (.malformed (.vanished id.text)) c := by
  rw [entry_run, missing]

end Entry

theorem startedAt_begun {id : EntryId} {spot : Spot} :
    (begun c id).store.StartedAt spot ↔ c.store.StartedAt spot ∨ c.store.spot? id = some spot := by
  show (c.store.modify id Entry.begin).StartedAt spot ↔ _
  refine Store.startedAt_modify ?_ ?_ <;> exact fun _ => rfl

theorem startedAt_finished {id : EntryId} {node : Node} {spot : Spot} :
    (finished c id node).store.StartedAt spot ↔
      c.store.StartedAt spot ∨ c.store.spot? id = some spot := by
  show (c.store.modify id (·.finish node)).StartedAt spot ↔ _
  refine Store.startedAt_modify ?_ ?_ <;> exact fun _ => rfl

theorem begun_evolves (c : Compilation) (id : EntryId) : c.store.Evolves (begun c id).store :=
  .modify c.store id (fun _ => rfl) fun _ _ => rfl

theorem finished_evolves (d : Compilation) (id : EntryId) (node : Node) :
    d.store.Evolves (finished d id node).store :=
  .modify d.store id (fun _ => rfl) fun _ _ => rfl

theorem entry_evolves {schema : SchemaCompiler}
    (evolves : ∀ value place, (schema value place).Evolves) (id : EntryId) (underMeta : Bool) :
    (entry schema id underMeta).Evolves := by
  intro c a d ok
  cases found : c.store.entry? id with
  | none =>
    rw [entry_of_missing found] at ok
    cases ok
  | some e =>
    cases idle : e.progress.isStarted with
    | true =>
      rw [entry_of_started found idle] at ok
      cases ok
      exact .refl _
    | false =>
      rw [entry_of_idle found idle] at ok
      cases run : schema e.document (e.place id underMeta) (begun c id) with
      | error error d' =>
        rw [run] at ok
        cases ok
      | ok node d' =>
        rw [run] at ok
        cases ok
        exact (begun_evolves c id).trans ((evolves _ _ _ _ _ run).trans (finished_evolves d' id node))

/-- The end of following a reference: a synchronous document must not have led to an asynchronous
    one. -/
def arrive (place : Place) (found : EntryId × String) : CompileM Node := do
  let store := (← get).store
  if store.isAsync found.1 && !store.isAsync place.entry then
    throw (.compilation "$ref" (.asyncTarget found.2))
  return .ref found.1 found.2

/-- Following a reference, compiling what it denotes, and arriving there. -/
theorem reference_eq (begin : EntryId → Bool → CompileM Unit) (text : String) (place : Place) :
    reference begin (.string text) place =
      resolve place.entry place.base text >>= fun found =>
        begin found.1 place.underMeta >>= fun _ => arrive place found := rfl

theorem arrive_run (place : Place) (found : EntryId × String) (c : Compilation) :
    arrive place found c =
      if c.store.isAsync found.1 && !c.store.isAsync place.entry then
        .error (.compilation "$ref" (.asyncTarget found.2)) c
      else .ok (.ref found.1 found.2) c := by
  refine (CompileM.get_bind _ c).trans ?_
  simp only
  split <;> rfl

theorem arrive_evolves (place : Place) (found : EntryId × String) : (arrive place found).Evolves := by
  intro c a d ok
  rw [arrive_run] at ok
  split at ok
  · cases ok
  · cases ok
    exact .refl _

theorem reference_evolves {begin : EntryId → Bool → CompileM Unit}
    (evolves : ∀ id underMeta, (begin id underMeta).Evolves) (value : Value) (place : Place) :
    (reference begin value place).Evolves := by
  cases value with
  | string text =>
    rw [reference_eq]
    exact .bind (resolve_evolves _ _ _) fun found =>
      .bind (evolves _ _) fun _ => arrive_evolves place found
  | _ => exact fun _ _ _ ok => by cases ok

end Compiler

/-- The comparison of compilations of which nothing is known. -/
def Comparison.vacuous : Comparison where
  meets _ _ := False
  within _ := True
  together _ _ := True
  first _ := True
  second _ := True
  same _ _ := trivial
  of_first _ _ _ := trivial
  of_second _ _ _ := trivial
  lax := .inl fun _ => trivial

namespace Compiler

/-- A compilation of a schema only adds to what was there. -/
theorem schema_evolves {compiler : Compiler} (builtin : compiler.vocabulary.IsBuiltin) (fuel : Nat)
    (value : Value) (place : Place) : (compiler.schema fuel value place).Evolves := by
  suffices Compares .vacuous (compiler.schema fuel value place) (compiler.schema fuel value place) from
    this.1
  induction fuel generalizing value place with
  | zero => exact ⟨fun c a d ok => (by cases ok), fun _ _ meets => meets.elim⟩
  | succ fuel ih =>
    refine compares_node builtin ⟨rfl, rfl, rfl⟩ (fun members _ part p p' _ _ _ places => ?_)
      fun members text _ _ => ⟨?_, fun _ _ meets => meets.elim⟩
    · exact ⟨(ih part p).1, fun _ _ meets => meets.elim⟩
    · exact reference_evolves (entry_evolves fun value place => (ih value place).1) _ _

end Compiler

end JsonSchema
