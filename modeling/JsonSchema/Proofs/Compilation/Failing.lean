import JsonSchema.Proofs.Compilation.Moves
import JsonSchema.Proofs.Compilation.Rollback

/-!
# Compilations that fail

A compilation that fails leaves the store as it was: nothing more is asked of the store than that it
is consistent, and nothing of the keywords.

* `Compilation.Moves.tracks`: every step of a compilation is recorded, so that it can be taken back.
* `Compiler.began`: the entries that a compilation begins.
* `Compiler.compile_restores`: the store after a failed compilation.
-/

namespace JsonSchema

/-! ## What is recorded -/

namespace Compilation

variable {asked : String → Prop} {origin : Store} {c c' : Compilation}

/-- Changing an entry loses no fragment. -/
theorem isBound_modify (bound : c.store.IsBound) (id : EntryId) (change : Entry → Entry) :
    (c.store.modify id change).IsBound := by
  intro b mem
  obtain ⟨e, found⟩ := Store.isLive_iff.1 (bound b mem)
  rw [Store.isLive, Store.entry?_modify, found]
  split <;> rfl

/-- A step of a compilation is recorded. -/
theorem Move.tracks (move : Move asked c c') (tracks : c.Tracks origin) (bound : c.store.IsBound) :
    c'.Tracks origin ∧ c'.store.IsBound := by
  cases move with
  | trace => exact ⟨{ tracks with }, bound⟩
  | @cut source root reference inner pointer part _ _ leads =>
    obtain ⟨-, -, d, -, foundD, -⟩ := Store.resolve_eq_fragment_iff.1 leads
    cases known : c.store.fragments.find? (root, pointer) with
    | some id =>
      have live := bound _ (Bindings.mem_of_find? known)
      rw [Compilation.cut, Store.fragment_of_bound known live]
      exact ⟨{ tracks with }, bound⟩
    | none =>
      rw [Compilation.cut, Store.fragment_of_unbound known foundD]
      refine ⟨tracks.insertFragment known, fun b mem => ?_⟩
      rcases Bindings.mem_bind mem with rfl | old
      · rw [Store.isLive, Store.entry?_insertFragment, if_pos rfl]
        rfl
      · obtain ⟨e, found⟩ := Store.isLive_iff.1 (bound b old)
        exact Store.isLive_of_entry (Store.entry?_insertFragment_of_some found)
  | remember begun reference target =>
    exact ⟨tracks.modify begun fun e => e.remember_reset reference target, isBound_modify bound _ _⟩
  | begin found idle => exact ⟨tracks.begin found idle, isBound_modify bound _ _⟩
  | finish begun node =>
    exact ⟨tracks.modify begun fun e => e.finish_reset node, isBound_modify bound _ _⟩

theorem Moves.tracks (moves : Moves asked c c') (tracks : c.Tracks origin) (bound : c.store.IsBound) :
    c'.Tracks origin ∧ c'.store.IsBound := by
  induction moves with
  | refl => exact ⟨tracks, bound⟩
  | tail _ move ih => exact move.tracks ih.1 ih.2

end Compilation

/-! ## After a failure -/

/-- How far the compilation of an entry is after a compilation failed. The entry that was `asked` for
    is marked, and the mark of another one is taken back if it was begun `again`. -/
def Progress.afterFailure (asked again : Bool) (progress : Progress) : Progress :=
  if asked then .failed
  else
    match progress with
    | .failed => if again then .notStarted else .failed
    | other => other

/-- The entry after a compilation failed. -/
def Entry.afterFailure (asked again : Bool) (entry : Entry) : Entry :=
  { entry with progress := entry.progress.afterFailure asked again }

theorem Entry.giveUp_eq {e : Entry} (idle : e.progress.isStarted = false) (asked : Bool) :
    e.giveUp asked = e.afterFailure asked true := by
  unfold giveUp afterFailure Progress.afterFailure
  cases asked with
  | true => rfl
  | false => cases p : e.progress <;> rw [p] at idle <;> first | rfl | cases idle

theorem Entry.afterFailure_false (e : Entry) : e.afterFailure false false = e := by
  obtain ⟨_, _, _, _, _, _, _, _, progress⟩ := e
  cases progress <;> rfl

/-- What was not compiled has no compiled schema and refers to nothing, before and after. -/
theorem Progress.afterFailure_eq {progress : Progress} {asked : Bool} (again : Bool)
    (idle : asked = true → progress.isStarted = false) :
    (progress.afterFailure asked again).node? = progress.node? ∧
      (progress.afterFailure asked again).refs = progress.refs := by
  cases asked with
  | true =>
    have idle := idle rfl
    cases progress <;> first | exact ⟨rfl, rfl⟩ | cases idle
  | false => cases progress <;> cases again <;> exact ⟨rfl, rfl⟩

/-- Places that were used up hold nothing. -/
theorem Store.live_eq {s s' : Store} (same : ∀ id, s'.isLive id = s.isLive id)
    (size : s.entries.size ≤ s'.entries.size) : s'.live = s.live := by
  obtain ⟨more, eq⟩ := Nat.exists_eq_add_of_le size
  have later : ∀ id ∈ ((List.range more).map (s.entries.size + ·)).map EntryId.mk,
      ¬ s.isLive id = true := by
    simp only [List.map_map, List.mem_map, Function.comp_apply, forall_exists_index, and_imp]
    rintro id i - rfl live
    obtain ⟨e, found⟩ := isLive_iff.1 live
    have : s.entries.size + i < s.entries.size := index_lt_size found
    omega
  rw [live, live, eq, List.range_add, List.map_append, List.filter_append, funext same,
    List.filter_eq_nil_iff.2 later, List.append_nil]

namespace Compiler

/-- The entries that a compilation of an entry begins. -/
def began (compiler : Compiler) (id : EntryId) (store : Store) : List EntryId :=
  match entry (compiler.schema (depthOf store)) id false { store } with
  | .ok _ c => c.started
  | .error _ c => c.started

variable {compiler : Compiler} {id : EntryId} {s : Store} {error : SchemaError}

/-- What is asked for and is there is begun, if its compilation fails. -/
theorem mem_started_of_error {schema : SchemaCompiler} {c : Compilation}
    (moves : ∀ value place c c', place.entry ∈ c.started → (schema value place).Ends c c' →
      Compilation.Moves (fun _ => True) c c') (live : s.isLive id = true)
    (run : entry schema id false { store := s } = .error error c) : id ∈ c.started := by
  obtain ⟨e, found⟩ := Store.isLive_iff.1 live
  cases idle : e.progress.isStarted with
  | true =>
    rw [entry_of_started (c := { store := s }) found idle] at run
    cases run
  | false =>
    rw [entry_of_idle (c := { store := s }) found idle] at run
    have own : id ∈ (begun { store := s } id).started := List.mem_cons_self
    cases inner : schema e.document (e.place id false) (begun { store := s } id) with
    | ok node d =>
      rw [inner] at run
      cases run
    | error fault d =>
      rw [inner] at run
      cases run
      exact (moves _ _ _ _ own (.inr ⟨_, inner⟩)).mem_started own

/-- A compilation that fails leaves the entries that there are, the tables and the compiled schemas
    as they were, and of every entry everything but how far its compilation is: the one that was asked
    for is marked, and the mark of another one is taken back if it was begun again. -/
theorem compile_restores (consistent : s.Consistent) (live : s.isLive id = true)
    (failed : (compiler.compile id s).1 = .error error) :
    (compiler.compile id s).2.1.live = s.live ∧
      (compiler.compile id s).2.1.schemas = s.schemas ∧
      (compiler.compile id s).2.1.refs = s.refs ∧
      (compiler.compile id s).2.1.fragments = s.fragments ∧
      (compiler.compile id s).2.1.cache = s.cache ∧
      (compiler.compile id s).2.1.slots = s.slots ∧
      (∀ j, (Store.entry? (compiler.compile id s).2.1 j).map Entry.refs =
        (s.entry? j).map Entry.refs) ∧
      ∀ j, Store.entry? (compiler.compile id s).2.1 j =
        (s.entry? j).map (·.afterFailure (j = id) (j ∈ compiler.began id s)) := by
  have hears := Hears.all compiler
  cases run : entry (compiler.schema (depthOf s)) id false { store := s } with
  | ok u c =>
    rw [compile, EStateM.run, run] at failed
    cases failed
  | error e c =>
    have after : (compiler.compile id s).2.1 = rollback id c := by rw [compile, EStateM.run, run]
    have began_ : compiler.began id s = c.started := by rw [began, run]
    have own : id ∈ c.started := mem_started_of_error
      (fun value place c c' begun => schema_travels hears _ value place trivial c c' begun trivial)
      live run
    have start : Compilation.Tracks s { store := s } := .start consistent.idle
    obtain ⟨tracks, bound⟩ := (entry_moves hears trivial _ id false
      (.inr ⟨e, run⟩)).tracks start consistent.isBound
    obtain ⟨schemas, refs, fragments, cache, size, entries⟩ :=
      rollback_restores consistent tracks bound id
    rw [after, began_]
    have entry_ : ∀ j, Store.entry? (rollback id c) j =
        (s.entry? j).map (·.afterFailure (j = id) (j ∈ c.started)) := by
      intro j
      rw [entries]
      cases found : s.entry? j with
      | none => rfl
      | some e =>
        by_cases begun : j ∈ c.started
        · rw [Option.map_some, Option.map_some, if_pos begun, decide_eq_true begun,
            Entry.giveUp_eq (tracks.begun j begun e found)]
        · have other : j ≠ id := fun same => begun (same ▸ own)
          rw [Option.map_some, Option.map_some, if_neg begun, decide_eq_false begun,
            decide_eq_false other, Entry.afterFailure_false]
    have kept : ∀ j e, s.entry? j = some e → _ := fun j e found =>
      Progress.afterFailure_eq (j ∈ c.started) fun same : decide (j = id) = true =>
        tracks.begun j (of_decide_eq_true same ▸ own) e found
    refine ⟨Store.live_eq (fun j => ?_) size, schemas, refs, fragments, cache, funext fun j => ?_,
      fun j => ?_, entry_⟩
    · rw [Store.isLive, entry_, Option.isSome_map]
      rfl
    · rw [Store.slots, Store.slots, entry_]
      cases found : s.entry? j with
      | none => rfl
      | some e => exact (kept j e found).1
    · rw [entry_]
      cases found : s.entry? j with
      | none => rfl
      | some e => exact congrArg some (kept j e found).2

/-- A document with a reference to a part of it, one to another document, and one to nothing. -/
def broken : Value :=
  .object [("allOf", .array
      [.object [("$ref", .string "#/definitions/a")], .object [("$ref", .string "other")],
        .object [("$ref", .string "#/definitions/none")]]),
    ("definitions", .object [("a", .bool true)])]

/-- The store with this document and with another one, whose compilation failed before. -/
def brokenStore : Store where
  entries :=
    #[some { id := "", document := broken, isMeta := false, root := ⟨0⟩ },
      some { id := "other", document := .bool true, isMeta := false, root := ⟨1⟩, progress := .failed }]
  schemas := [("other", ⟨1⟩)]

/-- A fragment is made and the other document is begun again before the compilation fails. -/
theorem compile_restores_broken :
    let compiler : Compiler := { vocabulary := .draft07 false, formats := .draft07, options := {} }
    brokenStore.isLive ⟨0⟩ = true ∧ compiler.began ⟨0⟩ brokenStore = [⟨1⟩, ⟨2⟩, ⟨0⟩] ∧
      (∃ error, (compiler.compile ⟨0⟩ brokenStore).1 = .error error) ∧
      (compiler.compile ⟨0⟩ brokenStore).2.1.live = brokenStore.live ∧
      (Store.entry? (compiler.compile ⟨0⟩ brokenStore).2.1 ⟨1⟩).map (·.progress.name) =
        some "NotStarted" := by
  intro compiler
  have entry (j : EntryId) (e : Entry) (found : brokenStore.entry? j = some e) :
      e.progress.isStarted = false := by
    obtain ⟨i⟩ := j
    rcases i with _ | _ | i
    · cases found
      rfl
    · cases found
      rfl
    · rw [Store.entry?, Array.getElem?_eq_none (by simp [brokenStore])] at found
      cases found
  have consistent : brokenStore.Consistent :=
    { idle := fun j e found => by
        have idle := entry j e found
        cases p : e.progress <;> rw [p] at idle <;> first | rfl | cases idle
      leads := fun j e node refs found done => by
        have idle := entry j e found
        rw [done] at idle
        cases idle
      schemas := by decide
      refs := fun _ bound => by cases bound
      cached := fun _ bound => by cases bound
      fragments := fun _ bound => by cases bound }
  have live : brokenStore.isLive ⟨0⟩ = true := rfl
  have begun : compiler.began ⟨0⟩ brokenStore = [⟨1⟩, ⟨2⟩, ⟨0⟩] := by decide +kernel
  cases failed : (compiler.compile ⟨0⟩ brokenStore).1 with
  | ok u =>
    have fails : (compiler.compile ⟨0⟩ brokenStore).1.isOk = false := by decide +kernel
    rw [failed] at fails
    cases fails
  | error error =>
    have restored := compile_restores consistent live failed
    refine ⟨live, begun, ⟨error, rfl⟩, restored.1, ?_⟩
    rw [restored.2.2.2.2.2.2.2, begun]
    rfl

end Compiler

end JsonSchema
