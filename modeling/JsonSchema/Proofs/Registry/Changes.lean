import JsonSchema.Proofs.Compilation.Rollback
import JsonSchema.Proofs.Store.Documents
import JsonSchema.Registry.Documents

/-!
# Changes of a settled store

Every change that a registry makes to its store leaves it settled, and gives no place out
twice.

* `Store.Settled.insertDocument`, `Store.Settled.bindName`, `Store.Settled.fragment`: what is
  added.
* `Store.Settled.promote`: documents become meta-schemas.
* `Compiler.compile_succeeds`, `Compiler.compile_retains`: a compilation, whatever its
  outcome, keeps all entries and the tables of documents.
-/

namespace JsonSchema

namespace Store

variable {K : EntryId → Compiler → Prop} {s s' s'' : Store} {id : EntryId} {e : Entry}

/-! ## Additions -/

section Documents

variable {key : CacheKey} {named : Bool}

theorem Settled.insertDocument (settled : s.Settled K) (doc : e.pointer = "")
    (keyed : e.cacheKey = some key) (idle : e.progress = .notStarted)
    (free : s.cache.find? key = none)
    (fresh : named = true → s.schemas.find? e.id = none ∧ s.refs.find? e.id = none) :
    (s.insertDocument e key named).Settled K := by
  refine settled.extend (settled.linked.insertDocument doc keyed free fresh)
    (settled.linked.preserves_insertDocument doc keyed free fresh)
    (fun _ _ => entry?_insertDocument_of_some) fun j f found =>
      (entry?_of_insertDocument found).imp (fun h => h) fun h => ?_
  obtain ⟨rfl, rfl⟩ := h
  refine ⟨idle, fun d foundD => ?_⟩
  rw [entry?_insertDocument, if_pos rfl] at foundD
  cases foundD
  rfl

theorem insertDocument_succeeds : s.Succeeds (s.insertDocument e key named) :=
  .of_extends (Nat.le_of_lt (by simp [Store.insertDocument])) fun _ _ found =>
    (entry?_of_insertDocument found).imp (fun h => h) And.left

theorem Settled.bindName {name : String} (settled : s.Settled K) (found : s.entry? id = some e)
    (doc : e.pointer = "") (free : s.schemas.find? name = none)
    (agree : ∀ b, s.refs.find? name = some b → b = id) : (s.bindName name id).Settled K :=
  settled.extend (settled.linked.bindName found doc agree)
    (settled.linked.preserves_bindName found doc free agree) (fun _ _ h => h) fun _ _ h => .inl h

end Documents

/-- Asking for a fragment leaves a settled store. -/
theorem Settled.fragment (settled : s.Settled K) {root : EntryId} {base pointer : String}
    {part : Value} {d : Entry} (found : s.entry? root = some d) (doc : d.pointer = "")
    (nonempty : pointer ≠ "") (cuts : s.Cuts root pointer base part) :
    ∃ id isNew s', s.fragment root base pointer part = (id, isNew, s') ∧ s'.Settled K ∧
      s.Succeeds s' := by
  obtain ⟨id, ⟨e, -, -, eq⟩ | ⟨-, rfl, eq, sound⟩⟩ :=
    settled.toSound.fragment found doc nonempty cuts
  · exact ⟨id, false, s, eq, settled, .refl s⟩
  · refine ⟨_, true, _, eq, ⟨sound, fun j f hf => ?_⟩, .of_extends ?_ fun j f hf => ?_⟩
    · rcases entry?_of_insertFragment hf with old | ⟨-, rfl⟩
      · exact settled.idle j f old
      · rfl
    · exact Nat.le_of_lt (by simp [insertFragment])
    · exact (entry?_of_insertFragment hf).imp (fun h => h) And.left

/-! ## Removals -/

theorem remove_succeeds (s : Store) (id : EntryId) : s.Succeeds (s.remove id) where
  size := Nat.le_of_eq (remove_size s id).symm
  entry j e _ found := by
    obtain ⟨e', found', rfl | rfl⟩ := entry?_of_remove found
    · exact ⟨e, found', rfl⟩
    · exact ⟨e', found', rfl⟩

/-! ## Promotions -/

/-- Resets and marks some entries, and resets what leads to them. -/
def promote (s : Store) (ids : List EntryId) : Store :=
  ids.foldl (fun s id => (s.modify id fun e => { e.reset with isMeta := true }).invalidate [id]) s

/-- Entries with the property `reset`, which all that leads to them shares, were reset, and
    those in a list were marked. -/
structure Promotes (s s' : Store) (ids : List EntryId) (reset : EntryId → Prop) : Prop where
  alike : s.Alike s'
  size : s.entries.size = s'.entries.size
  closed : ∀ id e, s.entry? id = some e → (∃ ref ∈ e.refs, reset ref.2) → reset id
  stays : ∀ id e, s.entry? id = some e → ¬ reset id → s'.entry? id = some e
  came : ∀ id e, s'.entry? id = some e →
    ¬ reset id ∧ s.entry? id = some e ∨ e.progress.isStarted = false
  marks : ∀ id e e', s.entry? id = some e → s'.entry? id = some e' →
    id ∈ ids ∧ e'.isMeta = true ∨ id ∉ ids ∧ e'.isMeta = e.isMeta

theorem Promotes.refl (s : Store) : s.Promotes s [] fun _ => False where
  alike := .refl s
  size := rfl
  closed _ _ _ h := h.elim fun _ h => h.2
  stays _ _ found _ := found
  came _ _ found := .inl ⟨fun h => h, found⟩
  marks id e e' found found' := by
    rw [found] at found'
    cases found'
    exact .inr ⟨List.not_mem_nil, rfl⟩

theorem promotes_one (s : Store) (id : EntryId) :
    ∃ reset, s.Promotes (s.promote [id]) [id] reset := by
  let marked := s.modify id fun e => { e.reset with isMeta := true }
  let D := marked.dependents marked.entries.size [id]
  have self : id ∈ D := subset_dependents _ _ _ _ List.mem_cons_self
  have other : ∀ {j : EntryId}, j ≠ id → marked.entry? j = s.entry? j :=
    fun ne => entry?_modify_of_ne ne _
  have alike : s.Alike marked :=
    modify_alike (fun e => { e.reset with isMeta := true }) (fun _ => rfl) s id
  refine ⟨(· ∈ D), ?_⟩
  show s.Promotes (marked.invalidate [id]) [id] (· ∈ D)
  refine
    { alike := alike.trans (invalidate_alike _ _), size := ?_
      closed := fun j e found refers => ?_, stays := fun j e found out => ?_
      came := fun j e found => ?_, marks := fun j e e' found found' => ?_ }
  · rw [(invalidate_tables marked [id]).2.2.2.2]
    exact (modify_size _ _ _).symm
  · by_cases h : j = id
    · rw [h]
      exact self
    · exact dependents_closed (s := marked) ((other h).trans found) refers
  · have ne : j ≠ id := fun h => out (h ▸ self)
    rw [entry?_invalidate, if_neg out]
    exact (other ne).trans found
  · rw [entry?_invalidate] at found
    split at found
    · obtain ⟨f, -, rfl⟩ := Option.map_eq_some_iff.1 found
      exact .inr rfl
    · next out =>
      have ne : j ≠ id := by
        rintro rfl
        exact out self
      exact .inl ⟨out, (other ne).symm.trans found⟩
  · have plain : ∃ f, marked.entry? j = some f ∧ e'.isMeta = f.isMeta := by
      rw [entry?_invalidate] at found'
      split at found'
      · obtain ⟨f, hf, rfl⟩ := Option.map_eq_some_iff.1 found'
        exact ⟨f, hf, rfl⟩
      · exact ⟨e', found', rfl⟩
    obtain ⟨f, hf, same⟩ := plain
    by_cases h : j = id
    · subst h
      have hf : Store.entry? (s.modify j _) j = some f := hf
      rw [entry?_modify_self, found] at hf
      cases hf
      exact .inl ⟨List.mem_cons_self, same⟩
    · rw [other h, found] at hf
      cases hf
      exact .inr ⟨by simpa using h, same⟩

theorem Promotes.trans {ids ids' : List EntryId} {reset reset' : EntryId → Prop}
    (h : s.Promotes s' ids reset) (h' : s'.Promotes s'' ids' reset') :
    s.Promotes s'' (ids ++ ids') fun id => reset id ∨ reset' id where
  alike := h.alike.trans h'.alike
  size := h.size.trans h'.size
  closed id e found := by
    rintro ⟨ref, mem, r | r⟩
    · exact .inl (h.closed id e found ⟨ref, mem, r⟩)
    · by_cases out : reset id
      · exact .inl out
      · exact .inr (h'.closed id e (h.stays id e found out) ⟨ref, mem, r⟩)
  stays id e found out :=
    h'.stays id e (h.stays id e found fun r => out (.inl r)) fun r => out (.inr r)
  came id e found := by
    rcases h'.came id e found with ⟨out', found'⟩ | idle
    · rcases h.came id e found' with ⟨out, found⟩ | idle
      · exact .inl ⟨fun r => r.elim out out', found⟩
      · exact .inr idle
    · exact .inr idle
  marks id e e'' found found'' := by
    obtain ⟨m, p, found'⟩ := h.alike.entry? found
    rcases h.marks id e _ found found' with ⟨mem, on⟩ | ⟨out, same⟩
    · rcases h'.marks id _ e'' found' found'' with ⟨-, on'⟩ | ⟨-, same'⟩
      · exact .inl ⟨List.mem_append_left _ mem, on'⟩
      · exact .inl ⟨List.mem_append_left _ mem, same'.trans on⟩
    · rcases h'.marks id _ e'' found' found'' with ⟨mem', on'⟩ | ⟨out', same'⟩
      · exact .inl ⟨List.mem_append_right _ mem', on'⟩
      · refine .inr ⟨fun mem => ?_, same'.trans same⟩
        exact (List.mem_append.1 mem).elim out out'

theorem promotes (s : Store) (ids : List EntryId) :
    ∃ reset, s.Promotes (s.promote ids) ids reset := by
  induction ids generalizing s with
  | nil => exact ⟨_, .refl s⟩
  | cons id rest ih =>
    obtain ⟨reset, first⟩ := promotes_one s id
    obtain ⟨reset', others⟩ := ih (s.promote [id])
    exact ⟨_, first.trans others⟩

/-- The entries of a document: itself and its fragments. -/
def membersOf (s : Store) (root : EntryId) : List EntryId :=
  s.live.filter fun id => (s.entry? id).map (·.root) = some root

theorem mem_membersOf {root : EntryId} (found : s.entry? id = some e) :
    id ∈ s.membersOf root ↔ e.root = root := by
  rw [membersOf, List.mem_filter, mem_live, found]
  simp

/-- If a document becomes a meta-schema with all its fragments, the store is settled. -/
theorem Settled.promote (settled : s.Settled K) (root : EntryId) :
    (s.promote (s.membersOf root)).Settled K := by
  obtain ⟨reset, promotes⟩ := promotes s (s.membersOf root)
  refine settled.calm reset (fun _ => True) (settled.linked.of_alike promotes.alike) ?_
    promotes.alike.preserves (fun _ _ => trivial) promotes.closed promotes.stays promotes.came
  intro id e' d' found' foundD'
  obtain ⟨m, p, found⟩ := promotes.alike.symm.entry? found'
  obtain ⟨m', p', foundD⟩ := promotes.alike.symm.entry? foundD'
  obtain ⟨d₀, foundD₀, docD, rootD⟩ := settled.linked.root_entry found
  have same : s.entry? e'.root = some d₀ := foundD₀
  rw [foundD] at same
  cases same
  have before := settled.uniform id _ _ found foundD
  have both : id ∈ s.membersOf root ↔ e'.root ∈ s.membersOf root := by
    rw [mem_membersOf found, mem_membersOf foundD, rootD]
  rcases promotes.marks id _ e' found found' with ⟨mem, on⟩ | ⟨out, same⟩
  · rcases promotes.marks _ _ d' foundD foundD' with ⟨-, on'⟩ | ⟨out', -⟩
    · rw [on, on']
    · exact absurd (both.1 mem) out'
  · rcases promotes.marks _ _ d' foundD foundD' with ⟨mem', -⟩ | ⟨-, same'⟩
    · exact absurd (both.2 mem') out
    · rw [same, same', before]

theorem promote_succeeds (s : Store) (ids : List EntryId) : s.Succeeds (s.promote ids) := by
  obtain ⟨reset, promotes⟩ := promotes s ids
  exact .of_alike promotes.size promotes.alike

/-! ## Compilations -/

/-- All entries and the tables of documents are kept. -/
structure Retains (s s' : Store) : Prop where
  schemas : s'.schemas = s.schemas
  refs : s'.refs = s.refs
  cache : s'.cache = s.cache
  entry : ∀ id e, s.entry? id = some e → ∃ e', s'.entry? id = some e' ∧ e'.reset = e.reset

theorem Retains.refl (s : Store) : s.Retains s :=
  ⟨rfl, rfl, rfl, fun _ e found => ⟨e, found, rfl⟩⟩

end Store

namespace Compiler

open Compilation (Good Leads)

variable {K : EntryId → Compiler → Prop} {origin : Store} {compiler : Compiler}

/-- A compilation keeps all entries, whatever its outcome. -/
theorem compile_retains (settled : origin.Settled K) (k : ∀ id, K id compiler) (id : EntryId) :
    origin.Retains (compiler.compile id origin).2.1 := by
  rcases compile_cases settled k id with ⟨c, run, good, -, -⟩ | ⟨e, c, run, good⟩
  · rw [run]
    refine ⟨good.tracks.schemas, good.tracks.refs, good.tracks.cache, fun j e found => ?_⟩
    obtain ⟨e', found', eq, -⟩ := good.tracks.kept j e found
    exact ⟨e', found', eq⟩
  · rw [run]
    obtain ⟨schemas, refs, -, cache, -, entries⟩ := rollback_spec settled good id
    refine ⟨schemas, refs, cache, fun j e found => ⟨_, by rw [entries, found]; rfl, ?_⟩⟩
    split <;> rfl

/-- A compilation gives no place out twice, whatever its outcome. -/
theorem compile_succeeds (settled : origin.Settled K) (k : ∀ id, K id compiler) (id : EntryId) :
    origin.Succeeds (compiler.compile id origin).2.1 := by
  have kept := (compile_retains settled k id).entry
  rcases compile_cases settled k id with ⟨c, run, good, -, -⟩ | ⟨e, c, run, good⟩
  · rw [run] at kept ⊢
    refine ⟨good.tracks.size, fun j e' lt found' => ?_⟩
    rcases good.tracks.added j e' found' with ⟨e, found⟩ | made
    · obtain ⟨e₁, found₁, eq⟩ := kept j e found
      rw [found'] at found₁
      cases found₁
      exact ⟨e, found, Entry.bare_eq_of_reset_eq eq⟩
    · exact absurd lt (Nat.not_lt_of_le (good.tracks.fresh j made))
  · rw [run]
    obtain ⟨-, -, -, -, size, entries⟩ := rollback_spec settled good id
    refine ⟨size, fun j e' lt found' => ?_⟩
    rw [entries] at found'
    obtain ⟨e, found, rfl⟩ := Option.map_eq_some_iff.1 found'
    refine ⟨e, found, ?_⟩
    split <;> rfl

/-- A compilation that succeeds leaves its entry compiled. -/
theorem compile_isStarted (settled : origin.Settled K) (k : ∀ id, K id compiler) (id : EntryId)
    (ok : (compiler.compile id origin).1 = .ok ()) :
    (compiler.compile id origin).2.1.IsStarted id := by
  rcases compile_cases settled k id with ⟨c, run, -, -, started⟩ | ⟨e, c, run, -⟩
  · rw [run]
    exact started
  · rw [run] at ok
    cases ok

end Compiler

end JsonSchema
