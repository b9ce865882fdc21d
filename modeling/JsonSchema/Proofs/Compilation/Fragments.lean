import JsonSchema.Proofs.Compilation.Transaction

/-!
# Making fragments

A part of a document that something refers to becomes an entry of its own, once.

* `Store.Sound.fragment`: a store stays sound when a fragment is asked for.
* `Compilation.Good.fragment`: a compilation that asks for one records what it made.
-/

namespace JsonSchema

namespace Store

variable {K : EntryId → Compiler → Prop} {s s' : Store}

/-- The store with one more fragment. -/
def insertFragment (s : Store) (root : EntryId) (base pointer : String) (part : Value)
    (isMeta : Bool) : Store :=
  let inserted := (s.insert fun _ =>
    { id := base, document := part, isMeta := isMeta, root := root, pointer := pointer }).2
  { inserted with fragments := s.fragments.bind (root, pointer) ⟨s.entries.size⟩ }

theorem fragment_of_bound {root id : EntryId} {pointer : String}
    (bound : s.fragments.find? (root, pointer) = some id) (live : s.isLive id = true)
    (base : String) (part : Value) : s.fragment root base pointer part = (id, false, s) := by
  rw [fragment, bound, Option.filter_some, if_pos live]

theorem fragment_of_unbound {root : EntryId} {pointer : String}
    (unbound : s.fragments.find? (root, pointer) = none) {d : Entry}
    (found : s.entry? root = some d) (base : String) (part : Value) :
    s.fragment root base pointer part =
      (⟨s.entries.size⟩, true, s.insertFragment root base pointer part d.isMeta) := by
  rw [fragment, unbound, Option.filter_none, found]
  rfl

section InsertFragment

variable {root : EntryId} {base pointer : String} {part : Value} {isMeta : Bool} {d : Entry}

theorem entry?_insertFragment (j : EntryId) :
    Store.entry? (s.insertFragment root base pointer part isMeta) j =
      if j = ⟨s.entries.size⟩ then
        some { id := base, document := part, isMeta := isMeta, root := root, pointer := pointer }
      else s.entry? j :=
  entry?_insert s (fun _ =>
    { id := base, document := part, isMeta := isMeta, root := root, pointer := pointer }) j

theorem entry?_insertFragment_of_some {j : EntryId} {e : Entry} (found : s.entry? j = some e) :
    Store.entry? (s.insertFragment root base pointer part isMeta) j = some e := by
  rw [entry?_insertFragment, if_neg, found]
  rintro rfl
  rw [entry?_next] at found
  cases found

theorem entry?_of_insertFragment {j : EntryId} {e : Entry}
    (found : Store.entry? (s.insertFragment root base pointer part isMeta) j = some e) :
    s.entry? j = some e ∨ j = ⟨s.entries.size⟩ ∧
      e = { id := base, document := part, isMeta := isMeta, root := root, pointer := pointer } := by
  rw [entry?_insertFragment] at found
  split at found
  · next h =>
    cases found
    exact .inr ⟨h, rfl⟩
  · exact .inl found

theorem find?_insertFragment {key : EntryId × String} {id : EntryId}
    (unbound : s.fragments.find? (root, pointer) = none)
    (found : s.fragments.find? key = some id) :
    (s.insertFragment root base pointer part isMeta).fragments.find? key = some id := by
  show (s.fragments.bind (root, pointer) _).find? key = some id
  rw [Bindings.find?_bind, if_neg, found]
  rintro rfl
  rw [unbound] at found
  cases found

theorem Linked.insertFragment (linked : s.Linked)
    (unbound : s.fragments.find? (root, pointer) = none) (found : s.entry? root = some d)
    (doc : d.pointer = "") (nonempty : pointer ≠ "") (cuts : s.Cuts root pointer base part) :
    (s.insertFragment root base pointer part isMeta).Linked := by
  have entry : ∀ {j : EntryId} {e : Entry}, s.entry? j = some e →
      Store.entry? (s.insertFragment root base pointer part isMeta) j = some e :=
    entry?_insertFragment_of_some
  refine
    { schemasKeyed := linked.schemasKeyed, refsKeyed := linked.refsKeyed
      fragmentsKeyed := linked.fragmentsKeyed.bind _ _, cacheKeyed := linked.cacheKeyed
      schemas := fun b hb => ?_, refs := fun b hb => ?_, cached := fun b hb => ?_
      fragments := fun b hb => ?_, agree := linked.agree, document := fun j e found' docE => ?_
      fragment := fun j e found' partE => ?_ }
  · obtain ⟨e, he, h⟩ := linked.schemas b hb
    exact ⟨e, entry he, h⟩
  · obtain ⟨e, he, h⟩ := linked.refs b hb
    exact ⟨e, entry he, h⟩
  · obtain ⟨e, he, h⟩ := linked.cached b hb
    exact ⟨e, entry he, h⟩
  · rcases Bindings.mem_bind hb with rfl | hb
    · exact ⟨{ id := base, document := part, isMeta := isMeta, root := root, pointer := pointer },
        by rw [entry?_insertFragment, if_pos rfl], rfl, rfl, nonempty⟩
    · obtain ⟨e, he, h⟩ := linked.fragments b hb
      exact ⟨e, entry he, h⟩
  · rcases entry?_of_insertFragment found' with old | ⟨rfl, rfl⟩
    · exact linked.document j e old docE
    · exact absurd docE nonempty
  · rcases entry?_of_insertFragment found' with old | ⟨rfl, rfl⟩
    · obtain ⟨hk, hf, d', hd', doc', cut⟩ := linked.fragment j e old partE
      exact ⟨hk, find?_insertFragment unbound hf, d', entry hd', doc', cut⟩
    · obtain ⟨f, segments, hf, hs, hw⟩ := cuts
      rw [found] at hf
      cases hf
      refine ⟨rfl, ?_, d, entry found, doc, segments, hs, hw⟩
      show (s.fragments.bind (root, pointer) _).find? (root, pointer) = _
      rw [Bindings.find?_bind, if_pos rfl]

theorem Linked.preserves_insertFragment (linked : s.Linked)
    (unbound : s.fragments.find? (root, pointer) = none) (found : s.entry? root = some d)
    (doc : d.pointer = "") (nonempty : pointer ≠ "") (cuts : s.Cuts root pointer base part) :
    s.Preserves (s.insertFragment root base pointer part isMeta) fun _ => True := by
  refine preserves_of_extends (fun _ _ => entry?_insertFragment_of_some) (fun name id hl => ?_)
    fun _ _ => find?_insertFragment unbound
  exact (linked.insertFragment unbound found doc nonempty cuts).lookup_eq_some_iff.2
    (linked.lookup_eq_some_iff.1 hl)

theorem Sound.insertFragment (sound : s.Sound K)
    (unbound : s.fragments.find? (root, pointer) = none) (found : s.entry? root = some d)
    (doc : d.pointer = "") (nonempty : pointer ≠ "") (cuts : s.Cuts root pointer base part) :
    (s.insertFragment root base pointer part d.isMeta).Sound K := by
  refine sound.extend (sound.linked.insertFragment unbound found doc nonempty cuts)
    (sound.linked.preserves_insertFragment unbound found doc nonempty cuts)
    (fun _ _ => entry?_insertFragment_of_some) fun j e found' =>
      (entry?_of_insertFragment found').imp (fun h => h) fun h => ?_
  obtain ⟨rfl, rfl⟩ := h
  refine ⟨rfl, fun d' foundD => ?_⟩
  rw [entry?_insertFragment_of_some found] at foundD
  cases foundD
  rfl

end InsertFragment

/-- Asking for a fragment: the store stays sound and keeps what it had, and the fragment is
    there. -/
theorem Sound.fragment (sound : s.Sound K) {root : EntryId} {base pointer : String} {part : Value}
    {d : Entry} (found : s.entry? root = some d) (doc : d.pointer = "") (nonempty : pointer ≠ "")
    (cuts : s.Cuts root pointer base part) :
    ∃ id, (∃ e, s.entry? id = some e ∧ s.fragments.find? (root, pointer) = some id ∧
        s.fragment root base pointer part = (id, false, s)) ∨
      (s.fragments.find? (root, pointer) = none ∧ id = ⟨s.entries.size⟩ ∧
        s.fragment root base pointer part =
          (id, true, s.insertFragment root base pointer part d.isMeta) ∧
        (s.insertFragment root base pointer part d.isMeta).Sound K) := by
  cases bound : s.fragments.find? (root, pointer) with
  | some id =>
    obtain ⟨e, he, -⟩ := sound.linked.fragments _ (Bindings.mem_of_find? bound)
    exact ⟨id, .inl ⟨e, he, rfl, fragment_of_bound bound (isLive_of_entry he) base part⟩⟩
  | none =>
    exact ⟨_, .inr ⟨rfl, rfl, fragment_of_unbound bound found base part,
      sound.insertFragment bound found doc nonempty cuts⟩⟩

end Store

namespace Compilation

variable {K : EntryId → Compiler → Prop} {origin : Store} {c : Compilation}

/-- A fragment that is made is recorded. -/
theorem Tracks.insertFragment (tracks : c.Tracks origin) {root : EntryId} {base pointer : String}
    {part : Value} {isMeta : Bool} (unbound : c.store.fragments.find? (root, pointer) = none) :
    Tracks origin
      { c with
        store := c.store.insertFragment root base pointer part isMeta
        created := ⟨c.store.entries.size⟩ :: c.created } := by
  refine
    { schemas := tracks.schemas, refs := tracks.refs, cache := tracks.cache
      size := Nat.le_trans tracks.size (by simp [Store.insertFragment])
      kept := fun j e he => ?_, added := fun j e he => ?_, fresh := fun j hj => ?_
      begun := tracks.begun, pending := fun j e he pending => ?_, fragments := ?_ }
  · obtain ⟨e', he', h⟩ := tracks.kept j e he
    exact ⟨e', Store.entry?_insertFragment_of_some he', h⟩
  · rcases Store.entry?_of_insertFragment he with old | ⟨rfl, -⟩
    · exact (tracks.added j e old).imp (fun h => h) (List.mem_cons_of_mem _)
    · exact .inr List.mem_cons_self
  · rcases List.mem_cons.1 hj with rfl | hj
    · exact tracks.size
    · exact tracks.fresh j hj
  · rcases Store.entry?_of_insertFragment he with old | ⟨-, rfl⟩
    · exact tracks.pending j e old pending
    · cases pending
  · obtain ⟨more, hm, hb⟩ := tracks.fragments
    refine ⟨more ++ [((root, pointer), ⟨c.store.entries.size⟩)], ?_, fun b mem => ?_⟩
    · show c.store.fragments.bind _ _ = _
      rw [Bindings.bind_eq_append _ unbound, hm, List.append_assoc]
    · rcases List.mem_append.1 mem with mem | mem
      · exact List.mem_cons_of_mem _ (hb b mem)
      · rw [List.mem_singleton.1 mem]
        exact List.mem_cons_self

/-- A compilation that asks for a fragment stays good, and the fragment is there. -/
theorem Good.fragment (good : Good K origin c) {root : EntryId} {base pointer : String}
    {part : Value} {d : Entry} (found : c.store.entry? root = some d) (doc : d.pointer = "")
    (nonempty : pointer ≠ "") (cuts : c.store.Cuts root pointer base part) :
    ∃ id isNew store, c.store.fragment root base pointer part = (id, isNew, store) ∧
      let c' := { c with store := store, created := if isNew then id :: c.created else c.created }
      Good K origin c' ∧ (∀ j e, c.store.entry? j = some e → store.entry? j = some e) ∧
        (∀ j e, store.entry? j = some e → c.store.entry? j = some e ∨ e.progress = .notStarted) ∧
        c.store.Preserves store (fun _ => True) ∧
        store.fragments.find? (root, pointer) = some id := by
  obtain ⟨id, ⟨e, he, bound, eq⟩ | ⟨unbound, rfl, eq, sound⟩⟩ :=
    good.sound.fragment found doc nonempty cuts
  · refine ⟨id, false, c.store, eq, ⟨good.sound, { good.tracks with }⟩, fun _ _ h => h,
      fun _ _ h => .inl h, (Store.Alike.refl _).preserves, bound⟩
  · refine ⟨_, true, _, eq, ⟨sound, good.tracks.insertFragment unbound⟩, fun _ _ => Store.entry?_insertFragment_of_some, ?_,
      good.sound.linked.preserves_insertFragment unbound found doc nonempty cuts, ?_⟩
    · intro j e he
      exact (Store.entry?_of_insertFragment he).imp (fun h => h) fun h => by rw [h.2]
    · show (c.store.fragments.bind (root, pointer) _).find? (root, pointer) = _
      rw [Bindings.find?_bind, if_pos rfl]

end Compilation

end JsonSchema
