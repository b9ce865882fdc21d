import JsonSchema.Proofs.Compilation.Failing
import JsonSchema.Proofs.Compilation.Watching
import JsonSchema.Proofs.Order.Answers
import Mathlib.Combinatorics.Enumerative.DoubleCounting

/-!
# Compilations are finite

A compilation with built-in keywords ends by itself: the bound on its depth changes nothing. It begins
no entry twice, and it cuts out fragments only at pointers that are made of what the documents declare
and of what the references in them say.

* `CompileM.Suffices`: what does not run out of depth does the same with more of it.
* `Store.asks`, `Store.pairs`: the references in documents, and the places to which they can lead.
* `Compilation.Confined`: what holds at every moment of a compilation, with its step
  `Compilation.Move.confined`.
* `Compiler.compile_finite`: the whole statement, and `Compiler.made_exceeds_written`: references as
  they are written do not say how many fragments there will be.
-/

namespace JsonSchema

/-! ## Enough depth -/

/-- The depth of a step is enough: unless it is too deep, another one does the same. -/
def CompileM.Suffices (α : Type) (m m' : CompileM α) : Prop :=
  ∀ c, (∀ e d, m c = .error e d → ¬ e.IsDeep) → m' c = m c

theorem CompileM.Suffices.congruent : Congruent Suffices where
  pure _ _ _ := rfl
  throw _ _ _ := rfl
  get _ _ := rfl
  trace _ _ _ := rfl
  bind {_ _ m m' f f'} first second := by
    intro c shallow
    cases ran : m c with
    | error e d =>
      have same : m' c = .error e d := by
        rw [first c fun e' d' failed => shallow e' d' ?_, ran]
        rw [ran] at failed
        cases failed
        exact bind_error ran
      rw [bind_error ran, bind_error same]
    | ok a d =>
      have same : m' c = .ok a d := by
        rw [first c fun e' d' failed => ?_, ran]
        rw [ran] at failed
        cases failed
      rw [bind_ok ran, bind_ok same]
      exact second a d fun e' d' failed => shallow e' d' (by rw [bind_ok ran, failed])

namespace Compiler

open CompileM (Suffices)

theorem entry_suffices {schema schema' : SchemaCompiler}
    (schemas : ∀ value place, Suffices Node (schema value place) (schema' value place))
    (id : EntryId) (underMeta : Bool) :
    Suffices Unit (entry schema id underMeta) (entry schema' id underMeta) := by
  intro c shallow
  simp only [entry_run] at shallow ⊢
  cases found : c.store.entry? id with
  | none => rfl
  | some e =>
    cases started : e.progress.isStarted with
    | true => simp only [started, if_true]
    | false =>
      simp only [found, started] at shallow ⊢
      rw [schemas e.document (e.place id underMeta) (begun c id) fun error d failed =>
        shallow error d (by rw [failed]; rfl)]

/-- A schema that is not too deep is compiled alike with more depth. -/
theorem schema_suffices (compiler : Compiler) {fuel fuel' : Nat} (more : fuel ≤ fuel') (value : Value)
    (place : Place) :
    Suffices Node (compiler.schema fuel value place) (compiler.schema fuel' value place) := by
  induction fuel generalizing fuel' value place with
  | zero => exact fun c shallow => absurd ⟨_, rfl⟩ (shallow _ c rfl)
  | succ fuel ih =>
    obtain ⟨fuel', rfl⟩ := Nat.exists_eq_add_of_le' (Nat.lt_of_lt_of_le (Nat.succ_pos fuel) more)
    have more := Nat.le_of_succ_le_succ more
    refine node_related Suffices.congruent compiler (fun members _ o _ keyword inner part at_ _ => ?_)
      fun members text _ _ => ?_
    · exact ih more part at_
    · exact reference_related Suffices.congruent (fun _ _ _ => rfl) fun id =>
        entry_suffices (fun value place => ih more value place) id _

end Compiler

/-! ## Where references can lead -/

/-- The pointers to a document itself and to the places in it for which it declares identifiers. -/
def Entry.positions (d : Entry) : List String := "" :: d.localRefs.map (·.2)

namespace Store

variable {s : Store} {id source target : EntryId} {d e : Entry} {reference pointer : String}
  {fragments : List String}

/-- The documents of a store. -/
def rootEntries (s : Store) : List Entry := s.held.filter (!·.isFragment)

/-- The absolute references that are made in the documents of a store, wherever in them it is. -/
def asks (s : Store) : List String := s.rootEntries.flatMap Entry.asks

/-- The pairs of a document and a pointer that leads to one of its positions, or from there on along
    a fragment. -/
def pairs (s : Store) (fragments : List String) : List Spot :=
  s.rootEntries.flatMap fun d => d.positions.flatMap fun position =>
    ("" :: fragments).map fun fragment => (d.root, position ++ fragment)

theorem mem_rootEntries (found : s.entry? id = some d) (doc : d.pointer = "") : d ∈ s.rootEntries := by
  refine List.mem_filter.2 ⟨mem_held found, ?_⟩
  rw [Entry.isFragment, doc]
  rfl

/-- A reference leads to a position of a document, or from there on along its own fragment. -/
theorem Reaches.exists_position (reaches : s.Reaches source reference target pointer)
    (found : s.entry? target = some d) :
    ∃ position ∈ d.positions, ∃ fragment ∈ ["", fragmentPart reference],
      pointer = position ++ fragment := by
  obtain ⟨e, owner, start, d', -, foundO, at_, foundD, leads⟩ := reaches
  cases found.symm.trans foundD
  have starts : start ∈ d.positions := by
    rw [targetOf?] at at_
    split at at_
    · cases at_
      exact List.mem_cons_self
    · split at at_
      · next declared =>
        cases at_
        cases found.symm.trans foundO
        exact List.mem_cons_of_mem _ (List.mem_map.2 ⟨_, Bindings.mem_of_find? declared, rfl⟩)
      · obtain ⟨_, -, same⟩ := Option.map_eq_some_iff.1 at_
        cases same
        exact List.mem_cons_self
  rw [pointerOf?] at leads
  split at leads
  · cases leads
    exact ⟨_, starts, "", List.mem_cons_self, String.append_empty.symm⟩
  · split at leads
    · cases leads
      exact ⟨start, starts, _, List.mem_cons_of_mem _ List.mem_cons_self, rfl⟩
    · refine ⟨pointer, ?_, "", List.mem_cons_self, String.append_empty.symm⟩
      exact List.mem_cons_of_mem _ (List.mem_map.2 ⟨_, Bindings.mem_of_find? leads, rfl⟩)

/-- Where a reference leads in a store that was made of the documents of another one. -/
theorem Shares.mem_pairs {s' : Store} (h : s.Shares s') (linked : s.Linked) (linked' : s'.Linked)
    (reaches : s'.Reaches source reference target pointer) (among : fragmentPart reference ∈ fragments) :
    (target, pointer) ∈ s.pairs fragments := by
  obtain ⟨d', found', doc'⟩ := reaches.document linked'
  obtain ⟨d, found, reset⟩ := h.symm.document found' doc'
  obtain ⟨position, mem, fragment, leads, rfl⟩ := reaches.exists_position found'
  have doc : d.pointer = "" := ((congrArg Entry.pointer reset :) : d.pointer = d'.pointer).trans doc'
  have same : d.positions = d'.positions := (congrArg Entry.positions reset :)
  refine List.mem_flatMap.2 ⟨d, mem_rootEntries found doc, List.mem_flatMap.2 ⟨position, same ▸ mem, ?_⟩⟩
  refine List.mem_map.2 ⟨fragment, ?_, by rw [linked.document_root found doc]⟩
  rcases List.mem_pair.1 leads with rfl | rfl
  · exact List.mem_cons_self
  · exact List.mem_cons_of_mem _ among

end Store

/-! ## Every moment of a compilation -/

namespace Compilation

/-- A moment of a compilation that began in a store. The documents are those of the store, every entry
    that was begun is still on record as such, and every fragment that was made is at a place of its
    own to which a reference in a document can lead. -/
structure Confined (s : Store) (c : Compilation) : Prop where
  linked : c.store.Linked
  shares : s.Shares c.store
  begun : ∀ id ∈ c.started, c.store.IsStarted id
  once : c.started.Nodup
  made : ∀ id ∈ c.created, ∃ spot ∈ s.pairs (s.asks.map fragmentPart), c.store.spot? id = some spot
  fresh : c.created.Nodup

variable {s : Store} {c c' : Compilation}

theorem Confined.start (linked : s.Linked) : Confined s { store := s } where
  linked := linked
  shares := ⟨rfl, rfl, fun _ => rfl⟩
  begun _ mem := by cases mem
  once := .nil
  made _ mem := by cases mem
  fresh := .nil

/-- A change of an entry that leaves alone what it is made of. -/
theorem Confined.modify (h : Confined s c) (id : EntryId) {change : Entry → Entry}
    (reset : ∀ e, (change e).reset = e.reset)
    (started : ∀ e, e.progress.isStarted = true → (change e).progress.isStarted = true) :
    Confined s { c with store := c.store.modify id change } := by
  have evolves : c.store.Evolves (c.store.modify id change) :=
    .modify c.store id (fun e => (congrArg Entry.spot (reset e) :)) started
  have alike := Store.modify_alike change (fun e => Entry.bare_eq_of_reset_eq (reset e)) c.store id
  have shares : c.store.Shares (c.store.modify id change) := by
    refine ⟨rfl, rfl, fun j => ?_⟩
    cases found : c.store.entry? j with
    | none =>
      rw [Store.document?, Store.document?, Store.entry?_modify, found]
      split <;> rfl
    | some e =>
      by_cases same : j = id
      · subst same
        have there : Store.entry? (c.store.modify j change) j = some (change e) := by
          rw [Store.entry?_modify_self, found]
          rfl
        exact Store.document?_of_reset found there (reset e)
      · have there := Store.entry?_modify_of_ne (s := c.store) same change
        exact Store.document?_of_reset found (there.trans found) rfl
  exact
    { linked := h.linked.of_alike alike
      shares := h.shares.trans shares
      begun := fun j mem => by
        obtain ⟨e, found, begun⟩ := h.begun j mem
        obtain ⟨e', found', -, starts⟩ := evolves j e found
        exact ⟨e', found', starts begun⟩
      once := h.once
      made := fun j mem => by
        obtain ⟨spot, among, at_⟩ := h.made j mem
        exact ⟨spot, among, evolves.spot? at_⟩
      fresh := h.fresh }

/-- Cutting out a fragment makes one at most, where none was. -/
theorem Confined.cut (h : Confined s c) (linked : s.Linked) {source root : EntryId}
    {reference inner pointer : String} {part : Value} (among : reference ∈ s.asks)
    (found : c.store.resolve source reference = .fragment root inner pointer part) :
    Confined s (c.cut root inner pointer part) := by
  obtain ⟨reaches, nonempty, cuts⟩ := Store.resolve_eq_fragment_iff.1 found
  obtain ⟨d, foundD, doc⟩ := reaches.document h.linked
  cases known : c.store.fragments.find? (root, pointer) with
  | some id =>
    obtain ⟨e, live, -⟩ := h.linked.fragments _ (Bindings.mem_of_find? known)
    rw [Compilation.cut, Store.fragment_of_bound known (Store.isLive_of_entry live)]
    exact { h with }
  | none =>
    rw [Compilation.cut, Store.fragment_of_unbound known foundD]
    have kept {j : EntryId} {e : Entry} (there : c.store.entry? j = some e) :
        Store.entry? (c.store.insertFragment root inner pointer part d.isMeta) j = some e :=
      Store.entry?_insertFragment_of_some there
    have new : Store.spot? (c.store.insertFragment root inner pointer part d.isMeta)
        ⟨c.store.entries.size⟩ = some (root, pointer) := by
      rw [Store.spot?, Store.entry?_insertFragment, if_pos rfl]
      rfl
    refine
      { linked := h.linked.insertFragment known foundD doc nonempty cuts
        shares := h.shares.trans (Store.spares_insertFragment _ root inner part _ nonempty).shares
        begun := fun j mem => ?_
        once := h.once
        made := fun j mem => ?_
        fresh := List.nodup_cons.2 ⟨fun mem => ?_, h.fresh⟩ }
    · obtain ⟨e, there, begun⟩ := h.begun j mem
      exact ⟨e, kept there, begun⟩
    · rcases List.mem_cons.1 mem with rfl | mem
      · have fragment := List.mem_map_of_mem (f := fragmentPart) among
        exact ⟨_, h.shares.mem_pairs linked h.linked reaches fragment, new⟩
      · obtain ⟨spot, among, at_⟩ := h.made j mem
        obtain ⟨e, there, rfl⟩ := Option.map_eq_some_iff.1 at_
        exact ⟨_, among, Store.spot?_eq (kept there)⟩
    · obtain ⟨spot, -, at_⟩ := h.made _ mem
      obtain ⟨e, there, -⟩ := Option.map_eq_some_iff.1 at_
      exact absurd (Store.index_lt_size there) (Nat.lt_irrefl _)

/-- Every step leads from one such moment to the next one. -/
theorem Move.confined (move : Move (· ∈ s.asks) c c') (linked : s.Linked) (h : Confined s c) :
    Confined s c' := by
  cases move with
  | trace => exact { h with }
  | cut _ among found => exact h.cut linked among found
  | remember _ reference target =>
    refine h.modify _ (fun e => e.remember_reset reference target) fun e started => ?_
    unfold Entry.remember
    cases p : e.progress with
    | inProgress => rfl
    | _ => simp only [p] at started ⊢; exact started
  | @begin id e found idle =>
    have begins := h.modify id (fun e => e.begin_reset) fun _ _ => rfl
    refine { begins with begun := fun j mem => ?_, once := List.nodup_cons.2 ⟨fun mem => ?_, h.once⟩ }
    · rcases List.mem_cons.1 mem with rfl | mem
      · exact ⟨e.begin, Compiler.entry?_begun found, rfl⟩
      · exact begins.begun j mem
    · obtain ⟨e', found', started⟩ := h.begun id mem
      cases found.symm.trans found'
      rw [idle] at started
      cases started
  | finish _ node => exact h.modify _ (fun e => e.finish_reset node) fun _ _ => rfl

end Compilation

/-! ## What is compiled -/

theorem Nesting.Offers.mem_parts {nesting : Nesting} {value part : Value} {steps : List String}
    (offers : nesting.Offers value steps part) : part ∈ nesting.parts value := by
  cases offers with
  | schema => exact List.mem_cons_self
  | single alone =>
    cases value with
    | array items => exact absurd rfl (alone items)
    | _ => exact List.mem_cons_self
  | item listed found =>
    rcases listed with rfl | rfl <;> exact List.mem_of_getElem? found
  | member found => exact List.mem_map.2 ⟨_, found, rfl⟩

/-- What a built-in keyword compiles is a subschema directly below its schema. -/
theorem Occurrence.Applies.under {compiler : Compiler} (builtin : compiler.vocabulary.IsBuiltin)
    {members : Members} {inside at_ : Place} {o : Occurrence} {keyword : String} {steps : List String}
    {part : Value} (occurs : o ∈ compiler.occurrences members inside)
    (applies : o.Applies keyword steps part at_) : members.Part part ∧ at_.Under inside := by
  obtain ⟨own, mem, eq⟩ := List.mem_filterMap.1 occurs
  split at eq
  · cases eq
  obtain ⟨value, found, rfl⟩ := Option.map_eq_some_iff.1 eq
  have plain := Draft07.isPlain (builtin.ordered own mem)
  rw [Keyword.isPlain] at plain
  cases applies with
  | part behavior offers =>
    simp only at behavior
    rw [behavior] at plain
    refine ⟨⟨_, value, found, ?_⟩, ⟨rfl, rfl, rfl, rfl⟩⟩
    rw [of_decide_eq_true plain]
    exact offers.mem_parts
  | branch behavior named there =>
    have nests : Draft07.nestingOf keyword = .schema := by
      rcases named with rfl | rfl <;> decide +kernel
    exact ⟨⟨_, part, there, by rw [nests]; exact List.mem_cons_self⟩, ⟨rfl, rfl, rfl, rfl⟩⟩
  | extended _ behavior | sibling behavior | expanded behavior =>
    simp only at behavior
    rw [behavior] at plain
    cases plain

namespace Compiler

variable {compiler : Compiler} {s : Store}

/-- A compilation with built-in keywords follows no references but those in documents of its store. -/
theorem hears_asks (linked : s.Linked) (builtin : compiler.vocabulary.IsBuiltin) :
    compiler.Hears (· ∈ s.asks)
      (fun value base applyId => ∃ n, value.weight ≤ n ∧
        ∀ reference ∈ value.asks n base applyId, reference ∈ s.asks)
      (Compilation.Confined s) where
  move h step := step.confined linked h
  enter h found := by
    obtain ⟨d, foundD, doc, -, lighter, asks⟩ := h.shares.asks_subset linked h.linked found
    exact ⟨_, lighter, fun reference mem =>
      List.mem_flatMap.2 ⟨d, Store.mem_rootEntries foundD doc, asks reference mem⟩⟩
  apply of occurs applies := by
    obtain ⟨n, down, asks⟩ := of
    obtain ⟨among, under⟩ := applies.under builtin occurs
    have lighter := Value.weight_lt_of_part among
    obtain ⟨n, rfl⟩ := Nat.exists_eq_add_of_le' (Nat.lt_of_lt_of_le (Value.weight_pos _) down)
    refine ⟨n, by omega, fun reference mem => asks reference (Value.mem_asks_part among ?_)⟩
    rw [under.base, under.applyId] at mem
    exact mem
  ask of own := by
    obtain ⟨n, down, asks⟩ := of
    obtain ⟨n, rfl⟩ := Nat.exists_eq_add_of_le' (Nat.lt_of_lt_of_le (Value.weight_pos _) down)
    exact asks _ (Value.mem_asks_own own)

/-! ## Compilations -/

/-- The fragments that a compilation of an entry makes. -/
def made (compiler : Compiler) (id : EntryId) (store : Store) : List EntryId :=
  match entry (compiler.schema (depthOf store)) id false { store } with
  | .ok _ c => c.created
  | .error _ c => c.created

/-- A compilation with built-in keywords is over before it is too deep, so that it does the same with
    any greater depth. It begins no entry twice, and makes no more fragments than there are pairs of a
    document and a pointer, to one of its positions or from there on along the fragment of an absolute
    reference that is made in some document. -/
theorem compile_finite (settled : s.Settled fun _ _ => True)
    (builtin : compiler.vocabulary.IsBuiltin) (id : EntryId) :
    (∀ error, (compiler.compile id s).1 = .error error → ¬ error.IsDeep) ∧
      (∀ fuel, depthOf s ≤ fuel → entry (compiler.schema fuel) id false { store := s } =
        entry (compiler.schema (depthOf s)) id false { store := s }) ∧
      (compiler.began id s).Nodup ∧
      (compiler.made id s).length ≤ (s.pairs (s.asks.map fragmentPart)).toFinset.card := by
  have shallow := compile_shallow settled (fun _ => trivial) builtin id
  refine ⟨shallow, fun fuel more => ?_, ?_⟩
  · refine entry_suffices (schema_suffices compiler more) id false _ fun error c failed => ?_
    exact shallow error (by rw [compile, EStateM.run, failed])
  · have confined {c : Compilation}
        (ends : (entry (compiler.schema (depthOf s)) id false).Ends { store := s } c) :
        Compilation.Confined s c :=
      have hears := hears_asks settled.linked builtin
      have start := Compilation.Confined.start settled.linked
      hears.moves start (entry_moves hears start (depthOf s) id false ends)
    obtain ⟨c, last, began_, made_⟩ : ∃ c, Compilation.Confined s c ∧
        compiler.began id s = c.started ∧ compiler.made id s = c.created := by
      cases ran : entry (compiler.schema (depthOf s)) id false { store := s } with
      | ok u c => exact ⟨c, confined (.inl ⟨u, ran⟩), by rw [began, ran], by rw [made, ran]⟩
      | error e c => exact ⟨c, confined (.inr ⟨e, ran⟩), by rw [began, ran], by rw [made, ran]⟩
    rw [began_, made_]
    refine ⟨last.once, ?_⟩
    rw [← List.toFinset_card_of_nodup last.fresh]
    -- every fragment is at one of the places, and no two are at the same one
    refine Finset.card_le_card_of_forall_subsingleton (fun j spot => c.store.spot? j = some spot)
      (fun j mem => ?_) fun spot _ j there j' there' => ?_
    · obtain ⟨spot, among, at_⟩ := last.made j (List.mem_toFinset.1 mem)
      exact ⟨spot, List.mem_toFinset.2 among, at_⟩
    · exact last.linked.spot_unique there.2 there'.2

end Compiler

/-! ## References as they are written -/

/-- The texts of the references in a document, wherever in it they are. -/
def Entry.written (d : Entry) : List String :=
  ((d.document, d.id) :: d.document.spots d.document.weight d.id).filterMap fun at_ =>
    (at_.1.member? "$ref").bind Value.asString?

/-- The texts of the references in the documents of a store. -/
def Store.written (s : Store) : List String := s.rootEntries.flatMap Entry.written

namespace Compiler

open Registry (create)

/-- A document that makes the same references from a base that is no URL and, in a part, from one that
    is, where their fragments are percent-encoded. -/
def twoBases : Value :=
  let refer (text : String) : Value := .object [("$ref", .string text)]
  .object
    [("<", .bool true), (">", .bool true),
      ("allOf", .array [refer "#/<", refer "#/>", refer "#/x/y"]),
      ("x", .object [("$id", .string "a:b"),
        ("y", .object [("allOf", .array [refer "#/<", refer "#/>"])])])]

/-- The document is added under that URL. -/
def twoBasesAdded : List Operation := [.add ⟨twoBases, .given 0⟩ { key := "a:b" }]

theorem isBuiltin_twoBases :
    ((create { installMeta := false }).run twoBasesAdded).vocabulary.IsBuiltin := by
  refine Registry.isBuiltin_run _ _ (Registry.ordered_run _ _ fun operation mem => ?_)
  rw [twoBasesAdded, List.mem_singleton] at mem
  rw [mem]
  rfl

/-- Both forms of the two references lead to fragments, and there is the one with the part. -/
theorem length_made_twoBases :
    let r := (create { installMeta := false }).run twoBasesAdded
    (r.compiler.made ⟨0⟩ r.store).length = 5 := by
  decide +kernel

theorem compile_finite_twoBases :
    ∃ r, r = (create { installMeta := false }).run twoBasesAdded ∧
      r.store.Settled (fun _ _ => True) ∧ r.compiler.vocabulary.IsBuiltin ∧
      (r.compiler.began ⟨0⟩ r.store).Nodup ∧ (r.compiler.made ⟨0⟩ r.store).length = 5 ∧
      5 ≤ (r.store.pairs (r.store.asks.map fragmentPart)).toFinset.card := by
  refine ⟨_, rfl, ?_⟩
  have settled := (Registry.reached_good { installMeta := false } twoBasesAdded).settled
  have builtin := isBuiltin_twoBases
  have five := length_made_twoBases
  generalize (create { installMeta := false }).run twoBasesAdded = r at settled builtin five ⊢
  have builtin : r.compiler.vocabulary.IsBuiltin := builtin
  obtain ⟨-, -, once, bound⟩ := compile_finite settled builtin ⟨0⟩
  rw [five] at bound
  exact ⟨settled, builtin, once, five, bound⟩

/-- The fragments of the references as they are written are too few to bound the number of fragments
    that are made: one text may be percent-encoded from one base and not from another one. -/
theorem made_exceeds_written :
    ¬ ∀ (compiler : Compiler) (s : Store) (id : EntryId), s.Settled (fun _ _ => True) →
      compiler.vocabulary.IsBuiltin →
      (compiler.made id s).length ≤ (s.pairs (s.written.map fragmentPart)).toFinset.card := by
  intro bound
  have settled := (Registry.reached_good { installMeta := false } twoBasesAdded).settled
  have builtin := isBuiltin_twoBases
  have five := length_made_twoBases
  have four : ∀ r, r = (create { installMeta := false }).run twoBasesAdded →
      (r.store.pairs (r.store.written.map fragmentPart)).toFinset.card = 4 := by
    rintro r rfl
    decide +kernel
  have four := four _ rfl
  generalize (create { installMeta := false }).run twoBasesAdded = r at settled builtin five four
  have few := bound r.compiler r.store ⟨0⟩ settled builtin
  rw [five, four] at few
  exact absurd few (by decide)

end Compiler

end JsonSchema
