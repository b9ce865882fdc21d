import JsonSchema.Proofs.Compilation.Watching
import JsonSchema.Proofs.Validation.Locations

/-!
# The places that a compilation comes to

Each part of a compilation comes to the keywords of a region, to none of them twice. Parts with
regions that are apart from each other can be put together, because an entry is begun once.

* `Value.region`: the keywords in a schema, each at the path that some turns make.
* `Store.Begins`: the keywords in the entries that are begun from one store to another one.
* `CompileM.Visits`: a part of a compilation comes to the keywords of a region, and to those of the
  entries that it begins, and to none of them twice.
-/

namespace JsonSchema

/-! ## Regions -/

/-- Where a keyword is: the entry that it is in, and the path in its document. -/
def Occurrence.position (o : Occurrence) : EntryId × String := (o.place.entry, o.schemaPath)

/-- The lists of turns that go on beyond some turns. -/
def Turn.beyond (first : List Turn) : Set (List Turn) :=
  {turns | ∃ turn more, turns = first ++ turn :: more}

/-- The keywords in a schema at a path that are where some turns lead. -/
def Value.region (schema : Value) (path : String) (among : Set (List Turn)) : Set Occurrence :=
  {o | ∃ turns ∈ among, schema.at? turns = some o.value ∧
    o.schemaPath = (turns.map Turn.token).foldl Pointer.child path}

/-- No keyword of one set is at the path of one of another set. -/
def Occurrence.Apart (S T : Set Occurrence) : Prop :=
  ∀ o ∈ S, ∀ o' ∈ T, o.schemaPath ≠ o'.schemaPath

theorem Pointer.foldl_child_injective (path : String) :
    Function.Injective fun steps : List String => steps.foldl child path := by
  intro steps steps' same
  have same := congrArg String.toList same
  simp only [toList_foldl_child] at same
  have same := List.append_cancel_left same
  refine ofSegments_injective ?_
  rw [← String.toList_inj, ofSegments, ofSegments, toList_foldl_child, toList_foldl_child, same]

namespace Value

variable {schema part : Value} {path : String} {T T' : Set (List Turn)} {inner : List Turn}

theorem region_mono (within : T ⊆ T') : schema.region path T ⊆ schema.region path T' :=
  fun _ ⟨turns, mem, rest⟩ => ⟨turns, within mem, rest⟩

/-- Different turns lead to different paths. -/
theorem region_apart (disjoint : ∀ turns ∈ T, turns ∉ T') :
    Occurrence.Apart (schema.region path T) (schema.region path T') := by
  rintro o ⟨turns, mem, leads, own⟩ o' ⟨turns', mem', leads', own'⟩ same
  have tokens : turns.map Turn.token = turns'.map Turn.token :=
    Pointer.foldl_child_injective path (own.symm.trans (same.trans own'))
  have turns_ : turns = turns' := eq_of_ofTurns_eq leads leads' (congrArg Pointer.ofSegments tokens)
  exact disjoint turns mem (turns_ ▸ mem')

/-- What is inside a part of a schema is inside the schema, beyond the part. -/
theorem region_of_part (leads : schema.at? inner = some part) :
    part.region ((inner.map Turn.token).foldl Pointer.child path) (Turn.beyond []) ⊆
      schema.region path (Turn.beyond inner) := by
  rintro o ⟨-, ⟨turn, more, rfl⟩, rest, own⟩
  refine ⟨inner ++ turn :: more, ⟨turn, more, rfl⟩, ?_, ?_⟩
  · rw [at?, List.foldlM_append]
    exact Option.bind_eq_some_iff.2 ⟨part, leads, rest⟩
  · rw [own, List.nil_append, List.map_append, List.foldl_append]

end Value

/-- Beyond different turns from one place there are different places. -/
theorem Turn.beyond_disjoint (first : List Turn) {turn turn' : Turn} (other : turn ≠ turn') :
    ∀ turns ∈ beyond (first ++ [turn]), turns ∉ beyond (first ++ [turn']) := by
  rintro turns ⟨last, rest, rfl⟩ ⟨last', rest', same⟩
  rw [List.append_assoc, List.append_assoc, List.singleton_append, List.singleton_append] at same
  exact other (List.cons.inj (List.append_cancel_left same)).1

theorem Turn.beyond_mono (first more : List Turn) : beyond (first ++ more) ⊆ beyond first := by
  rintro turns ⟨turn, rest, rfl⟩
  cases more with
  | nil => exact ⟨turn, rest, by rw [List.append_nil]⟩
  | cons next more => exact ⟨next, more ++ turn :: rest, by simp⟩

theorem Value.Sorted.follow {value part : Value} (sorted : value.Sorted) {steps : List String}
    (leads : steps.foldlM Value.step? value = some part) : part.Sorted := by
  induction steps generalizing value with
  | nil =>
    cases leads
    exact sorted
  | cons step steps ih =>
    rw [List.foldlM_cons] at leads
    obtain ⟨next, first, rest⟩ := Option.bind_eq_some_iff.1 leads
    refine ih ?_ rest
    cases value with
    | object members => exact (sorted_object_iff.1 sorted).2 _ (Members.mem_of_get? first)
    | array items =>
      obtain ⟨i, -, item⟩ := Option.bind_eq_some_iff.1 first
      exact sorted_array_iff.1 sorted _ (List.mem_of_getElem? item)
    | _ => cases first

/-! ## Stores -/

namespace Store

/-- Entries stay with their documents, and stay begun. -/
def Continues (s s' : Store) : Prop :=
  ∀ id e, s.entry? id = some e → ∃ e', s'.entry? id = some e' ∧ e'.document = e.document ∧
    (e.progress.isStarted = true → e'.progress.isStarted = true)

/-- No object in a document has two members of one name. -/
def Sorted (s : Store) : Prop := ∀ id e, s.entry? id = some e → e.document.Sorted

/-- A keyword is in an entry that is begun from one store to another one. -/
def Begins (s s' : Store) (o : Occurrence) : Prop :=
  ¬ s.IsStarted o.place.entry ∧ ∃ e, s'.entry? o.place.entry = some e ∧
    e.progress.isStarted = true ∧ o ∈ e.document.region "#" (Turn.beyond [])

variable {s s' s'' : Store} {o : Occurrence}

theorem Continues.refl (s : Store) : s.Continues s := fun _ e found => ⟨e, found, rfl, fun h => h⟩

theorem Continues.trans (h : s.Continues s') (h' : s'.Continues s'') : s.Continues s'' := by
  intro id e found
  obtain ⟨e', found', document, started⟩ := h id e found
  obtain ⟨e'', found'', document', started'⟩ := h' id e' found'
  exact ⟨e'', found'', document'.trans document, fun begun => started' (started begun)⟩

theorem Continues.isStarted (h : s.Continues s') {id : EntryId} (started : s.IsStarted id) :
    s'.IsStarted id := by
  obtain ⟨e, found, begun⟩ := started
  obtain ⟨e', found', -, begun'⟩ := h id e found
  exact ⟨e', found', begun' begun⟩

theorem Begins.isStarted (begins : s.Begins s' o) : s'.IsStarted o.place.entry := by
  obtain ⟨-, e, found, begun, -⟩ := begins
  exact ⟨e, found, begun⟩

theorem Begins.later (begins : s.Begins s' o) (h : s'.Continues s'') : s.Begins s'' o := by
  obtain ⟨idle, e, found, begun, inside⟩ := begins
  obtain ⟨e', found', document, begun'⟩ := h _ e found
  exact ⟨idle, e', found', begun' begun, document ▸ inside⟩

theorem Begins.earlier (h : s.Continues s') (begins : s'.Begins s'' o) : s.Begins s'' o :=
  ⟨fun started => begins.1 (h.isStarted started), begins.2⟩

theorem Sorted.modify (sorted : s.Sorted) (id : EntryId) {change : Entry → Entry}
    (keeps : ∀ e, (change e).document = e.document) : (s.modify id change).Sorted := by
  intro j e' found
  rw [entry?_modify] at found
  split at found
  · obtain ⟨e, at_, rfl⟩ := Option.map_eq_some_iff.1 found
    rw [keeps e]
    exact sorted j e at_
  · exact sorted j e' found

theorem Sorted.fragment (sorted : s.Sorted) {source root : EntryId} {reference base pointer : String}
    {part : Value} (leads : s.resolve source reference = .fragment root base pointer part) :
    (s.fragment root base pointer part).2.2.Sorted := by
  intro j e found
  rcases Compilation.entry?_of_fragment found with found | ⟨⟨rfl, -⟩, -⟩
  · exact sorted j e found
  · obtain ⟨-, -, whole, segments, at_, -, follows⟩ := resolve_eq_fragment_iff.1 leads
    have leads : segments.foldlM Value.step? whole.document = some e.document := by
      rw [← Value.follow?_eq whole.document whole.id, follows]
      rfl
    exact (sorted root whole at_).follow leads

theorem Continues.modify (s : Store) (id : EntryId) {change : Entry → Entry}
    (keeps : ∀ e, (change e).document = e.document)
    (begun : ∀ e, e.progress.isStarted = true → (change e).progress.isStarted = true) :
    s.Continues (s.modify id change) := by
  intro j e found
  by_cases same : j = id
  · subst same
    exact ⟨change e, by rw [entry?_modify_self, found]; rfl, keeps e, begun e⟩
  · exact ⟨e, by rw [entry?_modify_of_ne same]; exact found, rfl, fun h => h⟩

end Store

theorem Compilation.Looks.continues {c c' : Compilation} (looks : Looks c c') :
    c.store.Continues c'.store := by
  intro id e found
  obtain ⟨e', found', reset, started, -⟩ := looks.stays id e found
  exact ⟨e', found', (congrArg Entry.document reset :), fun h => started.trans h⟩

/-! ## Parts of compilations -/

/-- What two parts come to, if none of it is at the same position. -/
theorem Occurrence.nodup_append {visits visits' : List Occurrence}
    (once : (visits.map position).Nodup) (once' : (visits'.map position).Nodup)
    (apart : ∀ o ∈ visits, ∀ o' ∈ visits', o.place.entry = o'.place.entry →
      o.schemaPath ≠ o'.schemaPath) : ((visits ++ visits').map position).Nodup := by
  rw [List.map_append, List.nodup_append]
  refine ⟨once, once', fun p mem p' mem' same => ?_⟩
  obtain ⟨o, memO, rfl⟩ := List.mem_map.1 mem
  obtain ⟨o', memO', rfl⟩ := List.mem_map.1 mem'
  obtain ⟨entry, path⟩ := Prod.mk.inj same
  exact apart o memO o' memO' entry path

/-- What is said by two parts, and besides of what they come to. -/
theorem perm_append_marked {α β : Type} {f : α → List β} {visits visits' : List α}
    {added added' new new' : List β} (first : new.Perm (added ++ visits.flatMap f))
    (second : new'.Perm (added' ++ visits'.flatMap f)) :
    (new ++ new').Perm (added ++ added' ++ (visits ++ visits').flatMap f) := by
  refine (first.append second).trans ?_
  simp only [List.flatMap_append, List.append_assoc]
  refine .append_left added ?_
  simp only [← List.append_assoc]
  exact .append_right _ List.perm_append_comm

/-- The compilation with another trace. -/
def Compilation.withEvents (c : Compilation) (events : List Event) : Compilation :=
  { c with events := events }

namespace CompileM

variable {α β : Type} {source : EntryId} {S T U : Set Occurrence}

/-- A part of a compilation that succeeded. There are some keywords that it came to, each in the
    region `S` of the entry `source` or in an entry that was begun, and no two at one position. If
    something is said before and after every keyword, it succeeds in the same way, and what is said
    besides is what is said of these keywords. -/
structure Visited (source : EntryId) (S : Set Occurrence)
    (watched : (Occurrence → List Event) → CompileM α) (c : Compilation) (a : α) (c' : Compilation) :
    Prop where
  continues : c.store.Continues c'.store
  sorted : c'.store.Sorted
  visits : ∃ (visits : List Occurrence) (added : List Event), (visits.map Occurrence.position).Nodup ∧
    (∀ o ∈ visits, (o.place.entry = source ∧ o ∈ S) ∨ c.store.Begins c'.store o) ∧
    ∀ marks events, ∃ new, new.Perm (added ++ visits.flatMap fun o => marks o ++ marks o) ∧
      watched marks (c.withEvents events) = .ok a (c'.withEvents (events ++ new))

/-- Whenever this part of the compilation of `source` succeeds, it visits keywords of `S`. -/
def Visits (source : EntryId) (S : Set Occurrence) (m : CompileM α)
    (watched : (Occurrence → List Event) → CompileM α) : Prop :=
  ∀ c a c', c.store.IsStarted source → c.store.Sorted → m c = .ok a c' →
    Visited source S watched c a c'

/-- A step that leaves the store alone, and that does not look at the trace. -/
def Still (m : CompileM α) : Prop :=
  ∀ c a c', m c = .ok a c' → c'.store = c.store ∧ ∃ added, ∀ events,
    m (c.withEvents events) = .ok a (c'.withEvents (events ++ added))

/-! ### Steps that leave the store alone -/

namespace Still

theorem pure (a : α) : Still (Pure.pure a : CompileM α) := by
  intro c b c' ran
  cases ran
  exact ⟨rfl, [], fun events => by rw [List.append_nil]; rfl⟩

theorem throw (e : SchemaError) : Still (MonadExcept.throw e : CompileM α) :=
  fun c a c' ran => by cases ran

theorem trace (added : List Event) : Still (Compilation.trace added) := by
  intro c a c' ran
  cases ran
  exact ⟨rfl, added, fun events => rfl⟩

theorem bind {m : CompileM α} {f : α → CompileM β} (first : Still m) (second : ∀ a, Still (f a)) :
    Still (m >>= f) := by
  intro c b c' ran
  cases run : m c with
  | error e d =>
    rw [bind_error run] at ran
    cases ran
  | ok a d =>
    rw [bind_ok run] at ran
    obtain ⟨same, added, again⟩ := first c a d run
    obtain ⟨same', added', again'⟩ := second a d b c' ran
    refine ⟨same'.trans same, added ++ added', fun events => ?_⟩
    rw [bind_ok (again events), again', List.append_assoc]

/-- The store may be looked at, but not the trace. -/
theorem get_bind {f : Compilation → CompileM β} (blind : ∀ c events, f (c.withEvents events) = f c)
    (rest : ∀ c, Still (f c)) : Still (MonadState.get >>= f) := by
  intro c a c' ran
  obtain ⟨same, added, again⟩ := rest c c a c' ran
  refine ⟨same, added, fun events => ?_⟩
  show f (c.withEvents events) (c.withEvents events) = _
  rw [blind, again]

theorem lift (o : Occurrence) (x : Except Fault α) : Still (o.lift x) := by
  cases x with
  | ok a => exact pure a
  | error fault => exact throw _

end Still

/-! ### Putting parts together -/

namespace Visits

variable {m : CompileM α} {w : (Occurrence → List Event) → CompileM α}

theorem of_still (still : Still m) : Visits source S m fun _ => m := by
  intro c a c' _ sorted ran
  obtain ⟨same, added, again⟩ := still c a c' ran
  refine ⟨same ▸ .refl _, same ▸ sorted, [], added, List.nodup_nil, ?_, fun marks events => ?_⟩
  · exact fun o mem => absurd mem List.not_mem_nil
  · exact ⟨added, by rw [List.flatMap_nil, List.append_nil], again events⟩

theorem mono (h : Visits source S m w) (within : S ⊆ T) : Visits source T m w := by
  intro c a c' started sorted ran
  obtain ⟨continues, sorted', visits, added, once, inside, again⟩ := h c a c' started sorted ran
  exact ⟨continues, sorted', visits, added, once,
    fun o mem => (inside o mem).imp_left fun ⟨own, at_⟩ => ⟨own, within at_⟩, again⟩

/-- Two parts that come to keywords apart from each other, one after the other. -/
theorem bind {f : α → CompileM β} {g : (Occurrence → List Event) → α → CompileM β}
    (apart : Occurrence.Apart S T) (first : Visits source S m w)
    (second : ∀ a, Visits source T (f a) (g · a)) :
    Visits source (S ∪ T) (m >>= f) fun marks => w marks >>= g marks := by
  intro c b c'' started sorted ran
  cases run : m c with
  | error e d =>
    rw [bind_error run] at ran
    cases ran
  | ok a c' =>
    rw [bind_ok run] at ran
    obtain ⟨continues, sorted', visits, added, once, inside, again⟩ := first c a c' started sorted run
    obtain ⟨continues', sorted'', visits', added', once', inside', again'⟩ :=
      second a c' b c'' (continues.isStarted started) sorted' ran
    refine ⟨continues.trans continues', sorted'', visits ++ visits', added ++ added', ?_, ?_, ?_⟩
    · refine Occurrence.nodup_append once once' fun o memO o' memO' entry path => ?_
      -- what was begun by the first part is begun no more, and `source` was begun before both
      rcases inside o memO with ⟨own, at_⟩ | begins
      · rcases inside' o' memO' with ⟨-, at_'⟩ | begins'
        · exact apart o at_ o' at_' path
        · refine begins'.1 ?_
          rw [← entry, own]
          exact continues.isStarted started
      · rcases inside' o' memO' with ⟨own', -⟩ | begins'
        · refine begins.1 ?_
          rw [entry, own']
          exact started
        · exact begins'.1 (entry ▸ begins.isStarted)
    · intro o mem
      rcases List.mem_append.1 mem with mem | mem
      · exact (inside o mem).imp (fun ⟨own, at_⟩ => ⟨own, .inl at_⟩) (·.later continues')
      · exact (inside' o mem).imp (fun ⟨own, at_⟩ => ⟨own, .inr at_⟩) (·.earlier continues)
    · intro marks events
      obtain ⟨new, perm, again⟩ := again marks events
      obtain ⟨new', perm', again'⟩ := again' marks (events ++ new)
      refine ⟨new ++ new', perm_append_marked perm perm', ?_⟩
      rw [bind_ok again, again', List.append_assoc]

/-- A part in front that leaves the store alone comes to nothing. -/
theorem still_bind {f : α → CompileM β} {g : (Occurrence → List Event) → α → CompileM β}
    (first : Still m) (second : ∀ a, Visits source S (f a) (g · a)) :
    Visits source S (m >>= f) fun marks => m >>= g marks :=
  (bind (fun _ mem => mem.elim) (of_still (S := ∅) first) second).mono (Set.empty_union S).subset

/-- A part behind that leaves the store alone comes to nothing. -/
theorem bind_still {f : α → CompileM β} (first : Visits source S m w)
    (second : ∀ a, Still (f a)) : Visits source S (m >>= f) fun marks => w marks >>= f :=
  (bind (fun _ _ _ mem => mem.elim) first fun a => of_still (S := ∅) (second a)).mono
    (Set.union_empty S).subset

theorem lift_bind {x : Except Fault α} {f : α → CompileM β}
    {g : (Occurrence → List Event) → α → CompileM β} {o : Occurrence}
    (rest : ∀ a, x = .ok a → Visits source S (f a) (g · a)) :
    Visits source S (o.lift x >>= f) fun marks => o.lift x >>= g marks := by
  cases x with
  | ok a => exact rest a rfl
  | error fault => exact of_still (.throw _)

/-- Parts for the members of a list that come to keywords apart from each other. -/
theorem mapM {list : List α} {f : α → CompileM β} {g : (Occurrence → List Event) → α → CompileM β}
    (among : α → Set Occurrence) (apart : list.Pairwise fun a b => Occurrence.Apart (among a) (among b))
    (step : ∀ a ∈ list, Visits source (among a) (f a) (g · a)) :
    Visits source {o | ∃ a ∈ list, o ∈ among a} (list.mapM f) fun marks => list.mapM (g marks) := by
  induction list with
  | nil =>
    simp only [List.mapM_nil]
    exact of_still (.pure _)
  | cons a rest ih =>
    obtain ⟨head, tail⟩ := List.pairwise_cons.1 apart
    simp only [List.mapM_cons]
    refine (bind (T := {o | ∃ b ∈ rest, o ∈ among b}) ?_ (step a List.mem_cons_self)
      fun b => ?_).mono ?_
    · rintro o mem o' ⟨b, memB, mem'⟩
      exact head b memB o mem o' mem'
    · exact (ih tail fun b mem => step b (List.mem_cons_of_mem _ mem)).bind_still fun bs => .pure _
    · rintro o (mem | ⟨b, memB, mem⟩)
      · exact ⟨a, List.mem_cons_self, mem⟩
      · exact ⟨b, List.mem_cons_of_mem _ memB, mem⟩

end Visits

end CompileM

end JsonSchema
