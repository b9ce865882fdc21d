import JsonSchema.Proofs.Compilation.References
import JsonSchema.Proofs.Store.Denotation
import JsonSchema.Proofs.Validation.Promptness

/-!
# Sound stores

What holds of a store while something is compiled, and what holds of it between compilations.

* `Entry.Holds`: a compiled schema is the compiled form of the document of its entry.
* `Store.Sound`: the tables agree with the entries, references still denote what they led
  to, and what is compiled was compiled from its own document and leads only to what is
  compiled or being compiled; what belongs to a synchronous document does not wait.
* `Store.Settled`: besides, nothing is being compiled.
* `Store.Sound.modify`, `Store.Settled.remove`: what keeps a store sound or settled.
-/

namespace JsonSchema

/-! ## Progress -/

namespace Progress

/-- Whether the compilation has begun and is not over. -/
def isPending : Progress → Bool
  | inProgress _ => true
  | _ => false

theorem isStarted_of_isPending {p : Progress} (h : p.isPending = true) : p.isStarted = true := by
  cases p <;> first | rfl | cases h

theorem refs_eq_nil {p : Progress} (h : p.isStarted = false) : p.refs = [] := by
  cases p <;> first | rfl | cases h

/-- How the compilation of an entry goes on while others are compiled: what is compiled
    stays as it is, and what is being compiled may follow more references. -/
inductive Grows : Progress → Progress → Prop
  | same (p : Progress) : Grows p p
  | begins {p : Progress} (q : Progress) (h : p.isStarted = false) : Grows p q
  | follows (refs more : Bindings String EntryId) :
      Grows (inProgress refs) (inProgress (refs ++ more))

namespace Grows

theorem trans {p q r : Progress} (h : Grows p q) (h' : Grows q r) : Grows p r := by
  cases h with
  | same => exact h'
  | begins _ idle => exact .begins _ idle
  | follows refs more =>
    cases h' with
    | same => exact .follows _ _
    | begins _ idle => cases idle
    | follows _ more' =>
      rw [List.append_assoc]
      exact .follows _ _

theorem isStarted {p q : Progress} (h : Grows p q) (started : p.isStarted = true) :
    q.isStarted = true := by
  cases h with
  | same => exact started
  | begins _ idle => rw [idle] at started; cases started
  | follows => rfl

theorem isPending {p q : Progress} (h : Grows p q) (pending : p.isPending = true) :
    q.isPending = true := by
  cases h with
  | same => exact pending
  | begins _ idle => rw [isStarted_of_isPending pending] at idle; cases idle
  | follows => rfl

/-- References that were followed stay with what they led to. -/
theorem find? {p q : Progress} (h : Grows p q) {key : String} {target : EntryId}
    (found : p.refs.find? key = some target) : q.refs.find? key = some target := by
  cases h with
  | same => exact found
  | begins _ idle => rw [refs_eq_nil idle] at found; cases found
  | follows refs more =>
    have found : refs.find? key = some target := found
    show (refs ++ more).find? key = some target
    rw [Bindings.find?_append, found]
    rfl

end Grows

end Progress

/-! ## Compiled entries -/

namespace Entry

/-- The place at which the document of an entry is compiled. -/
def place (e : Entry) (id : EntryId) (underMeta : Bool) : Place where
  entry := id
  base := e.id
  schemaPath := "#"
  applyId := e.isFragment
  underMeta := underMeta || e.isMeta

/-- A compiled schema is what one of some compilers made of the document of an entry when
    references were bound like this. -/
def Holds (K : EntryId → Compiler → Prop) (e : Entry) (id : EntryId) (node : Node)
    (refs : Bindings String EntryId) : Prop :=
  ∃ compiler fuel underMeta, K id compiler ∧
    (∃ c c', compiler.schema fuel e.document (e.place id underMeta) c = .ok node c') ∧
    compiler.Compiled refs fuel e.document (e.place id underMeta) node

end Entry

namespace Store

variable {K : EntryId → Compiler → Prop} {s s' : Store} {id : EntryId} {e : Entry}

/-- The compilation of an entry has begun, or is over with success. -/
def IsStarted (s : Store) (id : EntryId) : Prop :=
  ∃ e, s.entry? id = some e ∧ e.progress.isStarted = true

/-- The document that an entry belongs to is synchronous. -/
def IsSync (s : Store) (id : EntryId) : Prop := ∃ d, s.rootEntry? id = some d ∧ d.isAsync = false

theorem rootEntry?_eq (found : s.entry? id = some e) : s.rootEntry? id = s.entry? e.root := by
  rw [ rootEntry?, found, Option.bind_some]

theorem isAsync_eq_true_iff : s.isAsync id = true ↔ ∃ d, s.rootEntry? id = some d ∧ d.isAsync = true := by
  rw [isAsync]
  cases s.rootEntry? id with
  | none => exact ⟨fun h => (nomatch h), fun ⟨_, h, _⟩ => (nomatch h)⟩
  | some d => exact ⟨fun h => ⟨d, rfl, h⟩, fun ⟨_, h, async⟩ => by cases h; exact async⟩

theorem IsSync.not_isAsync (sync : s.IsSync id) : s.isAsync id = false := by
  obtain ⟨d, found, sync⟩ := sync
  rw [isAsync, found, Option.map_some, Option.getD_some, sync]

/-- An entry that is there belongs to a document, which is synchronous or not. -/
theorem Linked.isSync (linked : s.Linked) (found : s.entry? id = some e)
    (sync : s.isAsync id = false) : s.IsSync id := by
  obtain ⟨d, foundD, -⟩ := linked.root_entry found
  rw [isAsync, rootEntry?_eq found, foundD] at sync
  exact ⟨d, (rootEntry?_eq found).trans foundD, sync⟩

/-- The document that an entry belongs to is still there, and is asynchronous if it was. -/
def KeepsRoot (s s' : Store) (id : EntryId) : Prop :=
  ∀ d, s.rootEntry? id = some d → ∃ d', s'.rootEntry? id = some d' ∧ d'.isAsync = d.isAsync

theorem KeepsRoot.isSync (kept : s.KeepsRoot s' id) (sync : s.IsSync id) : s'.IsSync id := by
  obtain ⟨d, found, sync⟩ := sync
  obtain ⟨d', found', same⟩ := kept d found
  exact ⟨d', found', same.trans sync⟩

theorem KeepsRoot.isAsync (kept : s.KeepsRoot s' id) (async : s.isAsync id = true) :
    s'.isAsync id = true := by
  obtain ⟨d, found, async⟩ := isAsync_eq_true_iff.1 async
  obtain ⟨d', found', same⟩ := kept d found
  exact isAsync_eq_true_iff.2 ⟨d', found', same.trans async⟩

theorem Preserves.keepsRoot {keep : EntryId → Prop} (kept : s.Preserves s' keep) (keeps : keep id) :
    s.KeepsRoot s' id := by
  intro d found
  obtain ⟨e, foundE, foundD⟩ := Option.bind_eq_some_iff.1 found
  obtain ⟨m, p, foundE'⟩ := kept.entry id e keeps foundE
  obtain ⟨m', p', foundD'⟩ := kept.entry e.root d (kept.root id e keeps foundE) foundD
  exact ⟨_, (rootEntry?_eq foundE').trans foundD', rfl⟩

/-- A compiled schema waits for nothing and leads to nothing that waits, unless the document it
    belongs to is asynchronous. -/
def Admits (s : Store) (id : EntryId) (node : Node) : Prop :=
  s.isAsync id = true ∨ node.Prompt s.IsSync

theorem Admits.transfer {node : Node} (admits : s.Admits id node) (kept : s.KeepsRoot s' id)
    (leads : ∀ target reference, node.Contains (.ref target reference) → s.KeepsRoot s' target) :
    s'.Admits id node :=
  admits.imp kept.isAsync fun prompt => prompt.imp fun target reference occurs =>
    (leads target reference occurs).isSync

theorem admits_always (s : Store) (id : EntryId) (verdict : Bool) : s.Admits id (.always verdict) :=
  .inr (Node.prompt_always verdict)

/-- A document may contain keywords that it admits. -/
theorem admits_rules {rules : List (Rule Check)}
    (waits : ∀ rule ∈ rules, ∀ test, rule.check = .deferred test → s.isAsync id = true)
    (parts : ∀ rule ∈ rules, ∀ part ∈ rule.check.parts, s.Admits id part) :
    s.Admits id (.rules rules) := by
  by_cases async : s.isAsync id = true
  · exact .inl async
  · refine .inr (Node.prompt_rules (fun rule mem test own => async (waits rule mem test own)) ?_)
    exact fun rule mem part of => (parts rule mem part of).resolve_left async

/-- What holds of a store while something is compiled by one of some compilers. -/
structure Sound (K : EntryId → Compiler → Prop) (s : Store) : Prop where
  linked : s.Linked
  uniform : s.Uniform
  /-- A reference that was followed denotes what it led to. -/
  current : ∀ id e, s.entry? id = some e → ∀ ref ∈ e.refs, s.Denotes id ref.1 ref.2
  /-- What is compiled was compiled from its own document. -/
  holds : ∀ id e node refs, s.entry? id = some e → e.progress = .done node refs →
    e.Holds K id node refs
  /-- What is compiled leads to what is compiled or is being compiled. -/
  leads : ∀ id e node refs, s.entry? id = some e → e.progress = .done node refs →
    ∀ ref ∈ refs, s.IsStarted ref.2
  /-- What is compiled waits for nothing, unless its document is asynchronous. -/
  admits : ∀ id e node refs, s.entry? id = some e → e.progress = .done node refs → s.Admits id node

/-- What holds of a store when nothing is being compiled. -/
structure Settled (K : EntryId → Compiler → Prop) (s : Store) : Prop extends Sound K s where
  /-- Nothing is being compiled. -/
  idle : ∀ id e, s.entry? id = some e → e.progress.isPending = false

theorem Sound.weaken {K' : EntryId → Compiler → Prop} (h : ∀ id compiler, K id compiler → K' id compiler)
    (sound : s.Sound K) : s.Sound K' where
  linked := sound.linked
  uniform := sound.uniform
  current := sound.current
  leads := sound.leads
  admits := sound.admits
  holds id e node refs found done := by
    obtain ⟨compiler, fuel, underMeta, k, run, shape⟩ := sound.holds id e node refs found done
    exact ⟨compiler, fuel, underMeta, h id compiler k, run, shape⟩

theorem Settled.weaken {K' : EntryId → Compiler → Prop} (h : ∀ id compiler, K id compiler → K' id compiler)
    (settled : s.Settled K) : s.Settled K' where
  toSound := settled.toSound.weaken h
  idle := settled.idle

/-! ## Additions -/

/-- Additions of entries without progress, which agree with their documents on being
    meta-schemas, keep a store sound. -/
theorem Sound.extend (sound : s.Sound K) (linked : s'.Linked)
    (kept : s.Preserves s' fun _ => True)
    (entry : ∀ id e, s.entry? id = some e → s'.entry? id = some e)
    (added : ∀ id e, s'.entry? id = some e → s.entry? id = some e ∨
      e.progress = .notStarted ∧ ∀ d, s'.entry? e.root = some d → e.isMeta = d.isMeta) :
    s'.Sound K where
  linked := linked
  uniform id e d found foundD := by
    rcases added id e found with old | ⟨-, agree⟩
    · obtain ⟨d', foundD', -, -⟩ := sound.linked.root_entry old
      have same := entry _ _ foundD'
      rw [foundD] at same
      cases same
      exact sound.uniform id e d old foundD'
    · exact agree d foundD
  current id e found ref mem := by
    rcases added id e found with old | ⟨new, -⟩
    · exact (sound.current id e old ref mem).transfer sound.linked kept trivial trivial
    · rw [Entry.refs, new] at mem
      cases mem
  holds id e node refs found done := by
    rcases added id e found with old | ⟨new, -⟩
    · exact sound.holds id e node refs old done
    · rw [new] at done
      cases done
  leads id e node refs found done ref mem := by
    rcases added id e found with old | ⟨new, -⟩
    · obtain ⟨t, ht, started⟩ := sound.leads id e node refs old done ref mem
      exact ⟨t, entry _ _ ht, started⟩
    · rw [new] at done
      cases done
  admits id e node refs found done := by
    rcases added id e found with old | ⟨new, -⟩
    · exact (sound.admits id e node refs old done).transfer (kept.keepsRoot trivial)
        fun _ _ _ => kept.keepsRoot trivial
    · rw [new] at done
      cases done

/-- Such additions keep a store settled. -/
theorem Settled.extend (settled : s.Settled K) (linked : s'.Linked)
    (kept : s.Preserves s' fun _ => True)
    (entry : ∀ id e, s.entry? id = some e → s'.entry? id = some e)
    (added : ∀ id e, s'.entry? id = some e → s.entry? id = some e ∨
      e.progress = .notStarted ∧ ∀ d, s'.entry? e.root = some d → e.isMeta = d.isMeta) :
    s'.Settled K where
  toSound := settled.toSound.extend linked kept entry added
  idle id e found := by
    rcases added id e found with old | ⟨new, -⟩
    · exact settled.idle id e old
    · rw [new]
      rfl

/-! ## Compilation of one entry -/

theorem Uniform.modify (uniform : s.Uniform) {change : Entry → Entry}
    (keep : ∀ e, (change e).reset = e.reset) (id : EntryId) : (s.modify id change).Uniform := by
  have plain : ∀ {j : EntryId} {e' : Entry}, Store.entry? (s.modify id change) j = some e' →
      ∃ e, s.entry? j = some e ∧ e'.isMeta = e.isMeta ∧ e'.root = e.root := by
    intro j e' found
    rw [entry?_modify] at found
    split at found
    · obtain ⟨e, he, rfl⟩ := Option.map_eq_some_iff.1 found
      exact ⟨e, he, (congrArg Entry.isMeta (keep e) :), (congrArg Entry.root (keep e) :)⟩
    · exact ⟨e', found, rfl, rfl⟩
  intro j e' d' found foundD
  obtain ⟨e, he, hm, hr⟩ := plain found
  obtain ⟨d, hd, hmd, -⟩ := plain foundD
  rw [hm, hmd]
  exact uniform j e d he (hr ▸ hd)

/-- A step in the compilation of an entry keeps the store sound if what the entry refers to
    afterwards is denoted, and if the step is right in case it is the last one. -/
theorem Sound.modify (sound : s.Sound K) {change : Entry → Entry}
    (keep : ∀ e, (change e).reset = e.reset) (found : s.entry? id = some e)
    (denoted : ∀ ref ∈ (change e).refs, s.Denotes id ref.1 ref.2)
    (starts : e.progress.isStarted = true → (change e).progress.isStarted = true)
    (finishes : ∀ node refs, (change e).progress = .done node refs →
      (change e).Holds K id node refs ∧ (∀ ref ∈ refs, s.IsStarted ref.2) ∧ s.Admits id node) :
    (s.modify id change).Sound K := by
  have alike : s.Alike (s.modify id change) :=
    modify_alike change (fun e => Entry.bare_eq_of_reset_eq (keep e)) s id
  have kept := alike.preserves
  have started : ∀ {j : EntryId}, s.IsStarted j → (s.modify id change).IsStarted j := by
    rintro j ⟨f, hf, hs⟩
    by_cases h : j = id
    · subst h
      rw [found] at hf
      cases hf
      exact ⟨change e, by rw [entry?_modify_self, found]; rfl, starts hs⟩
    · exact ⟨f, by rw [entry?_modify_of_ne h]; exact hf, hs⟩
  refine ⟨sound.linked.of_alike alike, sound.uniform.modify keep id, ?_, ?_, ?_, ?_⟩
  · intro j e' found' ref mem
    refine Denotes.transfer sound.linked kept ?_ trivial trivial
    by_cases h : j = id
    · subst h
      rw [entry?_modify_self, found] at found'
      cases found'
      exact denoted ref mem
    · rw [entry?_modify_of_ne h] at found'
      exact sound.current j e' found' ref mem
  · intro j e' node refs found' done
    by_cases h : j = id
    · subst h
      rw [entry?_modify_self, found] at found'
      cases found'
      exact (finishes node refs done).1
    · rw [entry?_modify_of_ne h] at found'
      exact sound.holds j e' node refs found' done
  · intro j e' node refs found' done ref mem
    refine started ?_
    by_cases h : j = id
    · subst h
      rw [entry?_modify_self, found] at found'
      cases found'
      exact (finishes node refs done).2.1 ref mem
    · rw [entry?_modify_of_ne h] at found'
      exact sound.leads j e' node refs found' done ref mem
  · intro j e' node refs found' done
    refine Admits.transfer (s := s) ?_ (kept.keepsRoot trivial) fun _ _ _ => kept.keepsRoot trivial
    by_cases h : j = id
    · subst h
      rw [entry?_modify_self, found] at found'
      cases found'
      exact (finishes node refs done).2.2
    · rw [entry?_modify_of_ne h] at found'
      exact sound.admits j e' node refs found' done

/-! ## Settled stores -/

namespace Settled

/-- In a settled store what is compiled leads to what is compiled. -/
theorem started_done (settled : s.Settled K) (h : s.IsStarted id) :
    ∃ e node refs, s.entry? id = some e ∧ e.progress = .done node refs := by
  obtain ⟨e, found, started⟩ := h
  have idle := settled.idle id e found
  cases hp : e.progress with
  | done node refs => exact ⟨e, node, refs, found, hp⟩
  | inProgress refs => rw [hp] at idle; cases idle
  | notStarted => rw [hp] at started; cases started
  | failed => rw [hp] at started; cases started

/-- In a settled store only what is compiled refers to anything. -/
theorem done_of_mem_refs (settled : s.Settled K) (found : s.entry? id = some e)
    {ref : String × EntryId} (mem : ref ∈ e.refs) : ∃ node, e.progress = .done node e.refs := by
  have idle := settled.idle id e found
  rw [Entry.refs] at mem ⊢
  cases hp : e.progress with
  | done node refs => exact ⟨node, rfl⟩
  | inProgress refs => rw [hp] at idle; cases idle
  | notStarted => rw [hp] at mem; cases mem
  | failed => rw [hp] at mem; cases mem

/-- A settled store stays settled when entries are reset or go, together with everything that
    leads to them, and the other entries stay as they are. -/
theorem calm (settled : s.Settled K) (reset keep : EntryId → Prop) (linked : s'.Linked)
    (uniform : s'.Uniform) (kept : s.Preserves s' keep) (keeps : ∀ id, ¬ reset id → keep id)
    (closed : ∀ id e, s.entry? id = some e → (∃ ref ∈ e.refs, reset ref.2) → reset id)
    (stays : ∀ id e, s.entry? id = some e → ¬ reset id → s'.entry? id = some e)
    (came : ∀ id e, s'.entry? id = some e →
      ¬ reset id ∧ s.entry? id = some e ∨ e.progress.isStarted = false) :
    s'.Settled K := by
  have apart : ∀ {id : EntryId} {e : Entry}, ¬ reset id → s.entry? id = some e →
      ∀ ref ∈ e.refs, ¬ reset ref.2 :=
    fun out found ref mem h => out (closed _ _ found ⟨ref, mem, h⟩)
  refine
    { linked := linked, uniform := uniform, current := ?_, holds := ?_, leads := ?_, admits := ?_
      idle := ?_ }
  · intro id e found ref mem
    rcases came id e found with ⟨out, old⟩ | idle
    · exact (settled.current id e old ref mem).transfer settled.linked kept (keeps id out)
        (keeps _ (apart out old ref mem))
    · rw [Entry.refs, Progress.refs_eq_nil idle] at mem
      cases mem
  · intro id e node refs found done
    rcases came id e found with ⟨-, old⟩ | idle
    · exact settled.holds id e node refs old done
    · rw [done] at idle
      cases idle
  · intro id e node refs found done ref mem
    rcases came id e found with ⟨out, old⟩ | idle
    · obtain ⟨t, ht, started⟩ := settled.leads id e node refs old done ref mem
      have mem : ref ∈ e.refs := by
        rw [Entry.refs, done]
        exact mem
      exact ⟨t, stays _ t ht (apart out old ref mem), started⟩
    · rw [done] at idle
      cases idle
  · intro id e node refs found done
    rcases came id e found with ⟨out, old⟩ | idle
    · refine (settled.admits id e node refs old done).transfer (kept.keepsRoot (keeps id out))
        fun target reference occurs => kept.keepsRoot (keeps target ?_)
      obtain ⟨compiler, fuel, underMeta, -, -, shape⟩ := settled.holds id e node refs old done
      have mem : (reference, target) ∈ e.refs := by
        rw [Entry.refs, done]
        exact Bindings.mem_of_find? (shape.find?_of_contains occurs)
      exact apart out old _ mem
    · rw [done] at idle
      cases idle
  · intro id e found
    rcases came id e found with ⟨-, old⟩ | idle
    · exact settled.idle id e old
    · refine Bool.eq_false_iff.2 fun pending => ?_
      rw [Progress.isStarted_of_isPending pending] at idle
      cases idle

/-- What is left when entries went, and what led to them was reset. -/
theorem of_removed (settled : s.Settled K) {gone : List EntryId}
    (linked : (s.without gone).Linked)
    (kept : s.Preserves (s.without gone) (· ∉ gone)) :
    ((s.without gone).invalidate gone).Settled K := by
  let reduced := s.without gone
  let D := reduced.dependents reduced.entries.size gone
  have alike : reduced.Alike (reduced.invalidate gone) := invalidate_alike _ _
  have out : ∀ {j : EntryId}, j ∉ D → j ∉ gone := fun h mem => h (subset_dependents _ _ _ _ mem)
  have entry : ∀ {j : EntryId} {e' : Entry}, Store.entry? (reduced.invalidate gone) j = some e' →
      ∃ e, s.entry? j = some e ∧ (j ∉ D ∧ e' = e ∨ e' = e.reset) := by
    intro j e' found
    rw [entry?_invalidate] at found
    split at found
    · obtain ⟨e, he, rfl⟩ := Option.map_eq_some_iff.1 found
      exact ⟨e, (Linked.not_mem_of_entry?_without he).2, .inr rfl⟩
    · next h => exact ⟨e', (Linked.not_mem_of_entry?_without found).2, .inl ⟨h, rfl⟩⟩
  refine settled.calm (· ∈ D) (· ∉ gone) (linked.of_alike alike) ?_
    (kept.alike alike) (fun _ => out) ?_ ?_ ?_
  · intro j e' d' found foundD
    obtain ⟨e, he, he'⟩ := entry found
    obtain ⟨d, hd, hd'⟩ := entry foundD
    have plain : e'.isMeta = e.isMeta ∧ e'.root = e.root := by
      rcases he' with ⟨-, rfl⟩ | rfl <;> exact ⟨rfl, rfl⟩
    have plainD : d'.isMeta = d.isMeta := by
      rcases hd' with ⟨-, rfl⟩ | rfl <;> rfl
    rw [plain.2] at hd
    rw [plain.1, plainD]
    exact settled.uniform j e d he hd
  · intro j e found refers
    by_cases h : j ∈ gone
    · exact subset_dependents _ _ _ _ h
    · refine dependents_closed (s := reduced) (e := e) ?_ refers
      rw [entry?_without, if_neg h]
      exact found
  · intro j e found h
    rw [entry?_invalidate, if_neg h, entry?_without, if_neg (out h)]
    exact found
  · intro j e' found
    obtain ⟨e, he, ⟨h, rfl⟩ | rfl⟩ := entry found
    · exact .inl ⟨h, he⟩
    · exact .inr rfl

/-- A removal leaves a settled store. -/
theorem remove (settled : s.Settled K) (id : EntryId) : (s.remove id).Settled K := by
  by_cases live : s.isLive id = true
  · rw [remove_of_isLive live]
    exact settled.of_removed (settled.linked.without id) (settled.linked.preserves_without id)
  · rw [remove_of_not_isLive (Bool.eq_false_iff.2 live)]
    exact settled

end Settled

end Store

end JsonSchema
