import JsonSchema.Proofs.Order.Steps

/-!
# Compilations of a store

Compilations that start from a store, or from what earlier compilations made of it, all find the
same documents, and keep what was compiled in that store.

* `Compilation.Continues`: a moment of such a compilation.
* `CompileM.Keeps`: what a step keeps, and how it may fail; `Compiler.keeps_node`: the rule for
  schemas.
* `Compilation.Meeting`, `Compiler.reference_compares`: references that are followed at the same spot
  in two such compilations.
-/

namespace JsonSchema

open Compilation (Good Leads Looks)

variable {K : EntryId → Compiler → Prop} {base : Store} {c c' d : Compilation} {compiler : Compiler}

namespace Store

variable {s s' : Store} {id : EntryId} {spot : Spot}

/-- What was compiled stays where it is. -/
theorem Settled.spared_startedAt (settled : s.Settled K) (spares : s.Spares s')
    (started : s.StartedAt spot) : s'.StartedAt spot := by
  obtain ⟨id, e, found, rfl, begun⟩ := startedAt_iff.1 started
  obtain ⟨e', node, refs, found', done⟩ := settled.started_done ⟨e, found, begun⟩
  cases found.symm.trans found'
  exact .of_entry (spares.compiled id e node refs found done) begun

/-- What is begun at the spot of an entry is the entry. -/
theorem Linked.isStarted_of_startedAt (linked : s.Linked) (started : s.StartedAt spot)
    (at_ : s.spot? id = some spot) : s.IsStarted id := by
  obtain ⟨id', at', begun⟩ := started
  rwa [linked.spot_unique at_ at']

theorem Corresponds.evolves {M : EntryId → EntryId → Prop} {t t' : Store} {id' : EntryId}
    (h : Corresponds M s s' id id') (evolves : s.Evolves t) (evolves' : s'.Evolves t') :
    Corresponds M t t' id id' := by
  obtain ⟨spot, spot', at_, at', same⟩ := h
  exact ⟨spot, spot', evolves.spot? at_, evolves'.spot? at', same⟩

end Store

namespace Compilation

theorem Advances.evolves {A : EntryId → Prop} (h : Advances A c d) : c.store.Evolves d.store := by
  intro id e found
  obtain ⟨e', found', reset, grows⟩ := h.grows id e found
  exact ⟨e', found', (congrArg Entry.spot reset :), grows.isStarted⟩

/-! ## Moments of compilations -/

/-- A moment of a compilation that began in one of certain stores. -/
def Continues (K : EntryId → Compiler → Prop) (P : Store → Prop) (c : Compilation) : Prop :=
  ∃ origin, origin.Settled K ∧ P origin ∧ Good K origin c

namespace Continues

variable {P P' : Store → Prop}

theorem start {s : Store} (settled : s.Settled K) (h : P s) : Continues K P { store := s } :=
  ⟨s, settled, h, settled.toSound, .start settled.idle⟩

theorem linked (h : Continues K P c) : c.store.Linked := by
  obtain ⟨origin, -, -, good⟩ := h
  exact good.sound.linked

/-- What spares a store is spared by the compilations that begin there. -/
theorem spares (h : Continues K base.Spares c) : base.Spares c.store := by
  obtain ⟨origin, settled, spares, good⟩ := h
  exact spares.trans (good.spares settled)

theorem shares (h : Continues K base.Spares c) (h' : Continues K base.Spares c') :
    c.store.Shares c'.store :=
  h.spares.shares.symm.trans h'.spares.shares

theorem matched (h : Continues K base.Spares c) (h' : Continues K base.Spares c') :
    c.store.Matches Eq c'.store :=
  (h.shares h').matches_self h.linked h'.linked

/-- Corresponding entries of two compilations have the same document. -/
theorem content {M : EntryId → EntryId → Prop} (h : Continues K P c) (h' : Continues K P' c')
    (matched : c.store.Matches M c'.store) {id id' : EntryId} {e e' : Entry}
    (corresponds : Store.Corresponds M c.store c'.store id id') (found : c.store.entry? id = some e)
    (found' : c'.store.entry? id' = some e') :
    e.document = e'.document ∧ ∀ underMeta underMeta',
      (e.place id underMeta).Like (e'.place id' underMeta') := by
  obtain ⟨base, document, part⟩ := matched.content h.linked h'.linked corresponds found found'
  exact ⟨document, fun _ _ => ⟨base, rfl, part⟩⟩

theorem begun (h : Continues K P c) {id : EntryId} {e : Entry} (found : c.store.entry? id = some e)
    (idle : e.progress.isStarted = false) :
    Continues K P (Compiler.begun c id) ∧ (Compiler.begun c id).Active id := by
  obtain ⟨origin, settled, spares, good⟩ := h
  exact ⟨⟨origin, settled, spares, Compiler.good_begun good found idle⟩,
    _, Compiler.entry?_begun found, rfl⟩

/-- Following a reference of an entry that is being compiled. -/
theorem resolve (h : Continues K P c) {source : EntryId} (active : c.Active source)
    (base' reference : String) :
    (c.store.resolve source (resolveUrl base' reference) = .missing ∧
      Compiler.resolve source base' reference c =
        .error (.missing (resolveUrl base' reference) (documentPart (resolveUrl base' reference))) c) ∨
    ∃ target d, Compiler.resolve source base' reference c = .ok (target, resolveUrl base' reference) d ∧
      Continues K P d ∧ Looks c d ∧ d.store.Denotes source (resolveUrl base' reference) target := by
  obtain ⟨origin, settled, spares, good⟩ := h
  rcases Compiler.resolve_cases good active base' reference with missing | ⟨target, d, run, good', found⟩
  · exact .inl missing
  · exact .inr ⟨target, d, run, ⟨origin, settled, spares, good'⟩, found⟩

variable (k : ∀ id, K id compiler) {fuel : Nat}

include k

theorem entry (h : Continues K P c) {id : EntryId} {underMeta : Bool} {u : Unit}
    (run : Compiler.entry (compiler.schema fuel) id underMeta c = .ok u d) :
    Continues K P d ∧ Leads c d ∧ d.store.IsStarted id := by
  obtain ⟨origin, settled, spares, good⟩ := h
  have ensured := Compiler.entry_ensures k (Compiler.schema_compiles k fuel) good id underMeta
  unfold CompileM.Ensures at ensured
  rw [run] at ensured
  obtain ⟨good', leads, started⟩ := ensured
  exact ⟨⟨origin, settled, spares, good'⟩, leads, started⟩

end Continues

end Compilation

open Compilation (Continues)

/-! ## What steps keep -/

/-- A step ends well and leaves something, or fails in a certain way. -/
def CompileM.Leaves {α : Type} (m : CompileM α) (c : Compilation) (P : Compilation → Prop)
    (Q : SchemaError → Prop) : Prop :=
  match m c with
  | .ok _ d => P d
  | .error e _ => Q e

/-- A step keeps something, unless it fails in a certain way. -/
def CompileM.Keeps {α : Type} (P : Compilation → Prop) (Q : SchemaError → Prop) (m : CompileM α) :
    Prop :=
  ∀ c, P c → m.Leaves c P Q

theorem CompileM.Leaves.bind {α β : Type} {m : CompileM α} {f : α → CompileM β} {P P' : Compilation → Prop}
    {Q : SchemaError → Prop} (first : m.Leaves c P Q)
    (second : ∀ a d, m c = .ok a d → P d → (f a).Leaves d P' Q) : (m >>= f).Leaves c P' Q := by
  unfold Leaves at first ⊢
  cases hm : m c with
  | error e d =>
    rw [bind_error hm]
    rw [hm] at first
    exact first
  | ok a d =>
    rw [bind_ok hm]
    rw [hm] at first
    exact second a d hm first

/-- The comparison of a compilation with itself. -/
def Comparison.itself (P : Compilation → Prop) (Q : SchemaError → Prop)
    (shallow : ∀ e, ¬ e.IsDeep → Q e) : Comparison where
  meets c c' := c = c' ∧ P c
  within _ := True
  together e _ := Q e
  first _ := False
  second _ := False
  same := shallow
  of_first _ _ h := h.elim
  of_second _ _ h := h.elim
  lax := .inl fun _ => trivial

theorem compares_itself {α : Type} {m : CompileM α} {P : Compilation → Prop} {Q : SchemaError → Prop}
    {shallow : ∀ e, ¬ e.IsDeep → Q e} :
    Compares (.itself P Q shallow) m m ↔ m.Evolves ∧ m.Keeps P Q := by
  refine and_congr_right fun _ => ⟨fun h c p => ?_, fun h c c' meets => ?_⟩
  · have outcome := h c c ⟨rfl, p⟩
    unfold CompileM.Leaves
    cases hm : m c with
    | error e d =>
      rw [hm] at outcome
      exact outcome
    | ok a d =>
      rw [hm] at outcome
      exact (outcome fun _ _ => trivial).2
  · obtain ⟨rfl, p⟩ := meets
    have kept := h c p
    unfold CompileM.Leaves at kept
    cases hm : m c with
    | error e d =>
      rw [hm] at kept
      exact kept
    | ok a d =>
      rw [hm] at kept
      exact fun _ => ⟨rfl, kept⟩

namespace Compiler

variable {P : Compilation → Prop} {Q : SchemaError → Prop} (shallow : ∀ e, ¬ e.IsDeep → Q e)

include shallow

/-- A schema keeps what its subschemas and its reference keep. -/
theorem schema_keeps (builtin : compiler.vocabulary.IsBuiltin) {fuel : Nat} {value : Value}
    {place : Place}
    (parts : ∀ (members : Members) part place', value = .object members → members.Part part →
      place'.Under (place.inner members) → (compiler.schema fuel part place').Keeps P Q)
    (references : ∀ (members : Members) text, value = .object members → Members.get? members "$ref" = some text →
      (reference (entry (compiler.schema fuel)) text (place.inner members)).Keeps P Q) :
    (compiler.schema (fuel + 1) value place).Keeps P Q := by
  suffices Compares (.itself P Q shallow) _ _ from (compares_itself.1 this).2
  refine compares_node builtin ⟨rfl, rfl, rfl⟩ (fun members h part p p' among under under' like => ?_)
    fun members text h own => ?_
  · have same : p = p' := by
      obtain ⟨entry, base, path, applyId, underMeta⟩ := p
      obtain ⟨entry', base', path', applyId', underMeta'⟩ := p'
      cases under.entry.trans under'.entry.symm
      cases under.underMeta.trans under'.underMeta.symm
      cases like.base
      cases like.schemaPath
      cases like.applyId
      rfl
    subst same
    exact compares_itself.2 ⟨schema_evolves builtin fuel part p, parts members part p h among under⟩
  · exact compares_itself.2 ⟨reference_evolves (entry_evolves fun value place =>
      schema_evolves builtin fuel value place) _ _, references members text h own⟩

/-- Following a reference keeps what compiling its target keeps. -/
theorem reference_keeps {R : Store → Prop} {begin : EntryId → Bool → CompileM Unit} {value : Value} {place : Place}
    (moment : ∀ c, P c → Continues K R c ∧ c.Active place.entry)
    (looks : ∀ c d, P c → Continues K R d → Looks c d → P d)
    (begins : ∀ c target text, value = .string text → P c →
      c.store.Denotes place.entry (resolveUrl place.base text) target →
      (begin target place.underMeta).Leaves c P Q) :
    (reference begin value place).Keeps P Q := by
  intro c p
  cases value with
  | string text =>
    obtain ⟨continues, active⟩ := moment c p
    rw [reference_eq]
    rcases continues.resolve active place.base text with ⟨-, run⟩ | ⟨target, d, run, next, found, denotes⟩
    · unfold CompileM.Leaves
      rw [CompileM.bind_error run]
      exact shallow _ (SchemaError.not_isDeep_missing _ _)
    · unfold CompileM.Leaves
      rw [CompileM.bind_ok run]
      refine (begins d target text rfl (looks c d p next found) denotes).bind fun _ d' _ kept => ?_
      unfold CompileM.Leaves
      rw [arrive_run]
      by_cases async : (d'.store.isAsync target && !d'.store.isAsync place.entry) = true
      · rw [if_pos async]
        exact shallow _ (SchemaError.not_isDeep_compilation _ _)
      · rw [if_neg async]
        exact kept
  | _ => exact shallow _ (SchemaError.not_isDeep_referenceAt _)

end Compiler

/-! ## Two compilations -/

/-- Two compilations, at moments when they are at corresponding entries. -/
structure Compilation.Meeting (K : EntryId → Compiler → Prop) (P P' : Store → Prop)
    (M : EntryId → EntryId → Prop) (id id' : EntryId) (c c' : Compilation) : Prop where
  first : Continues K P c
  second : Continues K P' c'
  active : c.Active id
  active' : c'.Active id'
  corresponds : Store.Corresponds M c.store c'.store id id'

section Meeting

variable {P P' : Store → Prop} {M : EntryId → EntryId → Prop}

namespace Compilation.Meeting

variable {id id' : EntryId} {d' : Compilation}

theorem looks (meeting : Meeting K P P' M id id' c c') (first : Continues K P d)
    (second : Continues K P' d') (looks : Looks c d) (looks' : Looks c' d') :
    Meeting K P P' M id id' d d' :=
  ⟨first, second, looks.active meeting.active, looks'.active meeting.active',
    meeting.corresponds.evolves looks.evolves looks'.evolves⟩

theorem leads (meeting : Meeting K P P' M id id' c c') (first : Continues K P d)
    (second : Continues K P' d') (leads : Leads c d) (leads' : Leads c' d') :
    Meeting K P P' M id id' d d' :=
  ⟨first, second, meeting.active.leads leads, meeting.active'.leads leads',
    meeting.corresponds.evolves leads.evolves leads'.evolves⟩

end Compilation.Meeting

open Compilation (Meeting)

namespace Compiler

variable {C : Comparison} {begin begin' : EntryId → Bool → CompileM Unit} {place place' : Place}

/-- References of corresponding entries are compared by comparing how what they denote is
    compiled. One of them may lead nowhere alone only where that is allowed for. -/
theorem reference_compares (places : place.Like place')
    (evolves : ∀ id underMeta, (begin id underMeta).Evolves)
    (evolves' : ∀ id underMeta, (begin' id underMeta).Evolves)
    (matched : ∀ c c', Continues K P c → Continues K P' c' → c.store.Matches M c'.store)
    (meeting : ∀ c c', C.meets c c' → Meeting K P P' M place.entry place'.entry c c')
    (looks : ∀ c c' d d', C.meets c c' → Continues K P d → Continues K P' d' → Looks c d →
      Looks c' d' → C.meets d d')
    (lacks : ∀ c c' reference, C.meets c c' →
      (∃ named, c.store.lookup (documentPart reference) = some named) →
      c'.store.lookup (documentPart reference) = none →
      C.second (.missing reference (documentPart reference)))
    (exceeds : ∀ c c' reference target, C.meets c c' →
      c.store.resolve place.entry reference = .missing → c'.store.Denotes place'.entry reference target →
      C.first (.missing reference (documentPart reference)))
    (begins : ∀ c c' target target', C.meets c c' →
      Store.Corresponds M c.store c'.store target target' →
      C.Outcomes (begin target place.underMeta c) (begin' target' place'.underMeta c'))
    (value : Value) : Compares C (reference begin value place) (reference begin' value place') := by
  refine ⟨reference_evolves evolves value place, fun c c' meets => ?_⟩
  cases value with
  | string text =>
    rw [reference_eq, reference_eq]
    obtain ⟨first, second, active, active', corresponds⟩ := meeting c c' meets
    have second' := second.resolve active' place'.base text
    rw [← places.base] at second' ⊢
    rcases first.resolve active place.base text with ⟨missing, run⟩ | ⟨target, d, run, next, found, denotes⟩
    · rw [CompileM.bind_error run]
      rcases second' with ⟨-, run'⟩ | ⟨target', d', -, next', found', denotes'⟩
      · rw [CompileM.bind_error run']
        exact C.same _ (SchemaError.not_isDeep_missing _ _)
      · have meets' := looks c c' c d' meets first next' (.refl c) found'
        exact C.error_of_first (exceeds c d' _ target' meets' missing denotes') _
    · rcases second' with ⟨missing', run'⟩ | ⟨target', d', run', next', found', denotes'⟩
      · rw [CompileM.bind_error run']
        have meets' := looks c c' d c' meets next second found (.refl c')
        obtain ⟨named, free⟩ := (matched d c' next second).lacks next.linked second.linked
          (corresponds.evolves found.evolves (.refl _)) denotes missing'
        exact C.error_of_second (lacks d c' _ meets' named free) _
      · rw [CompileM.bind_ok run, CompileM.bind_ok run']
        have meets' := looks c c' d d' meets next next' found found'
        have spots := corresponds.evolves found.evolves found'.evolves
        have targets : Store.Corresponds M d.store d'.store target target' :=
          (matched d d' next next').denotes next.linked next'.linked spots denotes denotes'
        refine (begins d d' target target' meets' targets).bind (fun _ => arrive_evolves _ _) ?_
        intro _ _ f f' ran ran' meets''
        obtain ⟨third, fourth, -, -, own⟩ := meeting f f' meets''
        have targets := targets.evolves (evolves _ _ _ _ _ ran) (evolves' _ _ _ _ _ ran')
        have matched := matched f f' third fourth
        rw [arrive_run, arrive_run, matched.isAsync_eq third.linked targets,
          matched.isAsync_eq third.linked own]
        by_cases async : (f'.store.isAsync target' && !f'.store.isAsync place'.entry) = true
        · rw [if_pos async, if_pos async]
          exact C.same _ (SchemaError.not_isDeep_compilation _ _)
        · rw [if_neg async, if_neg async]
          exact fun _ => meets''
  | _ =>
    show C.together (.malformed (.referenceAt place.schemaPath))
      (.malformed (.referenceAt place'.schemaPath))
    rw [places.schemaPath]
    exact C.same _ (SchemaError.not_isDeep_referenceAt _)

end Compiler

end Meeting

end JsonSchema
