import JsonSchema.Proofs.Order.Continuing

/-!
# Clean sets of spots

What a compilation compiled can be compiled again, whatever else is being compiled then, and in
every store that holds the same documents: no fault was found in it, and all that it refers to was
compiled with it.

* `Compilation.Records`: what a compilation compiled, it compiled at some moment.
* `View`: how the documents of stores are told apart, and which stores are compared.
* `Compiler.Clean`: places that can be compiled at any moment, and that lead to no others.
* `Compiler.Clean.extend`: what a compilation compiled joins the clean places.
-/

namespace JsonSchema

open Compilation (Continues Leads Looks Meeting)

variable {K : EntryId → Compiler → Prop} {s : Store} {c c' d : Compilation} {compiler : Compiler}
  {id : EntryId}

/-! ## Records -/

namespace Compilation

/-- At some moment of a compilation that began in the store `s`, the document of an entry was
    compiled, before what is there in `s'`. -/
def Recorded (K : EntryId → Compiler → Prop) (s : Store) (compiler : Compiler) (s' : Store)
    (id : EntryId) : Prop :=
  ∃ fuel underMeta e r node d, Continues K (Eq s) r ∧ r.Active id ∧ r.store.entry? id = some e ∧
    compiler.schema fuel e.document (e.place id underMeta) r = .ok node d ∧ d.store.Evolves s'

theorem Recorded.evolves {t t' : Store} (h : Recorded K s compiler t id) (evolves : t.Evolves t') :
    Recorded K s compiler t' id := by
  obtain ⟨fuel, underMeta, e, r, node, d, continues, active, found, run, before⟩ := h
  exact ⟨fuel, underMeta, e, r, node, d, continues, active, found, run, before.trans evolves⟩

/-- What was begun since the store `s` is being compiled, or was compiled at some moment. -/
structure Records (K : EntryId → Compiler → Prop) (compiler : Compiler) (s : Store)
    (c : Compilation) : Prop where
  continues : Continues K (Eq s) c
  begun : ∀ id, c.store.IsStarted id →
    s.IsStarted id ∨ c.Active id ∨ Recorded K s compiler c.store id

namespace Records

theorem start (settled : s.Settled K) : Records K compiler s { store := s } :=
  ⟨.start settled rfl, fun _ started => .inl started⟩

theorem looks (records : Records K compiler s c) (continues : Continues K (Eq s) d)
    (looks : Looks c d) : Records K compiler s d := by
  refine ⟨continues, fun id ⟨e', found', started⟩ => ?_⟩
  rcases looks.adds id e' found' with ⟨e, found⟩ | idle
  · obtain ⟨f, foundF, -, same, -⟩ := looks.stays id e found
    cases found'.symm.trans foundF
    rcases records.begun id ⟨e, found, same ▸ started⟩ with old | active | recorded
    · exact .inl old
    · exact .inr (.inl (looks.active active))
    · exact .inr (.inr (recorded.evolves looks.evolves))
  · rw [idle] at started
    cases started

theorem begin (records : Records K compiler s c) {e : Entry} (found : c.store.entry? id = some e)
    (idle : e.progress.isStarted = false) : Records K compiler s (Compiler.begun c id) := by
  obtain ⟨continues, active⟩ := records.continues.begun found idle
  refine ⟨continues, fun j ⟨e', found', started⟩ => ?_⟩
  by_cases own : j = id
  · exact .inr (.inl (own ▸ active))
  · have same : (Compiler.begun c id).store.entry? j = c.store.entry? j :=
      Store.entry?_modify_of_ne own _
    rcases records.begun j ⟨e', same ▸ found', started⟩ with old | ⟨f, foundF, pending⟩ | recorded
    · exact .inl old
    · exact .inr (.inl ⟨f, same.trans foundF, pending⟩)
    · exact .inr (.inr (recorded.evolves (Compiler.begun_evolves c id)))

/-- The document of an entry was compiled, so that is recorded from now on. -/
theorem finish (records : Records K compiler s d) (recorded : Recorded K s compiler d.store id)
    {node : Node} (continues : Continues K (Eq s) (Compiler.finished d id node)) :
    Records K compiler s (Compiler.finished d id node) := by
  have evolves := Compiler.finished_evolves d id node
  refine ⟨continues, fun j ⟨e', found', started⟩ => ?_⟩
  by_cases own : j = id
  · exact .inr (.inr (own ▸ recorded.evolves evolves))
  · have same : (Compiler.finished d id node).store.entry? j = d.store.entry? j :=
      Store.entry?_modify_of_ne own _
    rcases records.begun j ⟨e', same ▸ found', started⟩ with old | ⟨f, foundF, pending⟩ | recorded
    · exact .inl old
    · exact .inr (.inl ⟨f, same.trans foundF, pending⟩)
    · exact .inr (.inr (recorded.evolves evolves))

end Records

end Compilation

open Compilation (Recorded Records)

namespace Compiler

variable (k : ∀ id, K id compiler) (builtin : compiler.vocabulary.IsBuiltin)

include k

theorem entry_records {fuel : Nat}
    (schemas : ∀ value place, (compiler.schema fuel value place).Keeps
      (fun c => Records K compiler s c ∧ c.Active place.entry) fun _ => True)
    (id : EntryId) (underMeta : Bool) :
    (entry (compiler.schema fuel) id underMeta).Keeps (Records K compiler s) fun _ => True := by
  intro c records
  unfold CompileM.Leaves
  cases run : entry (compiler.schema fuel) id underMeta c with
  | error e d => trivial
  | ok u d =>
    have continues := (records.continues.entry k run).1
    cases found : c.store.entry? id with
    | none =>
      rw [entry_of_missing found] at run
      cases run
    | some e =>
      cases idle : e.progress.isStarted with
      | true =>
        rw [entry_of_started found idle] at run
        cases run
        exact records
      | false =>
        rw [entry_of_idle found idle] at run
        obtain ⟨moment, active⟩ := records.continues.begun found idle
        have kept := schemas e.document (e.place id underMeta) _ ⟨records.begin found idle, active⟩
        unfold CompileM.Leaves at kept
        cases ran : compiler.schema fuel e.document (e.place id underMeta) (begun c id) with
        | error e d =>
          rw [ran] at run
          cases run
        | ok node d =>
          rw [ran] at run kept
          cases run
          exact kept.1.finish ⟨fuel, underMeta, e.begin, begun c id, node, d, moment, active,
            entry?_begun found, ran, .refl _⟩ continues

include builtin

/-- Whatever is compiled on the way is recorded. -/
theorem schema_records (fuel : Nat) (value : Value) (place : Place) :
    (compiler.schema fuel value place).Keeps
      (fun c => Records K compiler s c ∧ c.Active place.entry) fun _ => True := by
  induction fuel generalizing value place with
  | zero => exact fun _ _ => trivial
  | succ fuel ih =>
    refine schema_keeps (fun _ _ => trivial) builtin (fun members part place' _ _ under => ?_)
      fun members text _ _ => ?_
    · have kept := ih part place'
      rwa [under.entry] at kept
    · refine reference_keeps (fun _ _ => trivial) (fun c p => ⟨p.1.continues, p.2⟩)
        (fun c d p continues looks => ⟨p.1.looks continues looks, looks.active p.2⟩) ?_
      intro c target _ _ p _
      have kept := entry_records k ih target (place.inner members).underMeta c p.1
      unfold CompileM.Leaves at kept ⊢
      cases run : entry (compiler.schema fuel) target (place.inner members).underMeta c with
      | error e d => trivial
      | ok u d =>
        rw [run] at kept
        exact ⟨kept, p.2.leads (p.1.continues.entry k run).2.1⟩

end Compiler

/-! ## Views -/

/-- How the documents of stores are told apart, and which stores are compared: what was compiled
    in one of the first kind is compiled again in those of the second kind. -/
structure View (α : Type) where
  /-- What a document is known by. -/
  mark : Store → EntryId → α
  recorded : Store → Prop
  replayed : Store → Prop
  /-- The places that are compiled wherever they are. -/
  done : α × String → Prop
  /-- The names that may be lacking in stores of the second kind. -/
  lacks : String → Prop

namespace View

variable {α : Type} (V : View α)

/-- The place of a spot, told by what the document is known by. -/
def place (s : Store) (spot : Spot) : α × String := (V.mark s spot.1, spot.2)

/-- The documents of two stores that are known by the same. -/
def Same (s s' : Store) (id id' : EntryId) : Prop := V.mark s id = V.mark s' id'

/-- How a compilation may fail that was recorded as one that succeeds: it goes too deep, or lacks
    a document. -/
def Fails (e : SchemaError) : Prop :=
  e.IsDeep ∨ ∃ reference document, e = .missing reference document ∧ V.lacks document

/-- What is known by the same is the same, and so is what a name stands for. -/
structure IsFair (V : View α) : Prop where
  mark_eq : ∀ s s' id, s'.document? id = s.document? id → V.mark s' id = V.mark s id
  recorded : ∀ s s', V.recorded s → s.Spares s' → V.recorded s'
  replayed : ∀ s s', V.replayed s → s.Spares s' → V.replayed s'
  matched : ∀ s s', V.recorded s → V.replayed s' → s.Linked → s'.Linked → s.Matches (V.Same s s') s'
  lacking : ∀ s s' name, V.recorded s → V.replayed s' → s.Linked → s'.Linked →
    (∃ named, s.lookup name = some named) → s'.lookup name = none → V.lacks name
  done : ∀ s id spot, V.replayed s → s.Linked → s.spot? id = some spot → V.done (V.place s spot) →
    s.IsStarted id

variable {V} {t t' : Store}

theorem isDeep_of_fails (none : ∀ name, ¬ V.lacks name) {e : SchemaError} (fails : V.Fails e) : e.IsDeep := by
  rcases fails with deep | ⟨_, name, -, lacks⟩
  · exact deep
  · exact absurd lacks (none name)

theorem spares_of_continues (continues : Continues K (Eq t) c) : t.Spares c.store := by
  obtain ⟨origin, settled, rfl, good⟩ := continues
  exact good.spares settled

variable (fair : V.IsFair)

include fair

theorem IsFair.place_eq (spares : t.Spares s) (spot : Spot) : V.place s spot = V.place t spot :=
  congrArg (·, spot.2) (fair.mark_eq t s spot.1 (spares.documents spot.1))

theorem IsFair.replayed_moment (continues : Continues K V.replayed c) : V.replayed c.store := by
  obtain ⟨t, settled, replayed, good⟩ := continues
  exact fair.replayed t c.store replayed (good.spares settled)

theorem IsFair.matched_moments (recorded : V.recorded t) (replayed : V.replayed t')
    (first : Continues K (Eq t) c) (second : Continues K (Eq t') c') :
    c.store.Matches (V.Same t t') c'.store := by
  have spares := spares_of_continues first
  have spares' := spares_of_continues second
  have same : V.Same t t' = V.Same c.store c'.store := by
    funext id id'
    rw [Same, Same, fair.mark_eq _ _ id (spares.documents id), fair.mark_eq _ _ id' (spares'.documents id')]
  rw [same]
  exact fair.matched _ _ (fair.recorded _ _ recorded spares) (fair.replayed _ _ replayed spares')
    first.linked second.linked

end View

/-! ## Clean places -/

variable {α : Type} {V : View α} {clean clean' : α × String → Prop}

/-- Entries at some places can be compiled at any moment, except that a bound on the depth may be
    too low or a document may be lacking, and that begins entries at these places only. -/
def Compiler.CleanBelow (K : EntryId → Compiler → Prop) (V : View α) (compiler : Compiler)
    (clean : α × String → Prop) (bound : Nat) : Prop :=
  ∀ fuel < bound, ∀ c id underMeta spot, Continues K V.replayed c → c.store.spot? id = some spot →
    clean (V.place c.store spot) → (entry (compiler.schema fuel) id underMeta).Leaves c
      (fun d => ∀ at_, d.store.StartedAt at_ → c.store.StartedAt at_ ∨ clean (V.place c.store at_))
      V.Fails

/-- The same for every bound on the depth. -/
def Compiler.Clean (K : EntryId → Compiler → Prop) (V : View α) (compiler : Compiler)
    (clean : α × String → Prop) : Prop :=
  ∀ bound, compiler.CleanBelow K V clean bound

theorem CompileM.Leaves.imp {α : Type} {m : CompileM α} {P P' : Compilation → Prop}
    {Q : SchemaError → Prop} (h : m.Leaves c P Q) (imp : ∀ d, P d → P' d) : m.Leaves c P' Q := by
  unfold Leaves at h ⊢
  cases hm : m c with
  | error e d =>
    rw [hm] at h
    exact h
  | ok a d =>
    rw [hm] at h
    exact imp d h

/-- The comparison of the compilation of an entry that is over, which began in the store `t` and
    left the store `final`, with another one. That one began in the store `t'`, and the entry in the
    store `start`. -/
def Comparison.again (K : EntryId → Compiler → Prop) (V : View α) (t t' final start : Store)
    (clean : α × String → Prop) (id id' : EntryId) : Comparison where
  meets c c' := Meeting K (Eq t) (Eq t') (V.Same t t') id id' c c' ∧
    ∀ spot, c'.store.StartedAt spot → start.StartedAt spot ∨ clean (V.place t' spot)
  within := final.StartedAt
  together _ _ := True
  first _ := True
  second := V.Fails
  same _ _ := trivial
  of_first _ _ _ := trivial
  of_second _ _ _ := trivial
  lax := .inr fun _ => trivial

namespace Compiler

theorem clean_empty : compiler.Clean K V fun _ => False :=
  fun _ _ _ _ _ _ _ _ _ none => none.elim

theorem Clean.union (h : compiler.Clean K V clean) (h' : compiler.Clean K V clean') :
    compiler.Clean K V fun x => clean x ∨ clean' x := by
  intro bound fuel below c id underMeta spot continues at_ either
  rcases either with own | own
  · exact (h bound fuel below c id underMeta spot continues at_ own).imp
      fun d stays at_ started => (stays at_ started).imp_right .inl
  · exact (h' bound fuel below c id underMeta spot continues at_ own).imp
      fun d stays at_ started => (stays at_ started).imp_right .inr

variable (k : ∀ id, K id compiler) (builtin : compiler.vocabulary.IsBuiltin) (fair : V.IsFair)
  {t t' final : Store} (recorded : V.recorded t) (replayed : V.replayed t')
  (covers : ∀ spot, final.StartedAt spot → V.done (V.place t spot) ∨ clean (V.place t spot))

include k fair replayed covers

/-- An entry that was compiled, and is compiled again at another moment. -/
theorem entry_again {start : Store} {id id' target target' : EntryId} {fuel fuel' : Nat}
    {underMeta underMeta' : Bool} (below : compiler.CleanBelow K V clean (fuel' + 1))
    (meets : (Comparison.again K V t t' final start clean id id').meets c c')
    (corresponds : Store.Corresponds (V.Same t t') c.store c'.store target target') :
    (Comparison.again K V t t' final start clean id id').Outcomes
      (entry (compiler.schema fuel) target underMeta c)
      (entry (compiler.schema fuel') target' underMeta' c') := by
  obtain ⟨meeting, stays⟩ := meets
  cases run : entry (compiler.schema fuel) target underMeta c with
  | error e d => cases entry (compiler.schema fuel') target' underMeta' c' <;> trivial
  | ok u d =>
    obtain ⟨first, leads, started⟩ := meeting.first.entry k run
    obtain ⟨spot, spot', at_, at', same, pointer⟩ := corresponds
    have spares' := View.spares_of_continues meeting.second
    have place : V.place t spot = V.place t' spot' := Prod.ext same pointer.symm
    have place' : V.place c'.store spot' = V.place t spot := (fair.place_eq spares' spot').trans place.symm
    have after {d' : Compilation} (second : Continues K (Eq t') d') (leads' : Leads c' d')
        (stays' : ∀ at_, d'.store.StartedAt at_ → c'.store.StartedAt at_ ∨ clean (V.place t' at_)) :
        (Comparison.again K V t t' final start clean id id').meets d d' :=
      ⟨meeting.leads first second leads leads',
        fun at_ started => (stays' at_ started).elim (stays at_) .inr⟩
    have replayed' := fair.replayed _ _ replayed spares'
    by_cases old : V.done (V.place t spot)
    · obtain ⟨e', found', started'⟩ :=
        fair.done _ target' spot' replayed' meeting.second.linked at' (place' ▸ old)
      rw [entry_of_started found' started']
      exact fun _ => after meeting.second (.refl _ _) fun _ => .inl
    · by_cases inside : (Comparison.again K V t t' final start clean id id').Inside d
      · have own := (covers spot (inside spot ⟨target, leads.evolves.spot? at_, started⟩)).resolve_left old
        obtain ⟨origin, settled, rfl, good⟩ := meeting.second
        have leaves := below fuel' (Nat.lt_succ_self _) c' target' underMeta' spot'
          ⟨_, settled, replayed, good⟩ at' (place' ▸ own)
        unfold CompileM.Leaves at leaves
        cases run' : entry (compiler.schema fuel') target' underMeta' c' with
        | error e d' =>
          rw [run'] at leaves
          exact fun _ => leaves
        | ok u d' =>
          rw [run'] at leaves
          obtain ⟨second, leads', -⟩ := meeting.second.entry k run'
          refine fun _ => after second leads' fun at_ started => ?_
          rw [← fair.place_eq spares' at_]
          exact leaves at_ started
      · cases entry (compiler.schema fuel') target' underMeta' c' <;>
          exact fun all => absurd all inside

include builtin recorded

/-- A schema that was compiled, and is compiled again at another moment. -/
theorem schema_again (start : Store) {id id' : EntryId} (fuel' : Nat)
    (below : compiler.CleanBelow K V clean fuel') (fuel : Nat) (value : Value)
    {place place' : Place} (places : place.Like place') (own : place.entry = id)
    (own' : place'.entry = id') :
    Compares (.again K V t t' final start clean id id') (compiler.schema fuel value place)
      (compiler.schema fuel' value place') := by
  induction fuel' generalizing fuel value place place' with
  | zero =>
    refine ⟨schema_evolves builtin fuel value place, fun c c' _ => ?_⟩
    cases compiler.schema fuel value place c with
    | error e d => trivial
    | ok node d => exact fun _ => .inl ⟨_, rfl⟩
  | succ fuel' ih =>
    cases fuel with
    | zero =>
      refine ⟨schema_evolves builtin 0 value place, fun c c' _ => ?_⟩
      cases compiler.schema (fuel' + 1) value place' c' <;> trivial
    | succ fuel =>
      have lower : compiler.CleanBelow K V clean fuel' :=
        fun n lt => below n (Nat.lt_succ_of_lt lt)
      have evolves := entry_evolves fun value place => schema_evolves builtin fuel value place
      have evolves' := entry_evolves fun value place => schema_evolves builtin fuel' value place
      refine compares_node builtin places (fun members _ part p p' _ under under' like => ?_)
        fun members text _ _ => ?_
      · exact ih lower fuel part like (under.entry.trans own) (under'.entry.trans own')
      · subst own own'
        refine reference_compares
          (C := .again K V t t' final start clean place.entry place'.entry) (places.inner members) evolves
          evolves' (fun c c' => fair.matched_moments recorded replayed) (fun c c' meets => meets.1)
          ?_ ?_ (fun _ _ _ _ _ _ _ => trivial) ?_ text
        · rintro c c' d d' ⟨meeting, stays⟩ first second looks looks'
          exact ⟨meeting.looks first second looks looks',
            fun spot started => stays spot (looks'.startedAt_iff.1 started)⟩
        · rintro c c' reference ⟨meeting, -⟩ named free
          refine .inr ⟨_, _, rfl, fair.lacking c.store c'.store _ ?_ ?_ meeting.first.linked
            meeting.second.linked named free⟩
          · exact fair.recorded _ _ recorded (View.spares_of_continues meeting.first)
          · exact fair.replayed _ _ replayed (View.spares_of_continues meeting.second)
        · intro c c' target target' meets corresponds
          exact entry_again k fair replayed covers below meets corresponds

omit replayed in

/-- What was compiled at some moment is compiled again without a fault, if this is so of all that
    it leads to. -/
theorem entry_recorded {bound : Nat} (below : compiler.CleanBelow K V clean bound)
    (record : Recorded K t compiler final id) {spot₀ : Spot} (at₀ : final.spot? id = some spot₀)
    {id' : EntryId} (continues : Continues K V.replayed c) {spot : Spot}
    (at_ : c.store.spot? id' = some spot) (same : V.place c.store spot = V.place t spot₀)
    (own : clean (V.place c.store spot)) (underMeta : Bool) :
    (entry (compiler.schema bound) id' underMeta).Leaves c
      (fun d => ∀ at_, d.store.StartedAt at_ → c.store.StartedAt at_ ∨ clean (V.place c.store at_))
      V.Fails := by
  obtain ⟨fuel, underMeta₀, e, r, node, d, first, active, found, run, before⟩ := record
  obtain ⟨t', settled, replayed, good⟩ := continues
  have second : Continues K (Eq t') c := ⟨t', settled, rfl, good⟩
  have spares' := View.spares_of_continues second
  have whole := (schema_evolves builtin fuel _ _ _ _ _ run).trans before
  have there : r.store.spot? id = some spot₀ := by
    rw [Store.spot?_eq found, ← at₀]
    exact (whole.spot? (Store.spot?_eq found)).symm
  obtain ⟨e', found', here⟩ := Option.map_eq_some_iff.1 at_
  unfold CompileM.Leaves
  cases idle : e'.progress.isStarted with
  | true =>
    rw [entry_of_started found' idle]
    exact fun _ => .inl
  | false =>
    rw [entry_of_idle found' idle]
    obtain ⟨second', active'⟩ := second.begun found' idle
    have at'' := (begun_evolves c id').spot? at_
    have corresponds {c' : Compilation} (at' : c'.store.spot? id' = some spot) :
        Store.Corresponds (V.Same t t') r.store c'.store id id' := by
      rw [fair.place_eq spares' spot] at same
      obtain ⟨mark, pointer⟩ := Prod.mk.inj same
      exact ⟨spot₀, spot, there, at', mark.symm, pointer⟩
    obtain ⟨document, places⟩ := first.content second (fair.matched_moments recorded replayed first second)
      (corresponds at_) found found'
    have outcomes := (schema_again k builtin fair recorded replayed covers (begun c id').store bound below
      fuel e.document (places underMeta₀ underMeta) rfl rfl).2 r (begun c id')
      ⟨⟨first, second', active, active', corresponds at''⟩, fun _ => .inl⟩
    rw [run, document] at outcomes
    cases run' : compiler.schema bound e'.document (e'.place id' underMeta) (begun c id') with
    | error e d' =>
      rw [run'] at outcomes
      exact outcomes fun _ => before.startedAt
    | ok node' d' =>
      rw [run'] at outcomes
      obtain ⟨-, stays⟩ := outcomes fun _ => before.startedAt
      intro spot' started
      have mine {spot' : Spot} {d : Compilation} (h : d.store.spot? id' = some spot') :
          c.store.Evolves d.store → clean (V.place c.store spot') := by
        intro evolves
        cases (evolves.spot? at_).symm.trans h
        exact own
      rcases startedAt_finished.1 started with started | here
      · rcases stays spot' started with started | joins
        · exact (startedAt_begun.1 started).imp_right fun h => mine h (.refl _)
        · exact .inr ((fair.place_eq spares' spot').symm ▸ joins)
      · refine .inr (mine here ?_)
        exact (begun_evolves c id').trans (schema_evolves builtin bound _ _ _ _ _ run')

omit replayed recorded covers in
/-- What a compilation compiled joins the clean places. -/
theorem Clean.extend (h : compiler.Clean K V clean) (settled : s.Settled K) (recorded : V.recorded s)
    (known : ∀ spot, s.StartedAt spot → V.done (V.place s spot) ∨ clean (V.place s spot)) {fuel : Nat}
    {underMeta : Bool} {u : Unit}
    (run : entry (compiler.schema fuel) id underMeta { store := s } = .ok u d) :
    compiler.Clean K V fun x => clean x ∨ ∃ spot, d.store.StartedAt spot ∧ V.place s spot = x := by
  have start : Continues K (Eq s) { store := s } := .start settled rfl
  obtain ⟨continues, leads, -⟩ := start.entry k run
  have records := entry_records k (schema_records k builtin (s := s) fuel) id underMeta { store := s }
    (.start settled)
  unfold CompileM.Leaves at records
  rw [run] at records
  intro bound
  induction bound with
  | zero => exact fun _ none => absurd none (Nat.not_lt_zero _)
  | succ bound ih =>
    intro fuel' below c id' underMeta' spot continues' at' own
    rcases Nat.lt_succ_iff_lt_or_eq.1 below with below | rfl
    · exact ih fuel' below c id' underMeta' spot continues' at' own
    · have old (own : clean (V.place c.store spot)) :
          (entry (compiler.schema fuel') id' underMeta').Leaves c
            (fun d' => ∀ at_, d'.store.StartedAt at_ → c.store.StartedAt at_ ∨
              (clean (V.place c.store at_) ∨
                ∃ spot, d.store.StartedAt spot ∧ V.place s spot = V.place c.store at_)) V.Fails :=
        (h (fuel' + 1) fuel' below c id' underMeta' spot continues' at' own).imp
          fun _ stays at_ started => (stays at_ started).imp_right .inl
      rcases own with own | ⟨spot₀, ⟨id₀, at₀, started⟩, same⟩
      · exact old own
      · rcases records.begun id₀ started with ⟨e, found, before⟩ | ⟨e, found, pending⟩ | record
        · cases at₀.symm.trans (leads.evolves.spot? (Store.spot?_eq (s := s) found))
          rcases known _ (.of_entry found before) with done | own
          · obtain ⟨e', found', started'⟩ :=
              fair.done _ id' spot (fair.replayed_moment continues') continues'.linked at' (same ▸ done)
            unfold CompileM.Leaves
            rw [entry_of_started found' started']
            exact fun _ => .inl
          · exact old (same ▸ own)
        · -- nothing is being compiled any more
          obtain ⟨e₀, found₀, pending₀, -⟩ := leads.pending id₀ e found pending
          rw [settled.idle id₀ e₀ found₀] at pending₀
          cases pending₀
        · exact entry_recorded k builtin fair recorded
            (fun spot started => .inr (.inr ⟨spot, started, rfl⟩)) ih record at₀ continues' at' same.symm
            (.inr ⟨spot₀, ⟨id₀, at₀, started⟩, same⟩) underMeta'

end Compiler

end JsonSchema
