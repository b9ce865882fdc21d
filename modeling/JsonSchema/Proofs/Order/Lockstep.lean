import JsonSchema.Proofs.Order.Clean

/-!
# Compilations in lockstep

Two stores may differ in what was compiled before, as long as that can be compiled without a fault.
Then compilations of the same entry in them find the same first fault, or none: they compile the
same, but for clean spots that only one of them still has to compile.

* `Compilation.Abreast`: two compilations that began the same, but for clean spots.
* `Compiler.schema_abreast`, `Compiler.entry_abreast`: they stay abreast, or fail alike.
* `Compiler.compile_abreast`: the same of whole compilations.
-/

namespace JsonSchema

open Compilation (Continues Leads Meeting)

variable {K : EntryId → Compiler → Prop} {base s s' : Store} {clean : Spot → Prop}
  {c c' d d' : Compilation} {compiler : Compiler} {id id' : EntryId}

/-- The stores that hold the documents of one store, in which what was compiled is so everywhere. -/
def View.sharing (base : Store) : View EntryId where
  mark _ id := id
  recorded := base.Spares
  replayed := base.Spares
  done := base.StartedAt
  lacks _ := False

theorem View.sharing_isFair (settled : base.Settled K) : (View.sharing base).IsFair where
  mark_eq _ _ _ _ := rfl
  recorded _ _ := Store.Spares.trans
  replayed _ _ := Store.Spares.trans
  matched _ _ spares spares' := (spares.shares.symm.trans spares'.shares).matches_self
  lacking s s' name spares spares' linked linked' := by
    rintro ⟨named, found⟩ free
    rw [(spares.shares.symm.trans spares'.shares).lookup_eq linked linked', found] at free
    cases free
  done _ _ _ spares linked at_ done :=
    linked.isStarted_of_startedAt (settled.spared_startedAt spares done) at_

/-- Two stores in which the same entries were begun, but for clean spots. -/
structure Store.Abreast (clean : Spot → Prop) (s s' : Store) : Prop where
  first : ∀ spot, s.StartedAt spot → s'.StartedAt spot ∨ clean spot
  second : ∀ spot, s'.StartedAt spot → s.StartedAt spot ∨ clean spot

namespace Store.Abreast

theorem symm (h : s.Abreast clean s') : s'.Abreast clean s := ⟨h.second, h.first⟩

/-- The first one begins clean spots only. -/
theorem catchUp (h : s.Abreast clean s') {t : Store} (evolves : s.Evolves t)
    (stays : ∀ spot, t.StartedAt spot → s.StartedAt spot ∨ clean spot) : t.Abreast clean s' where
  first spot started := (stays spot started).elim (h.first spot) .inr
  second spot started := (h.second spot started).imp_left evolves.startedAt

/-- Both begin or end the compilation of an entry at the same spot. -/
theorem both (h : s.Abreast clean s') (corresponds : Corresponds Eq s s' id id') {t t' : Store}
    (started : ∀ spot, t.StartedAt spot ↔ s.StartedAt spot ∨ s.spot? id = some spot)
    (started' : ∀ spot, t'.StartedAt spot ↔ s'.StartedAt spot ∨ s'.spot? id' = some spot) :
    t.Abreast clean t' := by
  obtain ⟨spot, at_, at'⟩ := corresponds.spot
  refine ⟨fun spot' begun => ?_, fun spot' begun => ?_⟩
  · rw [started']
    rcases (started spot').1 begun with begun | own
    · exact (h.first spot' begun).imp_left .inl
    · exact .inl (.inr (at'.trans (at_.symm.trans own)))
  · rw [started]
    rcases (started' spot').1 begun with begun | own
    · exact (h.second spot' begun).imp_left .inl
    · exact .inl (.inr (at_.trans (at'.symm.trans own)))

end Store.Abreast

/-- The comparison of two compilations that stay abreast, and of which something else is kept. -/
def Comparison.abreast (clean : Spot → Prop) (kept : Compilation → Compilation → Prop) :
    Comparison where
  meets c c' := c.store.Abreast clean c'.store ∧ kept c c'
  within _ := True
  together e e' := e = e' ∨ e.IsDeep ∨ e'.IsDeep
  first := SchemaError.IsDeep
  second := SchemaError.IsDeep
  same _ _ := .inl rfl
  of_first _ _ deep := .inr (.inl deep)
  of_second _ _ deep := .inr (.inr deep)
  lax := .inl fun _ => trivial

theorem Comparison.Outcomes.imp {kept kept' : Compilation → Compilation → Prop} {α β : Type}
    {r : EStateM.Result SchemaError Compilation α} {r' : EStateM.Result SchemaError Compilation β}
    (h : (Comparison.abreast clean kept).Outcomes r r') (imp : ∀ d d', kept d d' → kept' d d') :
    (Comparison.abreast clean kept').Outcomes r r' := by
  cases r with
  | error e d => cases r' <;> exact h
  | ok a d =>
    cases r' with
    | error e' d' => exact h
    | ok b d' => exact fun inside => ⟨(h inside).1, imp d d' (h inside).2⟩

namespace Compiler

variable (k : ∀ id, K id compiler) (builtin : compiler.vocabulary.IsBuiltin)
  (cleans : compiler.Clean K (.sharing base) clean)

include k cleans

/-- Entries at the same spot, of which the compilations are as described below. -/
theorem entry_abreast (fuel fuel' : Nat) {target target' : EntryId} (underMeta underMeta' : Bool)
    (schemas : ∀ value place place', place.Like place' → place.entry = target →
      place'.entry = target' →
      Compares (.abreast clean (Meeting K base.Spares base.Spares Eq target target'))
        (compiler.schema fuel value place) (compiler.schema fuel' value place'))
    (first : Continues K base.Spares c) (second : Continues K base.Spares c')
    (abreast : c.store.Abreast clean c'.store)
    (corresponds : Store.Corresponds Eq c.store c'.store target target') :
    (Comparison.abreast clean fun d d' =>
        (Continues K base.Spares d ∧ Leads c d) ∧ Continues K base.Spares d' ∧ Leads c' d').Outcomes
      (entry (compiler.schema fuel) target underMeta c)
      (entry (compiler.schema fuel') target' underMeta' c') := by
  obtain ⟨spot, at_, at'⟩ := corresponds.spot
  obtain ⟨e, found, own⟩ := Option.map_eq_some_iff.1 at_
  obtain ⟨e', found', own'⟩ := Option.map_eq_some_iff.1 at'
  have idle_of {c : Compilation} {id : EntryId} {e : Entry} (linked : c.store.Linked)
      (at_ : c.store.spot? id = some spot) (found : c.store.entry? id = some e)
      (idle : e.progress.isStarted = false) : ¬ c.store.StartedAt spot := by
    intro started
    obtain ⟨f, foundF, begun⟩ := linked.isStarted_of_startedAt started at_
    cases found.symm.trans foundF
    rw [idle] at begun
    cases begun
  cases idle : e.progress.isStarted with
  | true =>
    rw [entry_of_started found idle]
    cases idle' : e'.progress.isStarted with
    | true =>
      rw [entry_of_started found' idle']
      exact fun _ => ⟨abreast, ⟨first, .refl _ _⟩, second, .refl _ _⟩
    | false =>
      have started : c.store.StartedAt spot := own ▸ .of_entry found idle
      have clean := (abreast.first spot started).resolve_left (idle_of second.linked at' found' idle')
      have leaves := cleans (fuel' + 1) fuel' (Nat.lt_succ_self _) c' target' underMeta' spot second at' clean
      unfold CompileM.Leaves at leaves
      cases run' : entry (compiler.schema fuel') target' underMeta' c' with
      | error error' d' =>
        rw [run'] at leaves
        exact fun _ => View.isDeep_of_fails (fun _ => id) leaves
      | ok u d' =>
        rw [run'] at leaves
        obtain ⟨second', leads', -⟩ := second.entry k run'
        exact fun _ => ⟨(abreast.symm.catchUp leads'.evolves leaves).symm, ⟨first, .refl _ _⟩, second', leads'⟩
  | false =>
    cases idle' : e'.progress.isStarted with
    | true =>
      rw [entry_of_started found' idle']
      have started : c'.store.StartedAt spot := own' ▸ .of_entry found' idle'
      have clean := (abreast.second spot started).resolve_left (idle_of first.linked at_ found idle)
      have leaves := cleans (fuel + 1) fuel (Nat.lt_succ_self _) c target underMeta spot first at_ clean
      unfold CompileM.Leaves at leaves
      cases run : entry (compiler.schema fuel) target underMeta c with
      | error error d =>
        rw [run] at leaves
        exact View.isDeep_of_fails (fun _ => id) leaves
      | ok u d =>
        rw [run] at leaves
        obtain ⟨first', leads, -⟩ := first.entry k run
        exact fun _ => ⟨abreast.catchUp leads.evolves leaves, ⟨first', leads⟩, second, .refl _ _⟩
    | false =>
      obtain ⟨begun, active⟩ := first.begun found idle
      obtain ⟨begun', active'⟩ := second.begun found' idle'
      obtain ⟨document, places⟩ := first.content second (first.matched second) corresponds found found'
      have meeting : Meeting K base.Spares base.Spares Eq target target' (Compiler.begun c target) (Compiler.begun c' target') :=
        ⟨begun, begun', active, active', corresponds.evolves (begun_evolves c target) (begun_evolves c' target')⟩
      have outcomes := (schemas e.document _ _ (places underMeta underMeta') rfl rfl).2 _ _
        ⟨abreast.both corresponds (fun _ => startedAt_begun) fun _ => startedAt_begun, meeting⟩
      rw [document] at outcomes
      rw [entry_of_idle found' idle']
      cases ran : compiler.schema fuel e'.document (e.place target underMeta) (Compiler.begun c target) with
      | error error d =>
        rw [ran] at outcomes
        rw [entry_of_idle found idle, document, ran]
        cases ran' : compiler.schema fuel' e'.document (e'.place target' underMeta')
            (Compiler.begun c' target') with
        | error error' d' =>
          rw [ran'] at outcomes
          exact outcomes
        | ok node' d' =>
          rw [ran'] at outcomes
          exact outcomes
      | ok node d =>
        rw [ran] at outcomes
        have run : entry (compiler.schema fuel) target underMeta c = .ok () (finished d target node) := by
          rw [entry_of_idle found idle, document, ran]
        rw [run]
        cases ran' : compiler.schema fuel' e'.document (e'.place target' underMeta')
            (Compiler.begun c' target') with
        | error error' d' =>
          rw [ran'] at outcomes
          exact fun _ => outcomes fun _ _ => trivial
        | ok node' d' =>
          rw [ran'] at outcomes
          have run' : entry (compiler.schema fuel') target' underMeta' c' =
              .ok () (finished d' target' node') := by
            rw [entry_of_idle found' idle', ran']
          obtain ⟨abreast, meeting⟩ := outcomes fun _ _ => trivial
          obtain ⟨first', leads, -⟩ := first.entry k run
          obtain ⟨second', leads', -⟩ := second.entry k run'
          exact fun _ => ⟨abreast.both meeting.corresponds (fun _ => startedAt_finished) fun _ =>
            startedAt_finished, ⟨first', leads⟩, second', leads'⟩

include builtin

/-- Schemas at the same spot, each compiled to some depth. -/
theorem schema_abreast (fuel fuel' : Nat) (value : Value) {place place' : Place}
    (places : place.Like place') :
    Compares (.abreast clean (Meeting K base.Spares base.Spares Eq place.entry place'.entry))
      (compiler.schema fuel value place) (compiler.schema fuel' value place') := by
  induction fuel generalizing fuel' value place place' with
  | zero =>
    refine ⟨schema_evolves builtin 0 value place, fun c c' _ => ?_⟩
    have deep : SchemaError.IsDeep (.malformed (.nestingAt place.schemaPath)) := ⟨_, rfl⟩
    cases compiler.schema fuel' value place' c' with
    | error e' d' => exact .inr (.inl deep)
    | ok node d' => exact deep
  | succ fuel ih =>
    cases fuel' with
    | zero =>
      refine ⟨schema_evolves builtin (fuel + 1) value place, fun c c' _ => ?_⟩
      have deep : SchemaError.IsDeep (.malformed (.nestingAt place'.schemaPath)) := ⟨_, rfl⟩
      cases compiler.schema (fuel + 1) value place c with
      | error e d => exact .inr (.inr deep)
      | ok node d => exact fun _ => deep
    | succ fuel' =>
      have evolves := entry_evolves fun value place => schema_evolves builtin fuel value place
      have evolves' := entry_evolves fun value place => schema_evolves builtin fuel' value place
      refine compares_node builtin places (fun members _ part p p' _ under under' like => ?_)
        fun members text _ _ => ?_
      · have compared := ih fuel' part like
        rwa [under.entry, under'.entry] at compared
      · refine reference_compares (C := .abreast clean (Meeting K base.Spares base.Spares Eq place.entry place'.entry))
          (places.inner members) evolves evolves' (fun _ _ => Continues.matched) (fun c c' meets => meets.2)
          ?_ ?_ ?_ ?_ text
        · rintro c c' d d' ⟨abreast, meeting⟩ first second looks looks'
          refine ⟨⟨fun spot started => ?_, fun spot started => ?_⟩,
            meeting.looks first second looks looks'⟩
          · rw [looks'.startedAt_iff]
            exact abreast.first spot (looks.startedAt_iff.1 started)
          · rw [looks.startedAt_iff]
            exact abreast.second spot (looks'.startedAt_iff.1 started)
        · rintro c c' reference ⟨-, meeting⟩ ⟨named, found⟩ free
          rw [(meeting.first.shares meeting.second).lookup_eq meeting.first.linked meeting.second.linked,
            found] at free
          cases free
        · rintro c c' reference target ⟨-, meeting⟩ missing denotes
          have same := (meeting.first.shares meeting.second).resolve_spot meeting.first.linked
            meeting.second.linked meeting.corresponds reference
          obtain ⟨spot, leads, -⟩ := meeting.second.linked.spot?_denotes denotes
          exact absurd (leads.symm.trans (same.trans (congrArg Resolved.spot? missing))) (by rintro ⟨⟩)
        · rintro c c' target target' ⟨abreast, meeting⟩ corresponds
          refine (entry_abreast k cleans fuel fuel' _ _ (fun value p p' like own own' => ?_) meeting.first
            meeting.second abreast corresponds).imp fun d d' ⟨⟨first, leads⟩, second, leads'⟩ =>
              meeting.leads first second leads leads'
          have compared := ih fuel' value like
          rwa [own, own'] at compared

/-- Compilations of the same entry in two stores that differ in clean spots only end in the same
    way, if bounds on the depth do not matter. -/
theorem compile_abreast (settled : s.Settled K) (settled' : s'.Settled K) (spares : base.Spares s)
    (spares' : base.Spares s') (abreast : s.Abreast clean s') (corresponds : Store.Corresponds Eq s s' id id')
    (shallow : ∀ e, (compiler.compile id s).1 = .error e → ¬ e.IsDeep)
    (shallow' : ∀ e, (compiler.compile id' s').1 = .error e → ¬ e.IsDeep) :
    (compiler.compile id s).1 = (compiler.compile id' s').1 := by
  have outcomes := entry_abreast k cleans (depthOf s) (depthOf s') false false
    (fun value p p' like own own' => by
      have compared := schema_abreast k builtin cleans (depthOf s) (depthOf s') value like
      rwa [own, own'] at compared)
    (.start settled spares) (.start settled' spares') abreast corresponds
  simp only [compile, EStateM.run] at shallow shallow' ⊢
  cases run : entry (compiler.schema (depthOf s)) id false { store := s } with
  | error e d =>
    have shallow := shallow e (by rw [run])
    rw [run] at outcomes
    cases run' : entry (compiler.schema (depthOf s')) id' false { store := s' } with
    | error e' d' =>
      have shallow' := shallow' e' (by rw [run'])
      rw [run'] at outcomes
      have same : e = e' := (outcomes.resolve_right fun deep => deep.elim shallow shallow')
      rw [same]
    | ok u d' =>
      rw [run'] at outcomes
      exact absurd outcomes shallow
  | ok u d =>
    rw [run] at outcomes
    cases run' : entry (compiler.schema (depthOf s')) id' false { store := s' } with
    | error e' d' =>
      rw [run'] at outcomes
      exact absurd (outcomes fun _ _ => trivial) (shallow' e' (by rw [run']))
    | ok u d' => rfl

end Compiler

end JsonSchema
