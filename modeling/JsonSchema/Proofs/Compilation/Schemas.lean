import JsonSchema.Proofs.Compilation.Fragments
import JsonSchema.Proofs.Compilation.Keywords

/-!
# Compiling schemas and entries

A schema is compiled together with the entries that it refers to. The proof is by induction
on the depth: what is compiled one level further down is compiled as it should be.

* `Compilation.Good.remember`, `Compilation.Good.reach`: what a reference leads to is there, and
  is remembered.
* `Compiler.entry_ensures`, `Compiler.schema_compiles`: entries and schemas that were compiled
  are as their texts say.
-/

namespace JsonSchema

open Compilation (Good Leads Advances)
open CompileM (Ensures)

variable {K : EntryId → Compiler → Prop} {origin : Store}

/-! ## Following references -/

namespace Compilation

variable {c : Compilation} {target : EntryId}

/-- The compilation after it remembered what a reference led to. -/
def remember (c : Compilation) (source : EntryId) (reference : String) (target : EntryId) :
    Compilation :=
  { c with store := c.store.modify source (·.remember reference target) }

theorem remember_of_pending {e : Entry} {refs : Bindings String EntryId}
    (pending : e.progress = .inProgress refs) (reference : String) (target : EntryId) :
    e.remember reference target =
      { e with progress := .inProgress (refs.bind reference target) } := by
  rw [Entry.remember, pending]

/-- Remembering what a reference denotes. -/
theorem Good.remember (good : Good K origin c) {source : EntryId} {reference : String}
    (active : c.Active source) (denoted : c.store.Denotes source reference target)
    (unknown : (c.refsOf source).find? reference = none) :
    Good K origin (c.remember source reference target) ∧
      Advances (· = target) c (c.remember source reference target) ∧
      ((c.remember source reference target).refsOf source).find? reference = some target := by
  obtain ⟨e, found, pending⟩ := active
  rw [refsOf_eq found] at unknown
  obtain ⟨refs, hp⟩ : ∃ refs, e.progress = .inProgress refs := by
    cases hp : e.progress <;> rw [hp] at pending <;> cases pending
    exact ⟨_, rfl⟩
  have refs_ : e.refs = refs := by rw [Entry.refs, hp]; rfl
  rw [refs_] at unknown
  have step := remember_of_pending hp reference target
  have self : (c.remember source reference target).store.entry? source =
      some { e with progress := .inProgress (refs ++ [(reference, target)]) } := by
    show Store.entry? (c.store.modify _ _) _ = _
    rw [Store.entry?_modify_self, found, Option.map_some, step, Bindings.bind_eq_append _ unknown]
  have other : ∀ {j : EntryId}, j ≠ source →
      (c.remember source reference target).store.entry? j = c.store.entry? j :=
    fun ne => Store.entry?_modify_of_ne ne _
  refine ⟨⟨good.sound.modify (fun e => e.remember_reset reference target) found ?_ ?_ ?_,
    good.tracks.modify (good.tracks.pending _ _ found pending)
      fun e => e.remember_reset reference target⟩, ⟨fun j f hj => ?_, fun j f hj hpend => ?_⟩, ?_⟩
  · intro ref mem
    rw [step] at mem
    rcases Bindings.mem_bind (show ref ∈ refs.bind reference target from mem) with rfl | old
    · exact denoted
    · exact good.sound.current source e found ref (by rw [refs_]; exact old)
  · intro _
    rw [step]
    rfl
  · intro node refs' done
    rw [step] at done
    cases done
  · by_cases h : j = source
    · subst h
      rw [found] at hj
      cases hj
      refine ⟨_, self, rfl, ?_⟩
      rw [hp]
      exact .follows refs [(reference, target)]
    · exact ⟨f, (other h).trans hj, rfl, .same _⟩
  · by_cases h : j = source
    · subst h
      rw [self] at hj
      cases hj
      refine ⟨e, found, pending, fun ref mem => ?_⟩
      rcases List.mem_append.1 (show ref ∈ refs ++ [(reference, target)] from mem) with old | new
      · exact .inl (by rw [refs_]; exact old)
      · rw [List.mem_singleton.1 new]
        exact .inr rfl
    · exact ⟨f, (other h).symm.trans hj, hpend, fun ref mem => .inl mem⟩
  · rw [refsOf_eq self]
    show (refs ++ [(reference, target)]).find? reference = some target
    rw [Bindings.find?_append, unknown]
    exact if_pos rfl

end Compilation

namespace Compiler

variable {c : Compilation}

open Compilation

/-- What a reference is known to lead to is there. -/
theorem known_eq (good : Good K origin c) (source : EntryId) (reference : String) :
    ((c.store.entry? source).bind (·.refs.find? reference)).filter c.store.isLive =
      (c.refsOf source).find? reference := by
  cases found : c.store.entry? source with
  | none =>
    rw [refsOf, found]
    rfl
  | some e =>
    rw [refsOf_eq found, Option.bind_some]
    cases known : e.refs.find? reference with
    | none => rfl
    | some target =>
      have denoted := good.sound.current source e found _ (Bindings.mem_of_find? known)
      obtain ⟨t, ht⟩ := denoted.isLive good.sound.linked
      rw [Option.filter_some, if_pos (Store.isLive_of_entry ht)]

/-- A reference leads to an entry, which is remembered; or the compilation fails. -/
theorem resolve_spec (good : Good K origin c) {source : EntryId} (active : c.Active source)
    (base reference : String) :
    match resolve source base reference c with
    | .ok (target, absolute) c' => Good K origin c' ∧ Advances (· = target) c c' ∧
        absolute = resolveUrl base reference ∧ (c'.refsOf source).find? absolute = some target
    | .error _ c' => Good K origin c' := by
  have known := known_eq good source (resolveUrl base reference)
  cases unknown : (c.refsOf source).find? (resolveUrl base reference) with
  | some target =>
    rw [unknown] at known
    have run : resolve source base reference c = .ok (target, resolveUrl base reference) c := by
      unfold resolve
      refine (CompileM.get_bind _ c).trans ?_
      simp only [known]
      rfl
    rw [run]
    exact ⟨good, .refl _ c, rfl, unknown⟩
  | none =>
    rw [unknown] at known
    cases found : c.store.resolve source (resolveUrl base reference) with
    | missing =>
      have run : ∃ e, resolve source base reference c = .error e c := by
        refine ⟨.missing (resolveUrl base reference) (documentPart (resolveUrl base reference)), ?_⟩
        unfold resolve
        refine (CompileM.get_bind _ c).trans ?_
        simp only [known, found]
        rfl
      obtain ⟨e, run⟩ := run
      rw [run]
      exact good
    | entry target =>
      have run : resolve source base reference c =
          .ok (target, resolveUrl base reference)
            (c.remember source (resolveUrl base reference) target) := by
        unfold resolve
        refine (CompileM.get_bind _ c).trans ?_
        simp only [known, found]
        rfl
      rw [run]
      have denoted : c.store.Denotes source (resolveUrl base reference) target := by
        rw [Store.Denotes, found]
      obtain ⟨good', advances, remembered⟩ := good.remember active denoted unknown
      exact ⟨good', advances, rfl, remembered⟩
    | fragment root inner pointer part =>
      obtain ⟨reaches, nonempty, cuts⟩ := Store.resolve_eq_fragment_iff.1 found
      obtain ⟨d, foundD, doc⟩ := reaches.document good.sound.linked
      obtain ⟨id, isNew, store, eq, good₁, stays, adds, kept, bound⟩ :=
        good.fragment foundD doc nonempty cuts
      let c₁ : Compilation :=
        { c with store := store, created := if isNew then id :: c.created else c.created }
      have run : resolve source base reference c =
          .ok (id, resolveUrl base reference)
            (c₁.remember source (resolveUrl base reference) id) := by
        unfold resolve
        refine (CompileM.get_bind _ c).trans ?_
        simp only [known, found, eq]
        rfl
      rw [run]
      have first : Advances (fun _ => False) c c₁ := by
        refine ⟨fun j e he => ⟨e, stays j e he, rfl, .same _⟩, fun j e he pending => ?_⟩
        rcases adds j e he with old | new
        · exact ⟨e, old, pending, fun ref mem => .inl mem⟩
        · rw [new] at pending
          cases pending
      have active₁ := active.leads first
      obtain ⟨e, found₀, -⟩ := active
      have denoted : store.Denotes source (resolveUrl base reference) id := by
        rw [Store.Denotes, Store.resolve_of_reaches_part
          (reaches.transfer good.sound.linked kept trivial trivial) nonempty]
        · exact bound
        · obtain ⟨f, segments, hf, hs, hw⟩ := cuts
          exact ⟨f, segments, stays _ _ hf, hs, hw⟩
      have unknown₁ : (c₁.refsOf source).find? (resolveUrl base reference) = none := by
        rw [refsOf_eq found₀] at unknown
        rw [refsOf_eq (stays _ _ found₀)]
        exact unknown
      obtain ⟨good', advances, remembered⟩ :=
        good₁.remember active₁ denoted unknown₁
      exact ⟨good', first.trans advances (fun _ h => h.elim) fun _ h => h, rfl, remembered⟩

/-- The rest of a compilation, after a reference was followed to what the rest compiles. -/
theorem after_ensures {α : Type} {c₁ : Compilation} {target : EntryId} {m : CompileM α}
    {post : α → Compilation → Prop} (advances : Advances (· = target) c c₁)
    (rest : Ensures K origin c₁ m fun a c' => c'.store.IsStarted target ∧ post a c') :
    match m c₁ with
    | .ok a c' => Good K origin c' ∧ Leads c c' ∧ post a c'
    | .error _ c' => Good K origin c' := by
  unfold Ensures at rest
  cases run : m c₁ with
  | error e c' =>
    rw [run] at rest
    exact rest
  | ok a c' =>
    rw [run] at rest
    obtain ⟨good, leads, started, h⟩ := rest
    refine ⟨good, Advances.trans advances leads (fun id e => ?_) fun _ h => h, h⟩
    rw [e]
    exact started

/-- A reference is compiled to a leaf that names what it leads to, which is compiled too. A
    synchronous document is led to synchronous ones. -/
theorem reference_ensures {entry : EntryId → Bool → CompileM Unit}
    (entries : ∀ c id underMeta, Good K origin c →
      Ensures K origin c (entry id underMeta) fun _ c' => c'.store.IsStarted id)
    (good : Good K origin c) (place : Place) (active : c.Active place.entry) (value : Value) :
    Ensures K origin c (reference entry value place) fun node c' =>
      ∃ text target, value = .string text ∧
        (c'.refsOf place.entry).find? (resolveUrl place.base text) = some target ∧
        node = .ref target (resolveUrl place.base text) ∧ c'.store.Admits place.entry node := by
  cases value with
  | string text =>
    have spec := resolve_spec good active place.base text
    show Ensures K origin c (resolve place.entry place.base text >>= _) _
    unfold Ensures
    cases run : resolve place.entry place.base text c with
    | error e c₁ =>
      rw [CompileM.bind_error run]
      rw [run] at spec
      exact spec
    | ok found c₁ =>
      obtain ⟨target, absolute⟩ := found
      rw [CompileM.bind_ok run]
      rw [run] at spec
      obtain ⟨good₁, advances, rfl, remembered⟩ := spec
      refine after_ensures advances ?_
      refine (entries c₁ target place.underMeta good₁).bind fun _ c₂ good₂ leads started => ?_
      refine .get_bind ?_
      by_cases async : (c₂.store.isAsync target && !c₂.store.isAsync place.entry) = true
      · simp only [async, if_true]
        exact .throw_bind good₂ _ _
      · simp only [async]
        refine .pure good₂ ⟨started, text, target, rfl, leads.find?_refsOf remembered, rfl, ?_⟩
        by_cases own : c₂.store.isAsync place.entry = true
        · exact .inl own
        · obtain ⟨t, found, -⟩ := started
          have sync : c₂.store.isAsync target = false := by simpa [own] using async
          exact .inr (Node.prompt_ref (good₂.sound.linked.isSync found sync) _)
  | _ => exact .throw good _

/-! ## Schemas -/

theorem baseInside_ensures (good : Good K origin c) (members : Members) (place : Place) :
    Ensures K origin c (baseInside members place) fun base c' =>
      base = innerBase members place.base place.applyId ∧ c' = c := by
  unfold baseInside innerBase
  cases Members.get? members "$id" with
  | none => exact .pure good ⟨rfl, rfl⟩
  | some value =>
    cases place.applyId with
    | false =>
      refine .pure good ⟨?_, rfl⟩
      cases value <;> rfl
    | true =>
      cases value with
      | string id => exact .pure good ⟨rfl, rfl⟩
      | _ => exact .throw good _

/-- Meta-schemas are compiled under the same rule for what stands beside a reference. -/
theorem extendRefs_optionsAt (compiler : Compiler) (place : Place) :
    (compiler.optionsAt place).extendRefs = compiler.options.extendRefs := by
  unfold optionsAt
  split <;> rfl

/-- A document admits the rules of a schema if it admits what they apply. -/
theorem admits_ofRules {s : Store} {id : EntryId} {rules : List (Rule Check)}
    (waits : ∀ rule ∈ rules, ∀ test, rule.check = .deferred test → s.isAsync id = true)
    (parts : ∀ rule ∈ rules, ∀ part ∈ rule.check.parts, s.Admits id part) :
    s.Admits id (ofRules rules) :=
  ofRules_induct (P := s.Admits id) (Store.admits_always s id true) (Store.admits_rules waits parts)

theorem RulesShape.admits {compiler : Compiler} {N : NodeRelation} {members : Members}
    {place : Place} {rules : List (Rule Check)} {s : Store} {id : EntryId}
    (shape : compiler.RulesShape N members place rules)
    (parts : ∀ value place node, N value place node → s.Admits id node) :
    ∀ rule ∈ rules, ∀ part ∈ rule.check.parts, s.Admits id part := by
  intro rule mem part of
  rcases (shape.rule mem).2.2 part of with rfl | ⟨value, place, made⟩
  · exact Store.admits_always s id true
  · exact parts value place part made

/-- A schema is compiled as described, to what its document admits. -/
theorem node_ensures {schema : SchemaCompiler} {N : Compilation → NodeRelation}
    {entry : EntryId → Bool → CompileM Unit} {place : Place}
    (compiles : Compiles K origin place.entry schema N)
    (admits : ∀ c value at_ node, N c value at_ node → c.store.Admits place.entry node)
    (entries : ∀ c id underMeta, Good K origin c →
      Ensures K origin c (entry id underMeta) fun _ c' => c'.store.IsStarted id)
    (good : Good K origin c) (active : c.Active place.entry) (compiler : Compiler)
    (value : Value) :
    Ensures K origin c (compiler.node schema entry value place) fun node c' =>
      compiler.NodeShape (c'.refsOf place.entry) (N c') value place node ∧
        c'.store.Admits place.entry node := by
  cases value with
  | bool verdict => exact .pure good ⟨rfl, Store.admits_always _ _ _⟩
  | object members =>
    refine (baseInside_ensures good members place).bind fun base c₁ good₁ leads₁ h => ?_
    obtain ⟨rfl, rfl⟩ := h
    let inside : Place := { place with
      base := innerBase members place.base place.applyId, applyId := true }
    cases text : Members.get? members "$ref" with
    | none =>
      simp only [NodeShape, text]
      refine (rules_ensures inside compiles good₁ active compiler members).bind
        fun rules c' good' _ h => ?_
      obtain ⟨shape, waits⟩ := h
      exact .pure good' ⟨⟨rules, shape, rfl⟩, admits_ofRules waits (shape.admits (admits c'))⟩
    | some value =>
      simp only [NodeShape, text]
      refine (reference_ensures entries good₁ inside active value).bind
        fun node c₂ good₂ leads₂ h => ?_
      obtain ⟨reference, target, hv, found, hn, leaf⟩ := h
      rw [extendRefs_optionsAt]
      cases mode : compiler.options.extendRefs with
      | ignore => exact .pure good₂ ⟨⟨reference, target, hv, found, hn⟩, leaf⟩
      | fail =>
        by_cases beside : (Members.names members).any compiler.checks = true
        · simp only [beside, if_true]
          exact .throw_bind good₂ _ _
        · simp only [beside]
          exact .pure good₂ ⟨⟨reference, target, hv, found, hn⟩, leaf⟩
      | apply =>
        refine (rules_ensures inside compiles good₂ (active.leads leads₂) compiler members).bind
          fun rules c' good' leads h => ?_
        obtain ⟨shape, waits⟩ := h
        refine .pure good' ⟨⟨reference, target, hv, leads.find?_refsOf found,
          rules, shape, by rw [hn]; rfl⟩, ?_⟩
        have leaf : c'.store.Admits place.entry node :=
          leaf.transfer (leads.keepsRoot _) fun _ _ _ => leads.keepsRoot _
        refine admits_ofRules (fun rule mem => ?_) fun rule mem => ?_
        · rcases List.mem_cons.1 mem with rfl | mem
          · intro test own
            cases own
          · exact waits rule mem
        · rcases List.mem_cons.1 mem with rfl | mem
          · exact fun part of => List.mem_singleton.1 of ▸ leaf
          · exact shape.admits (admits c') rule mem
  | _ => exact .throw good _

/-! ## Entries -/

/-- The compilation at the beginning of the compilation of an entry. -/
def begun (c : Compilation) (id : EntryId) : Compilation :=
  { c with store := c.store.modify id Entry.begin, started := id :: c.started }

/-- The compilation at the end of the compilation of an entry. -/
def finished (c : Compilation) (id : EntryId) (node : Node) : Compilation :=
  { c with store := c.store.modify id (·.finish node) }

section Entry

variable {id : EntryId} {e : JsonSchema.Entry}

theorem entry?_begun (found : c.store.entry? id = some e) :
    (begun c id).store.entry? id = some e.begin := by
  show Store.entry? (c.store.modify id Entry.begin) id = _
  rw [Store.entry?_modify_self, found]
  rfl

theorem good_begun (good : Good K origin c) (found : c.store.entry? id = some e)
    (idle : e.progress.isStarted = false) : Good K origin (begun c id) := by
  refine ⟨good.sound.modify (fun e => e.begin_reset) found ?_ (fun _ => rfl) ?_,
    good.tracks.begin found idle⟩
  · intro ref mem
    cases mem
  · intro node refs done
    cases done

/-- An entry whose document was compiled as it should be is compiled. -/
theorem good_finished {c' : Compilation} {compiler : Compiler} {fuel : Nat} {underMeta : Bool}
    {node : Node} (k : ∀ id, K id compiler) (good : Good K origin c') (found : c.store.entry? id = some e)
    (idle : e.progress.isStarted = false) (leads : Leads (begun c id) c')
    (run : compiler.schema fuel e.document (e.place id underMeta) (begun c id) = .ok node c')
    (shape : compiler.Compiled (c'.refsOf id) fuel e.document (e.place id underMeta) node)
    (admits : c'.store.Admits id node) :
    Good K origin (finished c' id node) ∧ Leads c (finished c' id node) ∧
      (finished c' id node).store.IsStarted id := by
  have other : ∀ {j : EntryId}, j ≠ id →
      (begun c id).store.entry? j = c.store.entry? j := fun ne => Store.entry?_modify_of_ne ne _
  have other' : ∀ {j : EntryId}, j ≠ id →
      (finished c' id node).store.entry? j = c'.store.entry? j :=
    fun ne => Store.entry?_modify_of_ne ne _
  obtain ⟨e', found', eq, grows⟩ := leads.grows id _ (entry?_begun found)
  have pending := grows.isPending rfl
  have self : (finished c' id node).store.entry? id = some (e'.finish node) := by
    show Store.entry? (c'.store.modify id _) id = _
    rw [Store.entry?_modify_self, found']
    rfl
  have same : e' = { e with progress := e'.progress } :=
    JsonSchema.Entry.eq_of_reset_eq (by rw [eq]; rfl)
  -- what the entry refers to is compiled by now, since it began without references
  have refs : ∀ ref ∈ e'.refs, c'.store.IsStarted ref.2 := by
    intro ref mem
    obtain ⟨e₁, found₁, -, more⟩ := leads.pending id e' found' pending
    rw [entry?_begun found] at found₁
    cases found₁
    rcases more ref mem with none | started
    · cases none
    · exact started
  have started : ∀ {j : EntryId}, c'.store.IsStarted j →
      (finished c' id node).store.IsStarted j := by
    rintro j ⟨f, hf, hs⟩
    by_cases h : j = id
    · subst h
      exact ⟨_, self, rfl⟩
    · exact ⟨f, (other' h).trans hf, hs⟩
  refine ⟨⟨good.sound.modify (fun e => e.finish_reset node) found' ?_ (fun _ => rfl) ?_,
    good.tracks.modify (good.tracks.pending id e' found' pending) fun e => e.finish_reset node⟩,
    ⟨fun j f hf => ?_, fun j f hf hp => ?_⟩, _, self, rfl⟩
  · exact good.sound.current id e' found'
  · intro node' refs' done
    cases done
    refine ⟨⟨compiler, fuel, underMeta, k id, ⟨begun c id, c', ?_⟩, ?_⟩, refs, admits⟩
    · rw [same]
      exact run
    · rw [Compilation.refsOf_eq found'] at shape
      rw [same]
      exact shape
  · by_cases h : j = id
    · subst h
      rw [found] at hf
      cases hf
      exact ⟨_, self, eq, .begins _ idle⟩
    · obtain ⟨f', hf', eqf, growsf⟩ := leads.grows j f ((other h).trans hf)
      exact ⟨f', (other' h).trans hf', eqf, growsf⟩
  · by_cases h : j = id
    · subst h
      rw [self] at hf
      cases hf
      cases hp
    · obtain ⟨f₀, hf₀, hp₀, more⟩ := leads.pending j f ((other' h).symm.trans hf) hp
      exact ⟨f₀, (other h).symm.trans hf₀, hp₀, fun ref mem => (more ref mem).imp (fun h => h) started⟩

/-- An entry that was compiled, or is being compiled, has begun. -/
theorem entry_ensures {compiler : Compiler} {fuel : Nat} (k : ∀ id, K id compiler)
    (compiles : ∀ id, Compiles K origin id (compiler.schema fuel) fun c value place node =>
      compiler.Compiled (c.refsOf id) fuel value place node ∧ c.store.Admits id node)
    (good : Good K origin c) (id : EntryId) (underMeta : Bool) :
    Ensures K origin c (entry (compiler.schema fuel) id underMeta) fun _ c' =>
      c'.store.IsStarted id := by
  unfold entry
  refine .get_bind ?_
  cases found : c.store.entry? id with
  | none => exact .throw good _
  | some e =>
    simp only
    cases idle : e.progress.isStarted with
    | true => exact .pure good ⟨e, found, idle⟩
    | false =>
      have inner := (compiles id).run e.document (e.place id underMeta) (begun c id) rfl
        (good_begun good found idle) ⟨_, entry?_begun found, rfl⟩
      show Ensures K origin c (do
        modify fun c => begun c id
        let compiled ← compiler.schema fuel e.document (e.place id underMeta)
        modify fun c => finished c id compiled) _
      unfold Ensures at inner ⊢
      rw [CompileM.modify_bind]
      cases run : compiler.schema fuel e.document (e.place id underMeta) (begun c id) with
      | error error c' =>
        rw [CompileM.bind_error run]
        rw [run] at inner
        exact inner
      | ok node c' =>
        rw [CompileM.bind_ok run]
        rw [run] at inner
        obtain ⟨good', leads, shape, admits⟩ := inner
        exact good_finished k good' found idle leads run shape admits

end Entry

/-! ## All depths -/

/-- Schemas are compiled as they should be, down to every depth. -/
theorem schema_compiles {compiler : Compiler} (k : ∀ id, K id compiler) (fuel : Nat) (id : EntryId) :
    Compiles K origin id (compiler.schema fuel) fun c value place node =>
      compiler.Compiled (c.refsOf id) fuel value place node ∧ c.store.Admits id node := by
  induction fuel generalizing id with
  | zero => exact ⟨fun _ _ _ _ good _ => .throw good _, fun _ _ _ _ _ _ h => ⟨h.1, h.1.elim⟩⟩
  | succ fuel ih =>
    refine ⟨fun value place c at_ good active => ?_, fun c c' _ _ node leads shape =>
      ⟨shape.1.mono fun _ _ found => leads.find?_refsOf found,
        shape.2.transfer (leads.keepsRoot _) fun _ _ _ => leads.keepsRoot _⟩⟩
    subst at_
    refine (node_ensures (ih place.entry) (fun _ _ _ _ => And.right)
      (fun c id underMeta good => entry_ensures k ih good id underMeta) good active compiler
      value).imp fun node c' _ ⟨shape, admits⟩ => ⟨?_, admits⟩
    exact shape.mono (fun _ _ _ => And.left) fun _ _ found => found

end Compiler

end JsonSchema
