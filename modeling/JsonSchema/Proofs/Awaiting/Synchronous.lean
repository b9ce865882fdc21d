import JsonSchema.Proofs.Loader.Rounds
import JsonSchema.Proofs.Registry.References
import Mathlib.Logic.Relation

/-!
# Synchronous documents wait for nothing

A keyword whose outcome is known only later compiles only in an asynchronous document, and only
asynchronous documents refer to such documents. So a validator of a synchronous document leaves
nothing for later, no matter how references lead from document to document.

* `Store.Refers`: a compiled schema refers to an entry.
* `Store.Settled.prompt`: what is compiled of a synchronous document waits for nothing.
* `Store.Settled.sync_of_refers`: it leads, over any chain of references, to synchronous documents.
* `Registry.run_prompt`: this is so after any operations, and validators leave nothing for later.
-/

namespace JsonSchema

namespace Store

/-- A compiled schema refers to an entry. -/
def Refers (s : Store) (id target : EntryId) : Prop :=
  ∃ node reference, s.slots id = some node ∧ node.Contains (.ref target reference)

variable {K : EntryId → Compiler → Prop} {s s' : Store} {id target : EntryId} {node : Node}

namespace Settled

variable (settled : s.Settled K)

include settled

/-- What is compiled of a synchronous document waits for nothing, and refers to synchronous
    documents only. -/
theorem prompt (sync : s.isAsync id = false) (slot : s.slots id = some node) :
    node.Prompt s.IsSync := by
  obtain ⟨e, refs, found, done⟩ := done_of_slots slot
  exact (settled.admits id e node refs found done).resolve_left (Bool.eq_false_iff.1 sync)

/-- Chains of references lead from compiled schemas of synchronous documents to others. -/
theorem sync_of_refers (chain : Relation.ReflTransGen s.Refers id target)
    (sync : s.isAsync id = false) (done : s.IsDone id) :
    s.isAsync target = false ∧ s.IsDone target := by
  induction chain with
  | refl => exact ⟨sync, done⟩
  | tail _ step ih =>
    obtain ⟨node, reference, slot, occurs⟩ := step
    exact ⟨((settled.prompt ih.1 slot).refs _ reference occurs).not_isAsync,
      (settled.proxy slot occurs).2⟩

/-- A validator that is not asynchronous leaves nothing for later, compiled or not. -/
theorem run_silent {v : Validator}
    (sync : ∀ e, s.entry? v.entry = some e → s.isAsync v.entry = false) (data : Value) :
    (v.run s.slots data).deferred = [] := by
  have closed : ∀ id node, s.isAsync id = false → s.slots id = some node →
      node.Prompt (s.isAsync · = false) := fun id node sync slot =>
    (settled.prompt sync slot).imp fun _ _ _ leads => leads.not_isAsync
  have own : s.isAsync v.entry = false := by
    cases found : s.entry? v.entry with
    | some e => exact sync e found
    | none => rw [isAsync, rootEntry?, found]; rfl
  have said := Node.run_silent closed (.ref v.entry "#") data { allErrors := v.allErrors }
    (Node.prompt_ref own "#")
  exact List.eq_nil_iff_forall_not_mem.2 said.deferred

end Settled

/-- A document stays what it is over time, asynchronous or not. -/
theorem Succeeds.isAsync (succeeds : s.Succeeds s') (linked : s.Linked) (linked' : s'.Linked)
    {e : Entry} (found : s.entry? id = some e) {e' : Entry} (found' : s'.entry? id = some e') :
    s'.isAsync id = s.isAsync id := by
  obtain ⟨e₀, found₀, bare⟩ := succeeds.entry id e' (index_lt_size found) found'
  rw [found] at found₀
  cases found₀
  obtain ⟨d, foundD, -⟩ := linked.root_entry found
  obtain ⟨d', foundD', -⟩ := linked'.root_entry found'
  have root : e'.root = e.root := (congrArg Entry.root bare :)
  rw [root] at foundD'
  obtain ⟨d₀, foundD₀, bareD⟩ := succeeds.entry _ d' (index_lt_size foundD) foundD'
  rw [foundD] at foundD₀
  cases foundD₀
  have document : d'.document = d.document := (congrArg Entry.document bareD :)
  rw [Store.isAsync, rootEntry?_eq found', root, foundD', Option.map_some, Store.isAsync,
    rootEntry?_eq found, foundD, Option.map_some, Entry.isAsync, document, Entry.isAsync]

end Store

namespace Registry

variable {K : EntryId → Compiler → Prop} {r : Registry}

/-- A validator of an entry that is not asynchronous leaves nothing for later, whatever happens to
    the registry after it was taken. -/
theorem Good.run_silent (good : r.Good K) (later : List Operation) {id : EntryId}
    (there : r.store.IsStarted id) (sync : r.store.isAsync id = false) {v : Validator}
    (of : v.entry = id) (data : Value) : (v.run (r.run later).store.slots data).deferred = [] := by
  have good : r.Good fun _ _ => True := good.weaken fun _ _ _ => trivial
  obtain ⟨good', succeeds⟩ := run_good good later fun _ _ => trivial
  obtain ⟨e, found, -⟩ := there
  refine good'.settled.run_silent (fun e' found' => ?_) data
  rw [of] at found' ⊢
  rw [succeeds.isAsync good.settled.linked good'.settled.linked found found', sync]

/-- After any operations, a synchronous document that is compiled leads over any chain of references
    to synchronous documents alone, no keyword in what they were compiled to waits for its outcome,
    and a validator that is not asynchronous leaves nothing for later. -/
theorem run_prompt (options : Options) (operations later : List Operation) :
    let r := (create options).run operations
    (∀ id, r.isCompiled id = true → r.store.isAsync id = false →
      ∀ target, Relation.ReflTransGen r.store.Refers id target →
        r.store.isAsync target = false ∧ ∃ node, r.store.slots target = some node ∧
          ∀ rules, node.Contains (.rules rules) →
            ∀ rule ∈ rules, ∀ test, rule.check ≠ .deferred test) ∧
    (∀ document, (compile document).Returns r fun v r' => v.isAsync = false →
      ∀ data, (v.run (r'.run later).store.slots data).deferred = []) ∧
    (∀ name, (getSchema name).Returns r fun v? r' => ∀ v, v? = some v → v.isAsync = false →
      ∀ data, (v.run (r'.run later).store.slots data).deferred = []) ∧
    ∀ (σ : Type) (loader : Loader σ) (source : σ) (fetcher : Fetcher) (document : Document)
      (rounds : Nat) (v : Validator) (l : Loading σ),
      Loading.compile loader document rounds { registry := r, fetcher, source } = .ok v l →
      v.isAsync = false → ∀ data, (v.run (l.registry.run later).store.slots data).deferred = [] := by
  intro r
  have good : r.Good fun _ _ => True := reached_good options operations
  have compiled : ∀ {r : Registry} {document : Document} {v : Validator} {r' : Registry},
      (r.Good fun _ _ => True) → compile document r = .ok v r' → v.isAsync = false →
      ∀ data, (v.run (r'.run later).store.slots data).deferred = [] := by
    intro r document v r' good ok sync
    obtain ⟨good', id, -, -, started⟩ := (compile_ensures good document).of_ok ok
    have taken := (compile_returns document).of_ok ok
    rw [taken] at sync
    exact good'.run_silent later started sync rfl
  refine ⟨fun id done sync target chain => ?_, fun document => ?_, fun name => ?_, ?_⟩
  · have settled := good.settled
    obtain ⟨sync', done'⟩ :=
      settled.sync_of_refers chain sync (Store.isSome_slots_iff.1 done)
    obtain ⟨node, slot⟩ := Option.isSome_iff_exists.1 (Store.isSome_slots_iff.2 done')
    exact ⟨sync', node, slot, (settled.prompt sync' slot).rules⟩
  · exact .intro fun v r' ok => compiled good ok
  · refine .intro fun v? r' ok v some_ sync => ?_
    obtain ⟨good', started⟩ := (getSchema_ensures good name).of_ok ok
    have taken := (getSchema_returns name).of_ok ok v some_
    rw [taken] at sync
    exact good'.run_silent later (started v some_) sync rfl
  · intro σ loader source fetcher document rounds v l ok
    obtain ⟨r₀, good₀, ok₀⟩ := Loading.compile_eq_ok (l := { registry := r, fetcher, source }) good ok
    exact compiled good₀ ok₀

end Registry

end JsonSchema
