import JsonSchema.Proofs.Order.Requests
import JsonSchema.Proofs.Registry.Interpretation
import JsonSchema.Proofs.Registry.References
import JsonSchema.Proofs.Registry.Tables

/-!
# Answers to requests

Whatever was requested before, the validator of a name says the same about all data.

* `Store.Counterparts`: corresponding entries of two stores that are compiled.
* `Store.mirroring`: what is compiled there mirrors each other.
* `Registry.SameAnswer`: two requests have the same outcome.
* `Registry.Follows.sameAnswer`: this is so after any other requests.
-/

namespace JsonSchema

/-- A built-in keyword does what it does. -/
theorem Draft07.like {keyword : Keyword} (mem : keyword ∈ keywords) : keyword.Like false keyword where
  name := rfl
  types := rfl
  simple := (Draft07.plain keyword mem).1
  behavior := .inl rfl
  informs own := by
    have all : keywords.all (fun keyword =>
        decide (keyword.name ≠ "$async") || keyword.behavior.isInformative) = true := by
      decide +kernel
    have informs := List.all_eq_true.1 all keyword mem
    rw [own] at informs
    cases behavior : keyword.behavior <;> rw [behavior] at informs <;> first | exact ⟨rfl, rfl⟩ | cases informs

/-! ## Compiled stores -/

namespace Store

variable {K : EntryId → Compiler → Prop} {base s s' : Store} {id id' : EntryId} {spot : Spot}

/-- What is settled for some compilers is so for others which may have compiled what is compiled. -/
theorem Settled.recompiled {K' : EntryId → Compiler → Prop} (settled : s.Settled K)
    (h : ∀ id compiler, s.IsStarted id → K id compiler → K' id compiler) : s.Settled K' where
  linked := settled.linked
  uniform := settled.uniform
  current := settled.current
  leads := settled.leads
  admits := settled.admits
  idle := settled.idle
  holds id e node refs found done := by
    obtain ⟨compiler, fuel, underMeta, k, made⟩ := settled.holds id e node refs found done
    have started : s.IsStarted id := ⟨e, found, by rw [done]; rfl⟩
    exact ⟨compiler, fuel, underMeta, h id compiler started k, made⟩

/-- Corresponding entries of two stores that are compiled. -/
structure Counterparts (M : EntryId → EntryId → Prop) (s s' : Store) (id id' : EntryId) : Prop where
  corresponds : Corresponds M s s' id id'
  first : s.IsStarted id
  second : s'.IsStarted id'

/-- Compiled schemas that were compiled from one document, or are the same and refer to entries
    that are their own counterparts. -/
def Alikeness (M : EntryId → EntryId → Prop) (s s' : Store) (node node' : Node) : Prop :=
  Compiler.Pair false (Counterparts M s s') node node' ∨
    node = node' ∧ ∀ target reference, node.Contains (.ref target reference) →
      Counterparts M s s' target target

/-- Two stores that match, and come from one in which some of their entries were compiled: those
    are compiled as they were, and correspond to themselves alone. -/
structure Descend (M : EntryId → EntryId → Prop) (base s s' : Store) : Prop where
  matched : s.Matches M s'
  kept : ∀ id e node refs, base.entry? id = some e → e.progress = .done node refs →
    s.entry? id = some e ∧ s'.entry? id = some e
  own : ∀ id, base.IsStarted id → Corresponds M s s' id id
  alone : ∀ id id', Corresponds M s s' id id' → base.IsStarted id ∨ base.IsStarted id' → id = id'

/-- Two stores that spared what is in a third one. -/
theorem descend_of_spares (settledBase : base.Settled K) (linked : s.Linked) (linked' : s'.Linked)
    (spares : base.Spares s) (spares' : base.Spares s') : Descend Eq base s s' where
  matched := (spares.shares.symm.trans spares'.shares).matches_self linked linked'
  kept id e node refs found done :=
    ⟨spares.compiled id e node refs found done, spares'.compiled id e node refs found done⟩
  own id started := by
    obtain ⟨e, node, refs, found, done⟩ := settledBase.started_done started
    exact .of_spot (spot?_eq (spares.compiled id e node refs found done))
      (spot?_eq (spares'.compiled id e node refs found done))
  alone id id' corresponds started := by
    obtain ⟨spot, at_, at'⟩ := corresponds.spot
    have same {j : EntryId} (started : base.IsStarted j)
        (own : s.spot? j = some spot ∨ s'.spot? j = some spot) :
        s.spot? j = some spot ∧ s'.spot? j = some spot := by
      obtain ⟨e, node, refs, found, done⟩ := settledBase.started_done started
      have first := spot?_eq (spares.compiled j e node refs found done)
      have second := spot?_eq (spares'.compiled j e node refs found done)
      rcases own with own | own
      · exact ⟨own, second.trans (first.symm.trans own)⟩
      · exact ⟨first.trans (second.symm.trans own), own⟩
    rcases started with started | started
    · exact linked'.spot_unique (same started (.inl at_)).2 at'
    · exact linked.spot_unique at_ (same started (.inr at')).1

section Mirroring

variable {M : EntryId → EntryId → Prop} {compiler : Compiler}
  (ordered : ∀ keyword ∈ compiler.vocabulary.ordered, keyword ∈ Draft07.keywords)
  (settledBase : base.Settled fun id c => base.IsStarted id ∨ c = compiler)
  (settled : s.Settled fun id c => base.IsStarted id ∨ c = compiler)
  (settled' : s'.Settled fun id c => base.IsStarted id ∨ c = compiler)
  (descend : Descend M base s s')

include descend

/-- What was compiled before is its own counterpart. -/
theorem counterparts_self (done : base.IsDone id) : Counterparts M s s' id id := by
  obtain ⟨e, node, refs, found, done⟩ := done
  obtain ⟨kept, kept'⟩ := descend.kept id e node refs found done
  have begun : e.progress.isStarted = true := by rw [done]; rfl
  exact ⟨descend.own id ⟨e, found, begun⟩, ⟨e, kept, begun⟩, e, kept', begun⟩

include settled settled'

/-- References that were followed from corresponding entries led to counterparts. -/
theorem Counterparts.refs (corresponds : Corresponds M s s' id id') {e e' : Entry} {node node' : Node}
    {refs refs' : Bindings String EntryId} (found : s.entry? id = some e)
    (found' : s'.entry? id' = some e') (done : e.progress = .done node refs)
    (done' : e'.progress = .done node' refs') {key : String} {target target' : EntryId}
    (leads : refs.find? key = some target) (leads' : refs'.find? key = some target') :
    Counterparts M s s' target target' := by
  have mem := Bindings.mem_of_find? leads
  have mem' := Bindings.mem_of_find? leads'
  have denotes := settled.current id e found (key, target) (by rw [Entry.refs, done]; exact mem)
  have denotes' := settled'.current id' e' found' (key, target') (by rw [Entry.refs, done']; exact mem')
  exact ⟨descend.matched.denotes settled.linked settled'.linked corresponds denotes denotes',
    settled.leads id e node refs found done _ mem, settled'.leads id' e' node' refs' found' done' _ mem'⟩

include ordered settledBase

/-- What is compiled in two stores, after different steps, mirrors each other. -/
theorem mirroring :
    Mirroring false (Counterparts M s s') (Alikeness M s s') s.slots s'.slots where
  nodes a b h := by
    rcases h with pair | ⟨rfl, refs⟩
    · exact pair.mirrors.imp fun _ _ rule => rule.imp fun _ _ => .inl
    · cases a with
      | always verdict => exact .always verdict
      | ref target reference => exact .ref (refs target reference (.self _)) reference
      | rules rules =>
        refine .rules (List.forall₂_same.2 fun rule mem => ⟨rfl, rfl, rfl, ?_⟩)
        exact Check.mirrors_self fun part of =>
          .inr ⟨rfl, fun target reference occurs => refs target reference (.part mem of occurs)⟩
  slots id id' h := by
    obtain ⟨e, node, refs, found, done⟩ := settled.started_done h.first
    obtain ⟨e', node', refs', found', done'⟩ := settled'.started_done h.second
    have slot : s.slots id = some node := by rw [slots, found, Option.bind_some, done]; rfl
    have slot' : s'.slots id' = some node' := by rw [slots, found', Option.bind_some, done']; rfl
    rw [slot, slot']
    refine .some ?_
    by_cases old : base.IsStarted id ∨ base.IsStarted id'
    · -- it was there before
      obtain rfl := descend.alone id id' h.corresponds old
      rw [or_self] at old
      obtain ⟨e₀, node₀, refs₀, found₀, done₀⟩ := settledBase.started_done old
      obtain ⟨kept, kept'⟩ := descend.kept id e₀ node₀ refs₀ found₀ done₀
      cases found.symm.trans kept
      cases found'.symm.trans kept'
      cases done.symm.trans done₀
      cases done'.symm.trans done₀
      have slot₀ : base.slots id = some node := by
        rw [slots, found₀, Option.bind_some, done₀]
        rfl
      exact .inr ⟨rfl, fun target reference occurs =>
        counterparts_self descend (settledBase.proxy slot₀ occurs).2⟩
    · -- both were compiled since, from one document
      obtain ⟨fresh, fresh'⟩ := not_or.1 old
      obtain ⟨compiler₁, fuel, underMeta, now, -, shape⟩ := settled.holds id e node refs found done
      obtain ⟨compiler₂, fuel', underMeta', now', -, shape'⟩ :=
        settled'.holds id' e' node' refs' found' done'
      obtain rfl := now.resolve_left fresh
      obtain rfl := now'.resolve_left fresh'
      obtain ⟨inside, document, part⟩ := descend.matched.content settled.linked settled'.linked
        h.corresponds found found'
      rw [← document] at shape'
      have places : (e.place id underMeta).Like (e'.place id' underMeta') := ⟨inside, rfl, part⟩
      refine .inl (.compiled ⟨rfl, rfl, ?_, fun key target target' leads leads' => ?_⟩ (.same _)
        places shape shape')
      · exact List.forall₂_same.2 fun keyword mem => Draft07.like (ordered keyword mem)
      · exact Counterparts.refs settled settled' descend h.corresponds found found' done done' leads
          leads'

end Mirroring

end Store

/-! ## Requests -/

namespace Registry

variable {origin r r' : Registry}

/-- What may have compiled an entry of a registry that was reached by requests: what compiles now, unless it
    was compiled before the requests. -/
def MayCompile (origin : Registry) (id : EntryId) (compiler : Compiler) : Prop :=
  origin.store.IsStarted id ∨ compiler = origin.compiler

theorem Good.mayCompile {K : EntryId → Compiler → Prop} (good : origin.Good K) :
    origin.Good origin.MayCompile where
  settled := good.settled.recompiled fun _ _ started _ => .inl started
  current _ := .inr rfl

/-- Two requests have the same answer: there is nothing of this name, or the same error, or
    validators that say the same about all data. -/
def SameAnswer : EStateM.Result SchemaError Registry (Option Validator) →
    EStateM.Result SchemaError Registry (Option Validator) → Prop
  | .ok none _, .ok none _ => True
  | .ok (some v) r, .ok (some v') r' => v.isAsync = v'.isAsync ∧ ∀ data,
      v.validate r.store.slots data = v'.validate r'.store.slots data ∧
        v.resolve r.store.slots data = v'.resolve r'.store.slots data
  | .error e _, .error e' _ => e = e'
  | _, _ => False

/-- Validators of counterparts say the same. -/
theorem Follows.validate_eq (good : origin.Good origin.MayCompile)
    (ordered : ∀ keyword ∈ origin.vocabulary.ordered, keyword ∈ Draft07.keywords)
    (h : Follows origin.MayCompile origin r) (h' : Follows origin.MayCompile origin r')
    {id id' : EntryId} (counterparts : Store.Counterparts Eq r.store r'.store id id') :
    (r.validator id).isAsync = (r'.validator id').isAsync ∧ ∀ data,
      (r.validator id).validate r.store.slots data = (r'.validator id').validate r'.store.slots data ∧
      (r.validator id).resolve r.store.slots data =
        (r'.validator id').resolve r'.store.slots data := by
  have ordered : ∀ keyword ∈ origin.compiler.vocabulary.ordered, keyword ∈ Draft07.keywords := ordered
  have descend := Store.descend_of_spares good.settled h.good.settled.linked h'.good.settled.linked
    h.spares h'.spares
  have mirroring := Store.mirroring ordered good.settled h.good.settled h'.good.settled descend
  have isAsync := descend.matched.isAsync_eq h.good.settled.linked counterparts.corresponds
  have allErrors : (r.validator id).allErrors = (r'.validator id').allErrors :=
    congrArg (·.options.allErrors) (h.compiler.trans h'.compiler.symm)
  exact ⟨isAsync, fun data => mirroring.validate_eq counterparts isAsync allErrors data⟩

/-- A request has the same answer after any other requests. -/
theorem Follows.sameAnswer (good : origin.Good origin.MayCompile) (builtin : origin.vocabulary.IsBuiltin)
    (h : Follows origin.MayCompile origin r) (h' : Follows origin.MayCompile origin r')
    (name : String) : SameAnswer (getSchema name r) (getSchema name r') := by
  have shares := h.spares.shares.symm.trans h'.spares.shares
  have asks := shares.asked_eq h.good.settled.linked h'.good.settled.linked name
  have next := h.get good builtin name
  have next' := h'.get good builtin name
  rcases getSchema_cases h.good name with
    ⟨nothing, run⟩ | ⟨id, s, spot, at₀, at_, settled, spares, fewer, answers⟩ <;>
  rcases getSchema_cases h'.good name with
    ⟨nothing', run'⟩ | ⟨id', s', spot', at₀', at', settled', spares', fewer', answers'⟩
  · rw [run, run']
    trivial
  · rw [asks, nothing] at at₀'
    cases at₀'
  · rw [← asks, nothing'] at at₀
    cases at₀
  · rw [asks, at₀] at at₀'
    cases at₀'
    have same := h.compile_eq good builtin h' settled settled' spares spares' fewer fewer' at_ at'
    rw [← h.compiler] at same
    cases outcome : (r.compiler.compile id s).1 with
    | error e =>
      obtain ⟨t, run, -⟩ := answers.error e outcome
      obtain ⟨t', run', -⟩ := answers'.error e (by rw [h'.compiler, ← h.compiler, ← same, outcome])
      rw [run, run']
      rfl
    | ok u =>
      have outcome' : (r'.compiler.compile id' s').1 = .ok () := by
        rw [h'.compiler, ← h.compiler, ← same, outcome]
      obtain ⟨t, run, -, store⟩ := answers.ok outcome
      obtain ⟨t', run', -, store'⟩ := answers'.ok outcome'
      rw [RegistryM.after, run] at next
      rw [RegistryM.after, run'] at next'
      rw [run, run']
      have k := h.good.current
      have k' := h'.good.current
      have now : t.store.spot? id = some spot := by
        rw [store]
        exact Compiler.spot?_compile settled k outcome at_
      have now' : t'.store.spot? id' = some spot := by
        rw [store']
        exact Compiler.spot?_compile settled' k' outcome' at'
      refine Follows.validate_eq good builtin.ordered next next' ⟨.of_spot now now', ?_, ?_⟩
      · rw [store]
        exact Compiler.compile_isStarted settled k id outcome
      · rw [store']
        exact Compiler.compile_isStarted settled' k' id' outcome'

/-- A table of built-in keywords checks no values. -/
theorem isBuiltin_run (options : Options) (operations : List Operation)
    (ordered : ∀ keyword ∈ ((create options).run operations).vocabulary.ordered,
      keyword ∈ Draft07.keywords) : ((create options).run operations).vocabulary.IsBuiltin where
  ordered := ordered
  unchecked keyword mem := by
    have all : Draft07.keywords.all (·.valueSchema.isNone) = true := by decide +kernel
    have plain := List.all_eq_true.1 all keyword (ordered keyword mem)
    exact (run_checks options operations).find?_valueValidators mem (Option.isNone_iff_eq_none.1 plain)

/-- Requests may come in any order. After any operations, as long as only built-in keywords are
    defined, requests for any names leave the answer to any request as it is: there is nothing of this
    name, or the same error, or validators that say the same about all data. -/
theorem run_orderless (options : Options) (operations : List Operation)
    (builtin : ∀ keyword ∈ ((create options).run operations).vocabulary.ordered,
      keyword ∈ Draft07.keywords) (names names' : List String) (name : String) :
    let r := (create options).run operations
    SameAnswer (getSchema name (r.run (names.map .get))) (getSchema name (r.run (names'.map .get))) := by
  intro r
  have table := isBuiltin_run options operations builtin
  have good : r.Good r.MayCompile := (reached_good options operations).mayCompile
  exact ((Follows.refl good).run good table names).sameAnswer good table
    ((Follows.refl good).run good table names') name

/-- As long as no keywords are defined or removed, there are only built-in ones. -/
theorem ordered_run (options : Options) (operations : List Operation)
    (builtin : ∀ operation ∈ operations, operation.redefines = false) :
    ∀ keyword ∈ ((create options).run operations).vocabulary.ordered, keyword ∈ Draft07.keywords := by
  have table : ((create options).run operations).vocabulary = _ :=
    (run_builtin options operations builtin).now.vocabulary
  intro keyword mem
  rwa [table, VocabularyTable.ordered_draft07] at mem

/-- Two documents that refer to each other, one of them with a part that cannot be compiled. -/
def circular : List Operation :=
  [.add ⟨.object [("items", .object [("$ref", .string "b")])], .given 0⟩ { key := "a" },
    .add ⟨.object [("not", .object [("$ref", .string "a")]),
      ("definitions", .object [("bad", .object [("minimum", .string "x")])])], .given 1⟩
      { key := "b" }]

/-- Requests for the part that cannot be compiled, and for the other document before the first one,
    change nothing about the first one. -/
theorem run_orderless_circular :
    let r := (create { installMeta := false }).run circular
    (∀ keyword ∈ r.vocabulary.ordered, keyword ∈ Draft07.keywords) ∧
      SameAnswer (getSchema "a" (r.run (["b#/definitions/bad", "b", "c"].map .get)))
        (getSchema "a" (r.run (["a"].map .get))) := by
  have builtin := ordered_run { installMeta := false } circular fun operation mem => by
    rcases List.mem_cons.1 mem with rfl | mem
    · rfl
    · rw [List.mem_singleton.1 mem]
      rfl
  exact ⟨builtin, run_orderless { installMeta := false } circular builtin
    ["b#/definitions/bad", "b", "c"] ["a"] "a"⟩

end Registry

end JsonSchema
