import JsonSchema.Proofs.Awaiting.Documents
import JsonSchema.Proofs.Awaiting.Registries
import JsonSchema.Proofs.Compilation.Pairing
import JsonSchema.Proofs.Registry.References
import JsonSchema.Proofs.Validation.Agreement

/-!
# Awaited tests and tests that are done at once

A document may use tests of which the outcomes are known only later. What is said about data
after all of them are done is compared with what the same document says in a registry where the
outcomes are known at once. The two agree except for tests in schemas that are only tried: their
outcomes are taken for granted.

* `Keyword.like_settled`: a keyword and the same keyword with its outcome known at once.
* `Compiler.Settles`: two ways to compile.
* `Store.Settled.mirroring`: what is compiled in the two ways mirrors each other.
* `Registry.run_awaits`: validators of two registries.
-/

namespace JsonSchema

/-! ## Keywords -/

/-- A keyword and the same keyword with its outcome known at once do the same. -/
theorem Keyword.like_settled {table : VocabularyTable} (guarded : table.isProtected "$async" = true)
    {keyword : Keyword} (fits : table.Fits keyword) : keyword.Like true keyword.settled where
  name := keyword.settled_name.symm
  types := keyword.settled_types.symm
  simple := fits.1
  behavior := by
    cases behavior : keyword.behavior with
    | async test =>
      refine .inr ⟨rfl, test, rfl, ?_⟩
      rw [settled]
      simp only [behavior]
    | _ =>
      rw [settled_of_isAsync (by rw [behavior]; rfl)]
      exact .inl behavior.symm
  informs own := by
    have informs := fits.2 (own ▸ guarded)
    rw [settled_of_isAsync (by rw [informs]; rfl)]
    exact ⟨informs, informs⟩

/-- Two compilers are the same, except that the second one knows all outcomes at once. -/
structure Compiler.Settles (compiler compiler' : Compiler) : Prop where
  simple : compiler.vocabulary.IsSimple
  vocabulary : compiler'.vocabulary = compiler.vocabulary.settled
  formats : compiler.formats = compiler'.formats
  extendRefs : compiler.options.extendRefs = compiler'.options.extendRefs

/-- A schema and the schema without the member that declares it asynchronous are alike. -/
theorem Value.Twin.like {value value' : Value} (twin : value.Twin value') : value.Like value' := by
  cases value with
  | object members =>
    obtain ⟨members', rfl, like⟩ := twin.object
    exact .object like
  | _ => cases twin <;> exact .same _

/-! ## Compiled schemas -/

namespace Store

/-- Two entries hold the same document, or the same part of one, and are compiled. -/
def Paired (s s' : Store) (id id' : EntryId) : Prop :=
  (∃ e e', s.Twins s' id id' e e') ∧ s.IsDone id ∧ s'.IsDone id'

namespace Settled

section Mirroring

variable {s s' : Store} {compiler compiler' : Compiler} (settles : compiler.Settles compiler')
  (settled : s.Settled fun _ => (· = compiler)) (settled' : s'.Settled fun _ => (· = compiler'))
  (agrees : s.Agrees s')

include settles settled settled' agrees

/-- What two entries with the same document are compiled to. -/
theorem pair {id id' : EntryId} (paired : s.Paired s' id id') :
    Option.Rel (Compiler.Pair true (s.Paired s')) (s.slots id) (s'.slots id') := by
  obtain ⟨⟨e, e', twins⟩, ⟨d, node, refs, foundD, done⟩, ⟨d', node', refs', foundD', done'⟩⟩ := paired
  cases twins.found.symm.trans foundD
  cases twins.found'.symm.trans foundD'
  obtain ⟨_, fuel, underMeta, rfl, -, shape⟩ := settled.holds id e node refs foundD done
  obtain ⟨_, fuel', underMeta', rfl, -, shape'⟩ := settled'.holds id' e' node' refs' foundD' done'
  rw [Store.slots, foundD, Option.bind_some, done, Store.slots, foundD', Option.bind_some, done']
  refine .some (.compiled ⟨settles.formats, settles.extendRefs, ?_, ?_⟩ ?_ ?_ shape shape')
  · rw [settles.vocabulary]
    refine List.forall₂_map_right_iff.2 (List.forall₂_same.2 fun keyword mem => ?_)
    exact Keyword.like_settled settles.simple.asynchronous (settles.simple.ordered keyword mem)
  · intro key target target' bound bound'
    have mem := Bindings.mem_of_find? bound
    have mem' := Bindings.mem_of_find? bound'
    have denotes := settled.current id e foundD (key, target) (by rw [Entry.refs, done]; exact mem)
    have denotes' := settled'.current id' e' foundD' (key, target') (by rw [Entry.refs, done']; exact mem')
    exact ⟨denotes.twins settled.linked settled'.linked agrees twins denotes',
      settled.isDone (settled.leads id e node refs foundD done _ mem),
      settled'.isDone (settled'.leads id' e' node' refs' foundD' done' _ mem')⟩
  · exact twins.document.like
  · exact ⟨twins.base, rfl, twins.part⟩

/-- What is compiled in the two ways mirrors each other. -/
theorem mirroring : Mirroring true (s.Paired s') (Compiler.Pair true (s.Paired s')) s.slots s'.slots where
  nodes _ _ pair := pair.mirrors
  slots _ _ paired := pair settles settled settled' agrees paired

/-! ## Verdicts -/

/-- What validators of the same document say in the two ways, about all data. -/
theorem verdicts {v v' : Validator} (paired : s.Paired s' v.entry v'.entry)
    (sync : v'.isAsync = false) (data : Value) :
    ((v.resolve s.slots data).violations = [] ↔
        (Node.ref v'.entry "#").accepts s'.slots compiler.vocabulary.defers false data 0 = true) ∧
      ((v'.validate s'.slots data).violations = [] ↔
        (Node.ref v'.entry "#").accepts s'.slots (fun _ => false) false data 0 = true) := by
  have mirroring := mirroring settles settled settled' agrees
  have heeds : ∀ id node, s.slots id = some node → node.Heeds compiler.vocabulary.defers := by
    intro id node slot
    obtain ⟨e, refs, found, done⟩ := done_of_slots slot
    obtain ⟨_, fuel, underMeta, rfl, -, shape⟩ := settled.holds id e node refs found done
    exact shape.heeds settles.simple.heeds settles.simple.defers_reference
  have heeds' : ∀ id node, s'.slots id = some node → node.Heeds fun _ => false := by
    intro id node slot
    obtain ⟨e, refs, found, done⟩ := done_of_slots slot
    obtain ⟨_, fuel, underMeta, rfl, -, shape⟩ := settled'.holds id e node refs found done
    exact shape.heeds (settles.vocabulary ▸ settles.simple.heeds_settled) rfl
  constructor
  · rw [v.resolve_eq_nil_iff heeds data]
    rw [mirroring.accepts_eq _ _ (.ref paired "#")]
  · rw [v'.validate_eq_nil_iff heeds' sync data]
    rw [Node.accepts_tried false]
end Mirroring

end Settled

end Store

/-! ## Registries -/

/-- Tests are settled by defining them so that their outcomes are known at once. -/
theorem Compiler.settles_tests (options : Options) (formats : FormatTable) (tests : List TestKeyword) :
    let table := VocabularyTable.draft07 options.overwriteKeywords
    Settles
      { options, formats, vocabulary := (tests.map TestKeyword.later).foldl VocabularyTable.define table }
      { options, formats, vocabulary := (tests.map TestKeyword.now).foldl VocabularyTable.define table } where
  simple := (VocabularyTable.isSimple_draft07 _).defineAll tests
  vocabulary := by
    rw [← VocabularyTable.settled_defineAll, VocabularyTable.settled_draft07]
  formats := rfl
  extendRefs := rfl

namespace Registry

/-- A registry in which formats and keywords were defined first, and left alone in the
    operations that followed. -/
def defining (options : Options) (formats : List (String × Format)) (keywords : List Keyword)
    (operations : List Operation) : Registry :=
  (create options).run (Operation.definitions formats keywords ++ operations)

/-- Tests of which the outcomes are known only later are compared with the same tests with outcomes
    that are known at once, in two registries that know the same documents. A document that uses
    such tests accepts data, after all of them are done, exactly if the document without its
    declaration that it is asynchronous does so, if there the tests are taken for granted in schemas
    that are only tried. -/
theorem run_awaits (options : Options) (formats : List (String × Format)) (tests : List TestKeyword)
    (operations operations' : List Operation)
    (steady : ∀ operation ∈ operations, operation.isSteady = true)
    (steady' : ∀ operation ∈ operations', operation.isSteady = true)
    (document document' : Document) :
    let r := defining options formats (tests.map TestKeyword.later) operations
    let r' := defining options formats (tests.map TestKeyword.now) operations'
    (compile document).Returns r fun v s => (compile document').Returns r' fun v' s' =>
      s.store.Agrees s'.store →
      (∀ e e', s.store.entry? v.entry = some e → s'.store.entry? v'.entry = some e' → e.Twin e') →
      ∀ data,
        ((v.resolve s.store.slots data).violations = [] ↔
          (Node.ref v'.entry "#").accepts s'.store.slots r.vocabulary.defers false data 0 = true) ∧
        ((v'.validate s'.store.slots data).violations = [] ↔
          (Node.ref v'.entry "#").accepts s'.store.slots (fun _ => false) false data 0 = true) := by
  intro r r'
  have plain : ∀ keyword ∈ tests.map TestKeyword.later, keyword.valueSchema = none := by
    intro keyword mem
    obtain ⟨k, -, rfl⟩ := List.mem_map.1 mem
    rfl
  have plain' : ∀ keyword ∈ tests.map TestKeyword.now, keyword.valueSchema = none := by
    intro keyword mem
    obtain ⟨k, -, rfl⟩ := List.mem_map.1 mem
    rfl
  have good := run_defined options formats (tests.map TestKeyword.later) plain operations steady
  have good' := run_defined options formats (tests.map TestKeyword.now) plain' operations' steady'
  have table : r.vocabulary = _ := congrArg Compiler.vocabulary good.now
  refine .intro fun v s ok => .intro fun v' s' ok' agrees twin data => ?_
  obtain ⟨goodS, id, -, took, started⟩ := (compile_ensures good document).of_ok ok
  obtain ⟨goodS', id', -, took', started'⟩ := (compile_ensures good' document').of_ok ok'
  obtain ⟨e, found, doc, -⟩ := took.entry
  obtain ⟨e', found', doc', -⟩ := took'.entry
  have twin := twin e e' found found'
  have twins := Store.Twins.of_documents goodS.settled.linked goodS'.settled.linked found found' doc
    doc' twin
  have sync : v'.isAsync = false := by
    rw [(compile_returns document').of_ok ok']
    show s'.store.isAsync v'.entry = false
    rw [Store.isAsync, Store.rootEntry?, found', Option.bind_some,
      goodS'.settled.linked.document_root found' doc', found', Option.map_some, Option.getD_some,
      twin.isAsync]
  rw [table]
  exact Store.Settled.verdicts (Compiler.settles_tests options _ tests) goodS.settled goodS'.settled
    agrees ⟨⟨e, e', twins⟩, goodS.settled.isDone started, goodS'.settled.isDone started'⟩ sync data

/-! ### A test that fails -/

/-- A test that nothing passes. -/
def hopeless : TestKeyword := { name := "listed", test := fun _ _ => false }

/-- A document that refuses what passes the test. -/
def unlisted (own : Members) : Document :=
  ⟨.object (own ++ [("not", .object [("listed", .bool true)])]), .given 0⟩

/-- What the document is compiled to. -/
def unlistedNode (check : Check) : Node :=
  .rules [{ keyword := "not", schemaPath := "#/not", types := none, check := .not (.rules
    [{ keyword := "listed", schemaPath := "#/not/listed", types := none, check }]) }]

/-- What is known after the document was compiled. -/
structure Unlists (own : Members) (check : Check) (v : Validator) (s : Store) : Prop where
  one : v.allErrors = false
  slot : s.slots v.entry = some (unlistedNode check)
  schemas : s.schemas = []
  refs : s.refs = []
  entry : (s.entry? v.entry).map (fun e => (e.id, e.localRefs, e.document)) =
    some ("", [], (unlisted own).value)

theorem compile_unlisted :
    ∃ v s, compile (unlisted [("$async", .bool true)])
        (defining { installMeta := false } [] [hopeless.later] []) = .ok v s ∧
      Unlists [("$async", .bool true)] (.deferred fun _ => false) v s.store :=
  ⟨_, _, rfl, ⟨rfl, rfl, rfl, rfl, rfl⟩⟩

theorem compile_unlisted_now :
    ∃ v s, compile (unlisted []) (defining { installMeta := false } [] [hopeless.now] []) = .ok v s ∧
      Unlists [] (.predicate (fun _ => false) false) v s.store ∧ v.isAsync = false :=
  ⟨_, _, rfl, ⟨rfl, rfl, rfl, rfl, rfl⟩, rfl⟩

/-- The test is taken for granted where the document is tried, and the document refuses all data
    then. With the outcome known at once it accepts the data. -/
theorem run_awaits_tried :
    (unlisted []).value = (unlisted [("$async", .bool true)]).value.synchronous ∧
    ∃ v s v' s',
      compile (unlisted [("$async", .bool true)])
        (defining { installMeta := false } [] [hopeless.later] []) = .ok v s ∧
      compile (unlisted []) (defining { installMeta := false } [] [hopeless.now] []) = .ok v' s' ∧
      ¬ ((v.resolve s.store.slots .null).violations = [] ↔
        (v'.validate s'.store.slots .null).violations = []) := by
  obtain ⟨v, s, ok, known⟩ := compile_unlisted
  obtain ⟨v', s', ok', known', sync⟩ := compile_unlisted_now
  refine ⟨rfl, v, s, v', s', ok, ok', fun same => ?_⟩
  refine absurd (same.2 ?_) ?_
  · rw [Validator.validate, sync, Validator.run, known'.one, Node.run_ref _ _ _ (by decide) known'.slot,
      unlistedNode]
    simp only [Node.run_rules, Report.all_cons, Check.run_not, Check.run]
    rfl
  · rw [Validator.resolve, Validator.run, known.one, Node.run_ref _ _ _ (by decide) known.slot,
      unlistedNode]
    simp only [Node.run_rules, Report.all_cons, Check.run_not, Check.run]
    exact List.cons_ne_nil _ _

theorem Unlists.agrees {own : Members} {check : Check} {v : Validator} {s : Store}
    (known : Unlists own check v s) (s' : Store) : s.Agrees s' := by
  intro name id id' e e' named
  rw [Store.lookup, known.schemas, known.refs] at named
  cases named

theorem Unlists.twin {own own' : Members} {check check' : Check} {v v' : Validator} {s s' : Store}
    (known : Unlists own check v s) (known' : Unlists own' check' v' s')
    (same : (unlisted own').value = (unlisted own).value.synchronous) {e e' : Entry}
    (found : s.entry? v.entry = some e) (found' : s'.entry? v'.entry = some e') : e.Twin e' := by
  have entry := known.entry
  have entry' := known'.entry
  rw [found, Option.map_some, Option.some.injEq, Prod.mk.injEq, Prod.mk.injEq] at entry
  rw [found', Option.map_some, Option.some.injEq, Prod.mk.injEq, Prod.mk.injEq] at entry'
  obtain ⟨id, localRefs, document⟩ := entry
  obtain ⟨id', localRefs', document'⟩ := entry'
  exact ⟨id.trans id'.symm, localRefs.trans localRefs'.symm, by rw [document, document', same]⟩

/-- The verdicts on a document that uses a test which nothing passes. -/
theorem run_awaits_unlisted :
    (∀ operation ∈ ([] : List Operation), operation.isSteady = true) ∧
    ∃ v s v' s',
      compile (unlisted [("$async", .bool true)])
        (defining { installMeta := false } [] [hopeless.later] []) = .ok v s ∧
      compile (unlisted []) (defining { installMeta := false } [] [hopeless.now] []) = .ok v' s' ∧
      s.store.Agrees s'.store ∧
      (∀ e e', s.store.entry? v.entry = some e → s'.store.entry? v'.entry = some e' → e.Twin e') ∧
      ((v.resolve s.store.slots .null).violations = [] ↔
        (Node.ref v'.entry "#").accepts s'.store.slots
          (defining { installMeta := false } [] [hopeless.later] []).vocabulary.defers false .null 0 =
            true) ∧
      ((v'.validate s'.store.slots .null).violations = [] ↔
        (Node.ref v'.entry "#").accepts s'.store.slots (fun _ => false) false .null 0 = true) := by
  obtain ⟨v, s, ok, known⟩ := compile_unlisted
  obtain ⟨v', s', ok', known', sync⟩ := compile_unlisted_now
  have none : ∀ operation ∈ ([] : List Operation), operation.isSteady = true :=
    fun _ mem => absurd mem List.not_mem_nil
  have agrees := known.agrees s'.store
  have twin : ∀ e e', s.store.entry? v.entry = some e → s'.store.entry? v'.entry = some e' →
      e.Twin e' := fun _ _ => known.twin known' rfl
  have awaits := run_awaits { installMeta := false } [] [hopeless] [] [] none none
    (unlisted [("$async", .bool true)]) (unlisted [])
  exact ⟨none, v, s, v', s', ok, ok', agrees, twin,
    ((awaits.of_ok ok).of_ok ok') agrees twin .null⟩

end Registry

end JsonSchema
