import JsonSchema.Proofs.Meaning.Simulation
import JsonSchema.Proofs.Registry.Tables

/-!
# Tests that are awaited

A test may be defined as a keyword of which the outcome is known only later, or as one of which
it is known at once. The tables of keywords that are made in the two ways have the same
keywords in the same order, apart from that.

* `TestKeyword`: a test, as a keyword of both kinds.
* `Keyword.settled`, `VocabularyTable.settled`: keywords of which the outcomes are known at once.
* `VocabularyTable.settled_define`: definitions in both tables go alike.
* `VocabularyTable.IsSimple`: what holds of a table of built-in keywords and tests.
-/

namespace JsonSchema

/-- A test that may be defined as a keyword. -/
structure TestKeyword where
  name : String
  types : Option (List Kind) := none
  before : List String := []
  after : List String := []
  requires : List String := []
  nesting : Nesting := .none
  /-- Whether the data passes, given the value of the keyword and the data. -/
  test : Value → Value → Bool

namespace TestKeyword

/-- The test as a keyword of which the outcome is known only later. -/
def later (k : TestKeyword) : Keyword where
  name := k.name
  types := k.types
  before := k.before
  after := k.after
  requires := k.requires
  nesting := k.nesting
  behavior := .async k.test

/-- The test as a keyword of which the outcome is known at once. -/
def now (k : TestKeyword) : Keyword := { k.later with behavior := .validate k.test false }

end TestKeyword

/-! ## Order -/

namespace Keyword

/-- The keyword, its outcome known at once. -/
def settled (keyword : Keyword) : Keyword :=
  match keyword.behavior with
  | .async test => { keyword with behavior := .validate test false }
  | _ => keyword

@[simp] theorem settled_name (keyword : Keyword) : keyword.settled.name = keyword.name := by
  unfold settled
  split <;> rfl

@[simp] theorem settled_types (keyword : Keyword) : keyword.settled.types = keyword.types := by
  unfold settled
  split <;> rfl

@[simp] theorem settled_before (keyword : Keyword) : keyword.settled.before = keyword.before := by
  unfold settled
  split <;> rfl

@[simp] theorem settled_after (keyword : Keyword) : keyword.settled.after = keyword.after := by
  unfold settled
  split <;> rfl

theorem settled_of_isAsync {keyword : Keyword} (now : keyword.behavior.isAsync = false) :
    keyword.settled = keyword := by
  unfold settled
  split
  · next test behavior =>
    rw [behavior] at now
    cases now
  · rfl

theorem isAsync_settled (keyword : Keyword) : keyword.settled.behavior.isAsync = false := by
  unfold settled
  split
  · rfl
  · next other =>
    rw [Bool.eq_false_iff]
    intro h
    obtain ⟨test, behavior⟩ := Behavior.isAsync_iff.1 h
    exact other test behavior

theorem isSimple_settled (keyword : Keyword) : keyword.settled.isSimple = keyword.isSimple := by
  unfold settled
  split
  · next test behavior => rw [isSimple, isSimple, behavior]
  · rfl

theorem precedes_settled (j k : Keyword) : j.settled.precedes k.settled = j.precedes k := by
  simp only [precedes, settled_before, settled_after, settled_name]

/-- Keywords of which the outcomes are known at once are arranged like the others. -/
theorem arrange_settled (n : Nat) (keywords : List Keyword) :
    arrange n (keywords.map settled) = (arrange n keywords).map settled := by
  induction n generalizing keywords with
  | zero => rfl
  | succ n ih =>
    have free : ((fun k => (keywords.map settled).all fun j => !j.precedes k) ∘ settled) =
        fun k => keywords.all fun j => !j.precedes k := by
      funext k
      simp only [Function.comp_apply, List.all_map]
      exact all_eq_of_mem fun j _ => by rw [Function.comp_apply, precedes_settled]
    rw [arrange, arrange, List.find?_map, free]
    cases keywords.find? fun k => keywords.all fun j => !j.precedes k with
    | none => rfl
    | some k =>
      have rest : (keywords.map settled).filter (·.name ≠ k.settled.name) =
          (keywords.filter (·.name ≠ k.name)).map settled := by
        rw [List.filter_map, settled_name]
        congr 1
        refine List.filter_congr fun j _ => ?_
        rw [Function.comp_apply, settled_name]
      simp only [Option.map_some, List.map_cons, rest, ih]

end Keyword

/-! ## Tables -/

namespace VocabularyTable

/-- The table with the outcomes of all keywords known at once. -/
def settled (table : VocabularyTable) : VocabularyTable :=
  { table with
    keywords := table.keywords.map Keyword.settled
    ordered := table.ordered.map Keyword.settled }

/-- The table after an attempt to define a keyword. -/
def define (table : VocabularyTable) (keyword : Keyword) : VocabularyTable :=
  (table.addKeyword keyword).toOption.getD table

theorem contains_settled (table : VocabularyTable) (name : String) :
    table.settled.contains name = table.contains name := by
  have same : ((fun k : Keyword => k.name == name) ∘ Keyword.settled) = fun k => k.name == name := by
    funext k
    rw [Function.comp_apply, Keyword.settled_name]
  rw [contains, contains, get?, get?, settled, List.find?_map, same, Option.isSome_map]

theorem without_settled (table : VocabularyTable) (names : List String) :
    table.settled.without names = (table.without names).settled := by
  have same : (fun k : Keyword => !names.contains k.name) ∘ Keyword.settled =
      fun k => !names.contains k.name := by
    funext k
    rw [Function.comp_apply, Keyword.settled_name]
  simp only [without, settled, List.filter_map, same]

theorem stage_settled (table : VocabularyTable) (keyword : Keyword) (owner : Option String) :
    table.settled.stage keyword.settled owner = (table.stage keyword owner).map settled := by
  have guarded : table.settled.isProtected keyword.name = table.isProtected keyword.name := rfl
  have overwrite : table.settled.overwrite = table.overwrite := rfl
  simp only [stage, Keyword.settled_name, guarded, contains_settled, overwrite, without_settled]
  split
  · rfl
  · split
    · rfl
    · split
      · rfl
      · simp only [Except.map, settled, List.map_append, List.map_cons, List.map_nil]

theorem reorder_settled (table : VocabularyTable) :
    table.settled.reorder.toOption = table.reorder.toOption.map settled := by
  simp only [reorder, Keyword.order, settled, Keyword.arrange_settled, List.length_map]
  by_cases whole : (Keyword.arrange table.keywords.length table.keywords).length =
      table.keywords.length
  · rw [if_pos whole, if_pos whole]
    rfl
  · rw [if_neg whole, if_neg whole]
    rfl

/-- Definitions in both tables go alike. -/
theorem settled_define (table : VocabularyTable) (keyword : Keyword) :
    table.settled.define keyword.settled = (table.define keyword).settled := by
  have staged := stage_settled table keyword none
  rw [define, define, addKeyword, addKeyword, staged]
  cases table.stage keyword none with
  | error e => rfl
  | ok next =>
    show next.settled.reorder.toOption.getD table.settled = (next.reorder.toOption.getD table).settled
    rw [reorder_settled]
    cases next.reorder.toOption <;> rfl

theorem settled_draft07 (overwrite : Bool) : (draft07 overwrite).settled = draft07 overwrite := by
  cases overwrite <;> rfl

/-! ## Simple tables -/

/-- A keyword of a table is built in or a test, and only informs if the table protects it. -/
def Fits (table : VocabularyTable) (keyword : Keyword) : Prop :=
  keyword.isSimple = true ∧ (table.isProtected keyword.name = true → keyword.behavior = .informative)

/-- A table of built-in keywords and tests, in which the keywords are protected that say how
    documents refer to each other and whether they are asynchronous. -/
structure IsSimple (table : VocabularyTable) : Prop where
  keywords : ∀ keyword ∈ table.keywords, table.Fits keyword
  ordered : ∀ keyword ∈ table.ordered, table.Fits keyword
  distinct : (table.ordered.map (·.name)).Nodup
  reference : table.isProtected "$ref" = true
  asynchronous : table.isProtected "$async" = true

theorem isSimple_draft07 (overwrite : Bool) : (draft07 overwrite).IsSimple := by
  have guarded : (draft07 overwrite).protectedNames = Draft07.core.keywords.map (·.name) := by
    cases overwrite <;> rfl
  have fits : ∀ keyword ∈ Draft07.keywords, (draft07 overwrite).Fits keyword := by
    have all_ : (Draft07.keywords.all fun keyword =>
        !(Draft07.core.keywords.map (·.name)).contains keyword.name ||
          keyword.behavior.isInformative) = true := by decide
    intro keyword mem
    refine ⟨(Draft07.plain keyword mem).1, fun covered => ?_⟩
    have informs := List.all_eq_true.1 all_ keyword mem
    rw [isProtected, guarded] at covered
    rw [covered, Bool.not_true, Bool.false_or] at informs
    cases behavior : keyword.behavior with
    | informative => rfl
    | _ =>
      rw [behavior] at informs
      cases informs
  refine ⟨?_, ?_, ?_, ?_, ?_⟩
  · rw [keywords_draft07]
    exact fits
  · rw [ordered_draft07]
    exact fits
  · rw [ordered_draft07]
    decide
  · rw [isProtected, guarded]
    decide
  · rw [isProtected, guarded]
    decide

/-- The definition of a test leaves a table simple. -/
theorem IsSimple.define {table : VocabularyTable} (simple : table.IsSimple) (k : TestKeyword) :
    (table.define k.later).IsSimple := by
  rw [VocabularyTable.define]
  cases added : table.addKeyword k.later with
  | error e => exact simple
  | ok next =>
    rw [addKeyword] at added
    cases staged : table.stage k.later none with
    | error e =>
      rw [staged] at added
      cases added
    | ok middle =>
      rw [staged] at added
      have free := (stage_ok staged).1
      have guarded : middle.protectedNames = table.protectedNames := by rw [(stage_ok staged).2]; rfl
      have ordered := reorder_ok added
      have same (name : String) : next.isProtected name = table.isProtected name := by
        rw [isProtected, isProtected, ordered, guarded]
      have fits : ∀ keyword ∈ middle.keywords, next.Fits keyword := by
        intro keyword mem
        rw [Fits, same]
        rcases (mem_keywords_of_stage staged).1 mem with ⟨old, -⟩ | rfl
        · exact simple.keywords keyword old
        · exact ⟨rfl, fun covered => absurd (free.symm.trans covered) (by decide)⟩
      refine ⟨fun keyword mem => fits keyword ?_, fun keyword mem => fits keyword ?_, ?_, ?_, ?_⟩
      · rwa [ordered] at mem
      · rw [ordered] at mem
        exact Keyword.mem_of_mem_arrange mem
      · show (next.ordered.map (·.name)).Nodup
        rw [ordered]
        exact Keyword.nodup_arrange _ _
      · exact (same _).trans simple.reference
      · exact (same _).trans simple.asynchronous

/-- The definitions of tests leave a table simple. -/
theorem IsSimple.defineAll {table : VocabularyTable} (simple : table.IsSimple)
    (tests : List TestKeyword) : ((tests.map TestKeyword.later).foldl VocabularyTable.define table).IsSimple := by
  induction tests generalizing table with
  | nil => exact simple
  | cons k rest ih => exact ih (simple.define k)

/-- The definitions of tests of both kinds go alike. -/
theorem settled_defineAll (table : VocabularyTable) (tests : List TestKeyword) :
    (tests.map TestKeyword.now).foldl define table.settled =
      ((tests.map TestKeyword.later).foldl define table).settled := by
  induction tests generalizing table with
  | nil => rfl
  | cons k rest ih =>
    rw [List.map_cons, List.map_cons, List.foldl_cons, List.foldl_cons, ← ih, ← settled_define]
    rfl

/-! ## Outcomes -/

/-- Whether the outcome of a keyword is known only later. -/
def defers (table : VocabularyTable) (name : String) : Bool :=
  table.ordered.any fun keyword => keyword.behavior.isAsync && keyword.name == name

namespace IsSimple

variable {table : VocabularyTable} (simple : table.IsSimple)

include simple

theorem defers_eq {keyword : Keyword} (mem : keyword ∈ table.ordered) :
    table.defers keyword.name = keyword.behavior.isAsync := by
  rw [Bool.eq_iff_iff, defers, List.any_eq_true]
  constructor
  · rintro ⟨other, memO, h⟩
    obtain ⟨waits, same⟩ := Bool.and_eq_true_iff.1 h
    rwa [← List.inj_on_of_nodup_map simple.distinct memO mem (eq_of_beq same)]
  · exact fun waits => ⟨keyword, mem, by rw [waits, Bool.true_and, beq_self_eq_true]⟩

theorem defers_reference : table.defers "$ref" = false := by
  rw [Bool.eq_false_iff]
  intro h
  obtain ⟨keyword, mem, h⟩ := List.any_eq_true.1 h
  obtain ⟨waits, same⟩ := Bool.and_eq_true_iff.1 h
  have informs := (simple.ordered keyword mem).2 (eq_of_beq same ▸ simple.reference)
  rw [informs] at waits
  cases waits

/-- The outcomes of the keywords of the table are known when the table says so. -/
theorem heeds : ∀ keyword ∈ table.ordered, keyword.Heeds table.defers := fun keyword mem =>
  Keyword.heeds_of_isSimple (simple.ordered keyword mem).1 (simple.defers_eq mem)

/-- The outcomes of settled keywords are known at once. -/
theorem heeds_settled : ∀ keyword ∈ table.settled.ordered, keyword.Heeds fun _ => false := by
  intro keyword mem
  obtain ⟨k, memK, rfl⟩ := List.mem_map.1 mem
  refine Keyword.heeds_of_isSimple ?_ k.isAsync_settled.symm
  rw [Keyword.isSimple_settled]
  exact (simple.ordered k memK).1

end IsSimple

end VocabularyTable

end JsonSchema
