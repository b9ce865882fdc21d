import JsonSchema.Proofs.Store.Bindings
import JsonSchema.Proofs.Vocabulary.Definitions

/-!
# Changes of a table

Whatever is added to a table, removed from it or refused, it lists every keyword once, its hints
have no cycle, and its order is the one that they ask for.

* `VocabularyTable.Change`, `VocabularyTable.run`: the changes of a table, one after the other.
* `VocabularyTable.IsOrdered`: the order of a table is the one it should have.
* `VocabularyTable.IsOrdered.apply`, `VocabularyTable.run_isOrdered`: a change keeps this, and so
  it holds after any changes.
* `VocabularyTable.IsOrdered.addKeyword_eq_cycle_iff`,
  `VocabularyTable.IsOrdered.addVocabulary_eq_cycle_iff`: when hints are refused.
-/

namespace JsonSchema

namespace VocabularyTable

variable {table next : VocabularyTable} {keyword : Keyword} {keywords : List Keyword}
  {vocabulary : Vocabulary}

/-! ## Changes -/

/-- Something that changes a table. -/
inductive Change where
  | addKeyword (keyword : Keyword)
  | addVocabulary (vocabulary : Vocabulary)
  | removeKeyword (name : String)
  | removeVocabulary (name : String)
  | setValueValidator (name : String) (validator : Validator)

/-- The table that a change leads to. -/
def Change.apply (table : VocabularyTable) : Change → Except SchemaError VocabularyTable
  | addKeyword keyword => table.addKeyword keyword
  | addVocabulary vocabulary => table.addVocabulary vocabulary
  | removeKeyword name => (table.removeKeyword name).map (·.2)
  | removeVocabulary name => (table.removeVocabulary name).map (·.2)
  | setValueValidator name validator => .ok (table.setValueValidator name validator)

/-- The table after a change, which stays as it was if the change is refused. -/
def after (table : VocabularyTable) (change : Change) : VocabularyTable :=
  (change.apply table).toOption.getD table

/-- The table after several changes. -/
def run (table : VocabularyTable) (changes : List Change) : VocabularyTable :=
  changes.foldl after table

/-- What a change keeps whenever it succeeds holds after any changes. -/
theorem run_induction {P : VocabularyTable → Prop}
    (step : ∀ table next change, P table → Change.apply table change = .ok next → P next)
    (start : P table) (changes : List Change) : P (table.run changes) := by
  induction changes generalizing table with
  | nil => exact start
  | cons change rest ih =>
    refine ih ?_
    rw [after]
    cases applied : change.apply table with
    | ok next => exact step table next change start applied
    | error e => exact start

/-- What a change that succeeds has done, besides finding the order anew. -/
theorem Change.apply_ok {change : Change} (h : change.apply table = .ok next) :
    next = table ∨
      (∃ name validator, next = table.setValueValidator name validator) ∨
      (∃ keyword, table.Admits keyword ∧ (table.extend [keyword] none).reorder = .ok next) ∨
      (∃ vocabulary, table.Accepts vocabulary ∧ (table.join vocabulary).reorder = .ok next) ∨
      (∃ name, table.isProtected name = false ∧ (table.without [name]).reorder = .ok next) ∨
      ∃ vocabulary, (∀ name ∈ table.members vocabulary, table.isProtected name = false) ∧
        (table.leave vocabulary).reorder = .ok next := by
  cases change with
  | addKeyword keyword =>
    rw [apply] at h
    rcases table.addKeyword_cases keyword with ⟨admits, eq⟩ | ⟨-, e, failed, -⟩
    · exact .inr (.inr (.inl ⟨keyword, admits, eq ▸ h⟩))
    · rw [failed] at h
      cases h
  | addVocabulary vocabulary =>
    rw [apply] at h
    rcases table.addVocabulary_cases vocabulary with ⟨accepts, eq⟩ | ⟨-, e, failed, -⟩
    · exact .inr (.inr (.inr (.inl ⟨vocabulary, accepts, eq ▸ h⟩)))
    · rw [failed] at h
      cases h
  | removeKeyword name =>
    rw [apply] at h
    rcases table.removeKeyword_cases name with
      ⟨-, failed⟩ | ⟨-, -, eq⟩ | ⟨free, keyword, -, eq⟩
    · rw [failed] at h
      cases h
    · rw [eq] at h
      exact .inl (Except.ok.inj h).symm
    · refine .inr (.inr (.inr (.inr (.inl ⟨name, free, ?_⟩))))
      rw [eq] at h
      cases ordered : (table.without [name]).reorder with
      | ok rest =>
        rw [ordered] at h
        exact h
      | error e =>
        rw [ordered] at h
        cases h
  | removeVocabulary name =>
    rw [apply] at h
    rcases table.removeVocabulary_cases name with
      ⟨-, eq⟩ | ⟨-, _, -, failed⟩ | ⟨-, free, eq⟩
    · rw [eq] at h
      exact .inl (Except.ok.inj h).symm
    · rw [failed] at h
      cases h
    · refine .inr (.inr (.inr (.inr (.inr ⟨name, fun member mem => ?_, ?_⟩))))
      · exact Bool.not_eq_true _ ▸ List.find?_eq_none.1 free member mem
      rw [eq] at h
      cases ordered : (table.leave name).reorder with
      | ok rest =>
        rw [ordered] at h
        exact h
      | error e =>
        rw [ordered] at h
        cases h
  | setValueValidator name validator => exact .inr (.inl ⟨name, validator, (Except.ok.inj h).symm⟩)

/-! ## Order -/

/-- No two keywords share a name, no hints have a cycle, and the order is the one that is asked
    for. -/
structure IsOrdered (table : VocabularyTable) : Prop where
  distinct : (table.keywords.map (·.name)).Nodup
  acyclic : Keyword.IsAcyclic table.keywords
  ordered : table.ordered = Keyword.arrange table.keywords.length table.keywords

theorem distinct_without (distinct : (table.keywords.map (·.name)).Nodup) (names : List String) :
    ((table.without names).keywords.map (·.name)).Nodup :=
  distinct.sublist (List.filter_sublist.map _)

theorem distinct_extend (distinct : (table.keywords.map (·.name)).Nodup)
    (own : (keywords.map (·.name)).Nodup) (owner : Option String) :
    ((table.extend keywords owner).keywords.map (·.name)).Nodup := by
  have names : (table.extend keywords owner).keywords.map (·.name) =
      (table.without (keywords.map (·.name))).keywords.map (·.name) ++ keywords.map (·.name) :=
    List.map_append
  rw [names, List.nodup_append]
  refine ⟨distinct_without distinct _, own, fun name mem name' mem' same => ?_⟩
  obtain ⟨k, memK, rfl⟩ := List.mem_map.1 mem
  have out := (List.mem_filter.1 memK).2
  rw [Bool.not_eq_true', List.contains_eq_mem, decide_eq_false_iff_not] at out
  exact out (same ▸ mem')

theorem distinct_join (distinct : (table.keywords.map (·.name)).Nodup)
    (own : (vocabulary.keywords.map (·.name)).Nodup) :
    ((table.join vocabulary).keywords.map (·.name)).Nodup :=
  distinct_extend distinct own (some vocabulary.name)

theorem distinct_leave (distinct : (table.keywords.map (·.name)).Nodup) (vocabulary : String) :
    ((table.leave vocabulary).keywords.map (·.name)).Nodup :=
  distinct_without distinct _

/-- If an order is found, it is the one that is asked for. -/
theorem isOrdered_of_reorder (distinct : (table.keywords.map (·.name)).Nodup)
    (h : table.reorder = .ok next) : next.IsOrdered := by
  have acyclic : Keyword.IsAcyclic table.keywords := by
    rw [← Keyword.cycleNames_eq_nil_iff distinct]
    by_contra cycle
    rw [reorder, Keyword.order_eq distinct, if_neg cycle] at h
    cases h
  rw [reorder_of_isAcyclic distinct acyclic] at h
  cases h
  exact ⟨distinct, acyclic, rfl⟩

/-- When cycles are reported of what is refused for another reason or leads to finding an order. -/
theorem eq_cycle_iff {may : Prop} {result : Except SchemaError VocabularyTable} {names : List String}
    (distinct : may → (table.keywords.map (·.name)).Nodup)
    (cases : may ∧ result = table.reorder ∨
      ¬ may ∧ ∃ e, result = .error e ∧ ∀ names, e ≠ .cycle names) :
    result = .error (.cycle names) ↔ may ∧ Keyword.IsCycleReport table.keywords names := by
  rcases cases with ⟨allowed, rfl⟩ | ⟨refused, e, rfl, other⟩
  · rw [reorder_eq_error_iff (distinct allowed), and_iff_right allowed]
    constructor
    · rintro ⟨_, same, report⟩
      cases same
      exact report
    · exact fun report => ⟨names, rfl, report⟩
  · exact ⟨fun h => absurd (Except.error.inj h) (other names), fun h => absurd h.1 refused⟩

namespace IsOrdered

theorem empty (overwrite : Bool) : IsOrdered { overwrite := overwrite } where
  distinct := List.nodup_nil
  acyclic _ cycle := List.not_mem_nil cycle.mem
  ordered := rfl

/-- A change that succeeds keeps the order as it should be. -/
theorem apply (table next : VocabularyTable) (change : Change) (ordered : table.IsOrdered)
    (h : change.apply table = .ok next) : next.IsOrdered := by
  rcases Change.apply_ok h with rfl | ⟨name, validator, rfl⟩ | ⟨keyword, -, h⟩ |
    ⟨vocabulary, accepts, h⟩ | ⟨name, -, h⟩ | ⟨vocabulary, -, h⟩
  · exact ordered
  · exact ⟨ordered.distinct, ordered.acyclic, ordered.ordered⟩
  · exact isOrdered_of_reorder (distinct_extend ordered.distinct (by simp) none) h
  · exact isOrdered_of_reorder (distinct_join ordered.distinct accepts.distinct) h
  · exact isOrdered_of_reorder (distinct_without ordered.distinct _) h
  · exact isOrdered_of_reorder (distinct_leave ordered.distinct vocabulary) h

theorem isLeastOrder (ordered : table.IsOrdered) :
    Keyword.IsLeastOrder table.keywords table.ordered :=
  ordered.ordered ▸ ordered.acyclic.arrange_isLeastOrder ordered.distinct

/-- A keyword is listed once if it is defined, and else not at all. -/
theorem count_eq (ordered : table.IsOrdered) (name : String) :
    (table.keywords.map (·.name)).count name = if table.contains name then 1 else 0 := by
  have defined : table.contains name = true ↔ name ∈ table.keywords.map (·.name) := by
    rw [contains, get?, List.find?_isSome, List.mem_map]
    simp only [beq_iff_eq]
  split
  · next there => exact List.count_eq_one_of_mem ordered.distinct (defined.1 there)
  · next missing => exact List.count_eq_zero.2 (mt defined.2 missing)

/-- Taking keywords out of a table always leaves an order. -/
theorem reorder_without (ordered : table.IsOrdered) (names : List String) :
    (table.without names).reorder = .ok { table.without names with
      ordered := Keyword.arrange (table.without names).keywords.length
        (table.without names).keywords } :=
  reorder_of_isAcyclic (distinct_without ordered.distinct names)
    (ordered.acyclic.of_subset List.filter_sublist.subset)

theorem reorder_leave (ordered : table.IsOrdered) (vocabulary : String) :
    (table.leave vocabulary).reorder = .ok { table.leave vocabulary with
      ordered := Keyword.arrange (table.leave vocabulary).keywords.length
        (table.leave vocabulary).keywords } :=
  reorder_of_isAcyclic (distinct_leave ordered.distinct vocabulary)
    (ordered.acyclic.of_subset List.filter_sublist.subset)

/-- Cycles are reported of a keyword exactly if it may be defined and there are some. -/
theorem addKeyword_eq_cycle_iff (ordered : table.IsOrdered) {names : List String} :
    table.addKeyword keyword = .error (.cycle names) ↔ table.Admits keyword ∧
      Keyword.IsCycleReport (table.extend [keyword] none).keywords names :=
  eq_cycle_iff (fun _ => distinct_extend ordered.distinct (by simp) none)
    (table.addKeyword_cases keyword)

/-- Cycles are reported of a vocabulary exactly if all of it may be defined and there are some. -/
theorem addVocabulary_eq_cycle_iff (ordered : table.IsOrdered) {names : List String} :
    table.addVocabulary vocabulary = .error (.cycle names) ↔ table.Accepts vocabulary ∧
      Keyword.IsCycleReport (table.join vocabulary).keywords names :=
  eq_cycle_iff (fun accepts => distinct_join ordered.distinct accepts.distinct)
    (table.addVocabulary_cases vocabulary)

end IsOrdered

/-- After any changes the order is as it should be. -/
theorem run_isOrdered (ordered : table.IsOrdered) (changes : List Change) :
    (table.run changes).IsOrdered :=
  run_induction IsOrdered.apply ordered changes

end VocabularyTable

end JsonSchema
