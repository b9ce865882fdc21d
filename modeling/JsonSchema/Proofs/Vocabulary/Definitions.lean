import JsonSchema.Proofs.Vocabulary.Arrangement
import Mathlib.Data.List.Find

/-!
# Definitions of keywords

What defining keywords does to a table, and when it is refused.

* `VocabularyTable.stage_ok`, `VocabularyTable.reorder_ok`: the steps of a definition.
* `VocabularyTable.Admits`, `VocabularyTable.Accepts`: nothing but a cycle of hints stands against
  defining a keyword, or the keywords of a vocabulary.
* `VocabularyTable.extend`, `VocabularyTable.join`, `VocabularyTable.leave`: a table with keywords at
  the end, in place of those of their names, and with and without a vocabulary.
* `VocabularyTable.addKeyword_cases`, `VocabularyTable.addVocabulary_cases`,
  `VocabularyTable.removeKeyword_cases`, `VocabularyTable.removeVocabulary_cases`: what a change gives.
-/

namespace JsonSchema

namespace VocabularyTable

variable {table next : VocabularyTable} {keyword : Keyword} {keywords : List Keyword}
  {owner : Option String} {vocabulary : Vocabulary}

/-! ## Steps -/

theorem stage_ok (h : table.stage keyword owner = .ok next) :
    table.isProtected keyword.name = false ∧
      next = { table.without [keyword.name] with
        keywords := (table.without [keyword.name]).keywords ++ [keyword]
        owners := (table.without [keyword.name]).owners ++ (owner.map (keyword.name, ·)).toList } := by
  rw [stage] at h
  split at h
  · cases h
  · split at h
    · cases h
    · next free =>
      split at h
      · cases h
      · exact ⟨Bool.not_eq_true _ ▸ free, (Except.ok.inj h).symm⟩

/-- After a keyword was staged there are that keyword, and those of other names. -/
theorem mem_keywords_of_stage (h : table.stage keyword owner = .ok next) {k : Keyword} :
    k ∈ next.keywords ↔ k ∈ table.keywords ∧ k.name ≠ keyword.name ∨ k = keyword := by
  obtain ⟨-, rfl⟩ := stage_ok h
  simp [without]

theorem reorder_ok (h : table.reorder = .ok next) :
    next = { table with ordered := Keyword.arrange table.keywords.length table.keywords } := by
  rw [reorder, Keyword.order] at h
  by_cases whole : (Keyword.arrange table.keywords.length table.keywords).length =
      table.keywords.length
  · rw [if_pos whole] at h
    exact (Except.ok.inj h).symm
  · rw [if_neg whole] at h
    cases h

/-- The order is found anew if no hints have a cycle. -/
theorem reorder_of_isAcyclic (distinct : (table.keywords.map (·.name)).Nodup)
    (acyclic : Keyword.IsAcyclic table.keywords) :
    table.reorder =
      .ok { table with ordered := Keyword.arrange table.keywords.length table.keywords } := by
  rw [reorder, acyclic.order_eq distinct]

/-- Finding the order anew fails only with the names that are on cycles. -/
theorem reorder_eq_error_iff (distinct : (table.keywords.map (·.name)).Nodup) {e : SchemaError} :
    table.reorder = .error e ↔ ∃ names, e = .cycle names ∧ Keyword.IsCycleReport table.keywords names := by
  rw [reorder]
  simp only [← Keyword.order_eq_error_iff distinct]
  cases Keyword.order table.keywords with
  | ok ordered => simp
  | error names => simp [eq_comm]

/-! ## Staging -/

/-- Nothing but a cycle of hints stands against defining a keyword. -/
structure Admits (table : VocabularyTable) (keyword : Keyword) : Prop where
  isName : Keyword.isName keyword.name = true
  unprotected : table.isProtected keyword.name = false
  free : table.contains keyword.name = true → table.overwrite = true

/-- The table with some keywords at the end, in place of those of the same names, its order not yet
    computed. -/
def extend (table : VocabularyTable) (keywords : List Keyword) (owner : Option String) :
    VocabularyTable :=
  let rest := table.without (keywords.map (·.name))
  { rest with
    keywords := rest.keywords ++ keywords
    owners := rest.owners ++ keywords.flatMap fun k => (owner.map (k.name, ·)).toList }

/-- A keyword is staged if and only if it may be defined. -/
theorem stage_cases (table : VocabularyTable) (keyword : Keyword) (owner : Option String) :
    table.Admits keyword ∧ table.stage keyword owner = .ok (table.extend [keyword] owner) ∨
      ¬ table.Admits keyword ∧ ∃ e, table.stage keyword owner = .error e ∧ ∀ names, e ≠ .cycle names := by
  rw [stage]
  split
  · next bad =>
    refine .inr ⟨fun admits => ?_, _, rfl, fun _ => SchemaError.noConfusion⟩
    rw [admits.isName] at bad
    cases bad
  next named =>
  split
  · next guarded =>
    refine .inr ⟨fun admits => ?_, _, rfl, fun _ => SchemaError.noConfusion⟩
    rw [admits.unprotected] at guarded
    cases guarded
  next unprotected =>
  split
  · next taken =>
    refine .inr ⟨fun admits => ?_, _, rfl, fun _ => SchemaError.noConfusion⟩
    rw [Bool.and_eq_true, Bool.not_eq_true'] at taken
    rw [admits.free taken.1] at taken
    cases taken.2
  next free =>
  refine .inl ⟨⟨by simpa using named, Bool.not_eq_true _ ▸ unprotected, fun there => ?_⟩, ?_⟩
  · simpa [there] using free
  · simp [extend]

theorem get?_without (table : VocabularyTable) (names : List String) (name : String) :
    (table.without names).get? name = if name ∈ names then none else table.get? name := by
  rw [get?, get?, without, List.find?_filter]
  split
  · next mem =>
    refine List.find?_eq_none.2 fun k _ found => ?_
    rw [decide_eq_true_iff, Bool.not_eq_true', beq_iff_eq] at found
    rw [found.2, List.contains_eq_mem, decide_eq_false_iff_not] at found
    exact found.1 mem
  · next out =>
    refine List.find?_congr fun k _ => ?_
    rw [Bool.eq_iff_iff, decide_eq_true_iff, beq_iff_eq, and_iff_right_iff_imp]
    rintro rfl
    simpa using out

theorem get?_extend (table : VocabularyTable) (keywords : List Keyword) (owner : Option String)
    (name : String) :
    (table.extend keywords owner).get? name = if name ∈ keywords.map (·.name)
      then keywords.find? (·.name == name) else table.get? name := by
  have split : (table.extend keywords owner).get? name =
      ((table.without (keywords.map (·.name))).get? name).or (keywords.find? (·.name == name)) :=
    List.find?_append
  rw [split, get?_without]
  by_cases mem : name ∈ keywords.map (·.name)
  · rw [if_pos mem, if_pos mem, Option.none_or]
  · have none : keywords.find? (·.name == name) = none := List.find?_eq_none.2 fun k memK same =>
      mem (List.mem_map.2 ⟨k, memK, beq_iff_eq.1 same⟩)
    rw [if_neg mem, if_neg mem, none, Option.or_none]

theorem admits_extend_iff {k : Keyword} (other : k.name ≠ keyword.name) :
    (table.extend [keyword] owner).Admits k ↔ table.Admits k := by
  have there : (table.extend [keyword] owner).contains k.name = table.contains k.name := by
    rw [contains, contains, get?_extend, if_neg (by simpa using other)]
  constructor
  · exact fun h => ⟨h.isName, h.unprotected, there ▸ h.free⟩
  · exact fun h => ⟨h.isName, h.unprotected, there.symm ▸ h.free⟩

/-- Keywords may be put at the end one after the other, or all at once. -/
theorem extend_extend (fresh : keyword.name ∉ keywords.map (·.name)) :
    (table.extend [keyword] owner).extend keywords owner = table.extend (keyword :: keywords) owner := by
  have twice : ∀ {α : Type} (name : α → String) (list : List α),
      (list.filter fun a => !List.contains [keyword.name] (name a)).filter
          (fun a => !(keywords.map (·.name)).contains (name a)) =
        list.filter fun a => !((keyword :: keywords).map (·.name)).contains (name a) := by
    intro α name list
    rw [List.filter_filter]
    refine List.filter_congr fun a _ => ?_
    simp [Bool.and_comm]
  have stays : (keywords.map (·.name)).contains keyword.name = false := by simpa using fresh
  have keyword' : [keyword].filter (!(keywords.map (·.name)).contains ·.name) = [keyword] := by
    rw [List.filter_singleton, stays]
    rfl
  have owner' : (owner.map (keyword.name, ·)).toList.filter (!(keywords.map (·.name)).contains ·.1) =
      (owner.map (keyword.name, ·)).toList := by
    cases owner with
    | none => rfl
    | some owner =>
      show [(keyword.name, owner)].filter _ = [(keyword.name, owner)]
      rw [List.filter_singleton, stays]
      rfl
  unfold extend without
  simp only [List.flatMap_cons, List.flatMap_nil, List.map_cons, List.map_nil, List.append_nil,
    List.filter_append, keyword', owner', twice, List.append_assoc, List.singleton_append]

/-- Several keywords of different names are staged if and only if each of them may be defined. -/
theorem stageAll_cases (table : VocabularyTable) (distinct : (keywords.map (·.name)).Nodup)
    (owner : Option String) :
    (∀ k ∈ keywords, table.Admits k) ∧
        keywords.foldlM (fun t k => t.stage k owner) table = .ok (table.extend keywords owner) ∨
      ¬ (∀ k ∈ keywords, table.Admits k) ∧
        ∃ e, keywords.foldlM (fun t k => t.stage k owner) table = .error e ∧
          ∀ names, e ≠ .cycle names := by
  induction keywords generalizing table with
  | nil =>
    refine .inl ⟨fun _ mem => (List.not_mem_nil mem).elim, ?_⟩
    simp [extend, without]
    rfl
  | cons first rest ih =>
    obtain ⟨fresh, distinct⟩ := List.nodup_cons.1 distinct
    rw [List.foldlM_cons]
    rcases table.stage_cases first owner with ⟨admits, staged⟩ | ⟨refused, e, failed, other⟩
    · have same : (∀ k ∈ rest, (table.extend [first] owner).Admits k) ↔
          ∀ k ∈ first :: rest, table.Admits k := by
        rw [List.forall_mem_cons, and_iff_right admits]
        refine forall₂_congr fun k mem => admits_extend_iff fun same => fresh ?_
        exact List.mem_map.2 ⟨k, mem, same⟩
      rw [staged, ← same, ← extend_extend fresh]
      exact ih (table.extend [first] owner) distinct
    · rw [failed]
      exact .inr ⟨fun all => refused (all first List.mem_cons_self), e, rfl, other⟩

/-! ## Vocabularies -/

/-- Definitions are refused if a name repeats. -/
theorem nodup_of_repeated? {seen names : List String} (h : repeated? seen names = none) :
    names.Nodup ∧ ∀ name ∈ names, name ∉ seen := by
  induction names generalizing seen with
  | nil => exact ⟨List.nodup_nil, fun _ mem => (by cases mem)⟩
  | cons first rest ih =>
    rw [repeated?] at h
    split at h
    · cases h
    · next fresh =>
      obtain ⟨distinct, apart⟩ := ih h
      refine ⟨List.nodup_cons.2 ⟨fun mem => apart first mem List.mem_cons_self, distinct⟩, ?_⟩
      intro name mem
      rcases List.mem_cons.1 mem with rfl | mem
      · simpa using fresh
      · exact fun seen => apart name mem (List.mem_cons_of_mem _ seen)

/-- Distinct names do not repeat. -/
theorem repeated?_of_nodup {seen names : List String} (distinct : names.Nodup)
    (apart : ∀ name ∈ names, name ∉ seen) : repeated? seen names = none := by
  induction names generalizing seen with
  | nil => rfl
  | cons first rest ih =>
    obtain ⟨fresh, distinct⟩ := List.nodup_cons.1 distinct
    rw [repeated?, if_neg (by simpa using apart first List.mem_cons_self)]
    refine ih distinct fun name mem => ?_
    rw [List.mem_cons, not_or]
    exact ⟨ne_of_mem_of_not_mem mem fresh, apart name (List.mem_cons_of_mem _ mem)⟩

/-- Nothing but a cycle of hints stands against adding a vocabulary. -/
structure Accepts (table : VocabularyTable) (vocabulary : Vocabulary) : Prop where
  fresh : vocabulary.name ∉ table.vocabularies
  distinct : (vocabulary.keywords.map (·.name)).Nodup
  admits : ∀ k ∈ vocabulary.keywords, table.Admits k

/-- The table once the keywords of a vocabulary were staged, its order not yet computed. -/
def enroll (staged : VocabularyTable) (vocabulary : Vocabulary) : VocabularyTable :=
  { staged with
    vocabularies := staged.vocabularies ++ [vocabulary.name]
    protectedNames := staged.protectedNames ++
      if vocabulary.isProtected then vocabulary.keywords.map (·.name) else [] }

/-- The table with a vocabulary, its order not yet computed. -/
def join (table : VocabularyTable) (vocabulary : Vocabulary) : VocabularyTable :=
  (table.extend vocabulary.keywords (some vocabulary.name)).enroll vocabulary

/-! ## Changes -/

/-- A keyword is added, as far as the order allows, if and only if it may be defined. -/
theorem addKeyword_cases (table : VocabularyTable) (keyword : Keyword) :
    table.Admits keyword ∧ table.addKeyword keyword = (table.extend [keyword] none).reorder ∨
      ¬ table.Admits keyword ∧
        ∃ e, table.addKeyword keyword = .error e ∧ ∀ names, e ≠ .cycle names := by
  rw [addKeyword]
  rcases table.stage_cases keyword none with ⟨admits, staged⟩ | ⟨refused, e, failed, other⟩
  · rw [staged]
    exact .inl ⟨admits, rfl⟩
  · rw [failed]
    exact .inr ⟨refused, e, rfl, other⟩

theorem addVocabulary_eq (table : VocabularyTable) (vocabulary : Vocabulary) :
    table.addVocabulary vocabulary =
      if table.vocabularies.contains vocabulary.name then
        .error (.conflict (.vocabulary vocabulary.name))
      else match repeated? [] (vocabulary.keywords.map (·.name)) with
        | some name => .error (.definition (.twice name vocabulary.name))
        | none =>
          vocabulary.keywords.foldlM (fun t k => stage t k (some vocabulary.name)) table >>=
            fun staged => (staged.enroll vocabulary).reorder := by
  rw [addVocabulary]
  split
  · rfl
  · cases twice : repeated? [] (vocabulary.keywords.map (·.name)) <;> simp only [twice] <;> rfl

/-- A vocabulary is added, as far as the order allows, if and only if all of it may be defined. -/
theorem addVocabulary_cases (table : VocabularyTable) (vocabulary : Vocabulary) :
    table.Accepts vocabulary ∧ table.addVocabulary vocabulary = (table.join vocabulary).reorder ∨
      ¬ table.Accepts vocabulary ∧
        ∃ e, table.addVocabulary vocabulary = .error e ∧ ∀ names, e ≠ .cycle names := by
  rw [addVocabulary_eq]
  split
  · next known =>
    exact .inr ⟨fun accepts => accepts.fresh (List.contains_iff_mem.1 known), _, rfl,
      fun _ => SchemaError.noConfusion⟩
  next fresh =>
  rw [List.contains_iff_mem] at fresh
  split
  · next name twice =>
    refine .inr ⟨fun accepts => ?_, _, rfl, fun _ => SchemaError.noConfusion⟩
    rw [repeated?_of_nodup accepts.distinct fun _ _ => List.not_mem_nil] at twice
    cases twice
  · next once =>
    have distinct := (nodup_of_repeated? once).1
    rcases table.stageAll_cases distinct (some vocabulary.name) with
      ⟨admits, staged⟩ | ⟨refused, e, failed, other⟩
    · rw [staged]
      exact .inl ⟨⟨fresh, distinct, admits⟩, rfl⟩
    · rw [failed]
      exact .inr ⟨fun accepts => refused accepts.admits, e, rfl, other⟩

/-- A keyword is removed, as far as the order allows, if it is defined and not protected. -/
theorem removeKeyword_cases (table : VocabularyTable) (name : String) :
    table.isProtected name = true ∧ table.removeKeyword name = .error (.conflict (.removal name)) ∨
      table.isProtected name = false ∧ table.get? name = none ∧
        table.removeKeyword name = .ok (none, table) ∨
      table.isProtected name = false ∧ ∃ keyword, table.get? name = some keyword ∧
        table.removeKeyword name = (table.without [name]).reorder.map (some keyword, ·) := by
  rw [removeKeyword]
  cases guarded : table.isProtected name with
  | true => exact .inl ⟨rfl, rfl⟩
  | false =>
    cases found : table.get? name with
    | none => exact .inr (.inl ⟨rfl, rfl, rfl⟩)
    | some keyword =>
      refine .inr (.inr ⟨rfl, keyword, rfl, ?_⟩)
      cases (table.without [name]).reorder <;> rfl

/-- The table without the keywords of a vocabulary, its order not yet computed. -/
def leave (table : VocabularyTable) (vocabulary : String) : VocabularyTable :=
  let rest := table.without (table.members vocabulary)
  { rest with vocabularies := rest.vocabularies.filter (· ≠ vocabulary) }

/-- A vocabulary is removed, as far as the order allows, if it is known and none of its keywords is
    protected. -/
theorem removeVocabulary_cases (table : VocabularyTable) (vocabulary : String) :
    table.vocabularies.contains vocabulary = false ∧
        table.removeVocabulary vocabulary = .ok (false, table) ∨
      table.vocabularies.contains vocabulary = true ∧
        (∃ name, (table.members vocabulary).find? table.isProtected = some name ∧
          table.removeVocabulary vocabulary = .error (.conflict (.removal name))) ∨
      table.vocabularies.contains vocabulary = true ∧
        (table.members vocabulary).find? table.isProtected = none ∧
        table.removeVocabulary vocabulary = (table.leave vocabulary).reorder.map (true, ·) := by
  rw [removeVocabulary]
  cases known : table.vocabularies.contains vocabulary with
  | false => exact .inl ⟨rfl, rfl⟩
  | true =>
    cases guarded : (table.members vocabulary).find? table.isProtected with
    | some name =>
      simp only [guarded]
      exact .inr (.inl ⟨trivial, name, rfl, rfl⟩)
    | none =>
      simp only [guarded]
      refine .inr (.inr ⟨trivial, trivial, ?_⟩)
      show (do return (true, ← (table.leave vocabulary).reorder)) = _
      cases (table.leave vocabulary).reorder <;> rfl

end VocabularyTable

end JsonSchema
