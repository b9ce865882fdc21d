import JsonSchema.Proofs.Meaning.Draft07
import JsonSchema.Proofs.Registry.Insertions
import JsonSchema.Proofs.Vocabulary.Definitions

/-!
# Tables of keywords

How definitions change a table of keywords. The values of a keyword are checked only if the keyword
has a schema for them.

* `VocabularyTable.Checks`: what holds of the keywords of a table and of the checks of their values.
* `Registry.run_checks`: this holds after any operations.
-/

namespace JsonSchema

namespace VocabularyTable

variable {table next : VocabularyTable} {keyword : Keyword} {owner : Option String}

/-! ## Checks of values -/

/-- No two keywords share a name, and the values of a keyword are checked only if it has a schema
    for them. -/
structure Checks (table : VocabularyTable) : Prop where
  distinct : (table.keywords.map (·.name)).Nodup
  schemas : ∀ check ∈ table.valueValidators, ∃ keyword ∈ table.keywords,
    keyword.name = check.1 ∧ keyword.valueSchema ≠ none

/-- Besides, only defined keywords are applied, and none of them twice. -/
structure IsTidy (table : VocabularyTable) : Prop extends Checks table where
  ordered : ∀ keyword ∈ table.ordered, keyword ∈ table.keywords
  once : (table.ordered.map (·.name)).Nodup

/-- The values of a keyword without a schema for them are not checked. -/
theorem IsTidy.find?_valueValidators (tidy : table.IsTidy) (mem : keyword ∈ table.ordered)
    (plain : keyword.valueSchema = none) : table.valueValidators.find? keyword.name = none := by
  refine Option.eq_none_iff_forall_ne_some.2 fun validator found => ?_
  obtain ⟨k, memK, name, some_⟩ := tidy.schemas _ (Bindings.mem_of_find? found)
  cases List.inj_on_of_nodup_map tidy.distinct memK (tidy.ordered keyword mem) name
  exact some_ plain

namespace Checks

theorem without (checks : table.Checks) (names : List String) : (table.without names).Checks where
  distinct := checks.distinct.sublist (List.filter_sublist.map _)
  schemas check mem := by
    obtain ⟨mem, kept⟩ := List.mem_filter.1 mem
    obtain ⟨keyword, memK, name, some_⟩ := checks.schemas check mem
    exact ⟨keyword, List.mem_filter.2 ⟨memK, name ▸ kept⟩, name, some_⟩

theorem stage (checks : table.Checks) (h : table.stage keyword owner = .ok next) : next.Checks := by
  have rest := checks.without [keyword.name]
  obtain ⟨-, rfl⟩ := stage_ok h
  refine ⟨?_, fun check mem => ?_⟩
  · rw [List.map_append, List.nodup_append]
    refine ⟨rest.distinct, List.nodup_singleton _, fun name mem name' mem' => ?_⟩
    obtain ⟨k, memK, rfl⟩ := List.mem_map.1 mem
    have other := (List.mem_filter.1 memK).2
    rw [List.mem_singleton.1 mem']
    simpa using other
  · obtain ⟨k, memK, same⟩ := rest.schemas check mem
    exact ⟨k, List.mem_append_left _ memK, same⟩

/-- Several keywords of different names are there after they were staged. -/
theorem stageAll {keywords : List Keyword} (checks : table.Checks)
    (distinct : (keywords.map (·.name)).Nodup)
    (h : keywords.foldlM (fun table keyword => table.stage keyword owner) table = .ok next) :
    next.Checks ∧ (∀ keyword ∈ keywords, keyword ∈ next.keywords) ∧
      ∀ keyword ∈ table.keywords, keyword.name ∉ keywords.map (·.name) → keyword ∈ next.keywords := by
  induction keywords generalizing table with
  | nil =>
    cases h
    exact ⟨checks, fun _ mem => (by cases mem), fun _ mem _ => mem⟩
  | cons first rest ih =>
    rw [List.foldlM_cons] at h
    cases staged : table.stage first owner with
    | error e =>
      rw [staged] at h
      cases h
    | ok middle =>
      rw [staged] at h
      obtain ⟨fresh, distinct⟩ := List.nodup_cons.1 distinct
      obtain ⟨checks', added, kept⟩ := ih (checks.stage staged) distinct h
      have member := @mem_keywords_of_stage _ _ _ _ staged
      refine ⟨checks', fun keyword mem => ?_, fun keyword mem out => ?_⟩
      · rcases List.mem_cons.1 mem with rfl | mem
        · exact kept keyword (member.2 (.inr rfl)) fresh
        · exact added keyword mem
      · rw [List.map_cons, List.mem_cons, not_or] at out
        exact kept keyword (member.2 (.inl ⟨mem, out.1⟩)) out.2

theorem reorder (checks : table.Checks) (h : table.reorder = .ok next) : next.IsTidy := by
  obtain rfl := reorder_ok h
  refine ⟨⟨checks.distinct, checks.schemas⟩, fun _ => Keyword.mem_of_mem_arrange, ?_⟩
  exact Keyword.nodup_arrange _ _

end Checks

namespace IsTidy

theorem addKeyword (tidy : table.IsTidy) (h : table.addKeyword keyword = .ok next) :
    next.IsTidy ∧ keyword ∈ next.keywords := by
  rw [VocabularyTable.addKeyword] at h
  cases staged : table.stage keyword none with
  | error e =>
    rw [staged] at h
    cases h
  | ok middle =>
    rw [staged] at h
    refine ⟨(tidy.toChecks.stage staged).reorder h, ?_⟩
    obtain rfl := reorder_ok h
    exact (mem_keywords_of_stage staged).2 (.inr rfl)

theorem addVocabulary (tidy : table.IsTidy) {vocabulary : Vocabulary}
    (h : table.addVocabulary vocabulary = .ok next) :
    next.IsTidy ∧ ∀ keyword ∈ vocabulary.keywords, keyword ∈ next.keywords := by
  rw [VocabularyTable.addVocabulary] at h
  split at h
  · cases h
  · cases twice : repeated? [] (vocabulary.keywords.map (·.name)) with
    | some name =>
      simp only [twice] at h
      cases h
    | none =>
      simp only [twice] at h
      cases staged : vocabulary.keywords.foldlM
          (fun table keyword => table.stage keyword (some vocabulary.name)) table with
      | error e =>
        rw [staged] at h
        cases h
      | ok middle =>
        rw [staged] at h
        obtain ⟨checks, added, -⟩ := tidy.toChecks.stageAll (nodup_of_repeated? twice).1 staged
        have tidy' : next.IsTidy := by
          refine Checks.reorder ?_ h
          exact ⟨checks.distinct, checks.schemas⟩
        change reorder { middle with vocabularies := _, protectedNames := _ } = .ok next at h
        obtain rfl := reorder_ok h
        exact ⟨tidy', added⟩

theorem removeKeyword (tidy : table.IsTidy) {name : String} {removed : Option Keyword}
    (h : table.removeKeyword name = .ok (removed, next)) : next.IsTidy := by
  rw [VocabularyTable.removeKeyword] at h
  split at h
  · cases h
  · cases found : table.get? name with
    | none =>
      rw [found] at h
      cases h
      exact tidy
    | some keyword =>
      rw [found] at h
      cases ordered : (table.without [name]).reorder with
      | error e =>
        simp only [ordered] at h
        cases h
      | ok table' =>
        simp only [ordered] at h
        cases h
        exact (tidy.toChecks.without [name]).reorder ordered

theorem removeVocabulary (tidy : table.IsTidy) {name : String} {known : Bool}
    (h : table.removeVocabulary name = .ok (known, next)) : next.IsTidy := by
  rw [VocabularyTable.removeVocabulary] at h
  split at h
  · cases h
    exact tidy
  · cases guarded : (table.members name).find? table.isProtected with
    | some member =>
      simp only [guarded] at h
      cases h
    | none =>
      simp only [guarded] at h
      cases ordered : reorder { table.without (table.members name) with
          vocabularies := (table.without (table.members name)).vocabularies.filter (· ≠ name) } with
      | error e =>
        rw [ordered] at h
        cases h
      | ok table' =>
        rw [ordered] at h
        cases h
        have rest := tidy.toChecks.without (table.members name)
        refine Checks.reorder ?_ ordered
        exact ⟨rest.distinct, rest.schemas⟩

theorem setValueValidators (tidy : table.IsTidy) {validators : List (String × Validator)}
    (schemas : ∀ v ∈ validators, ∃ keyword ∈ table.keywords,
      keyword.name = v.1 ∧ keyword.valueSchema ≠ none) :
    (validators.foldl (fun t v => t.setValueValidator v.1 v.2) table).IsTidy := by
  induction validators generalizing table with
  | nil => exact tidy
  | cons v rest ih =>
    refine ih ⟨⟨tidy.distinct, fun check mem => ?_⟩, tidy.ordered, tidy.once⟩ fun v mem =>
      schemas v (List.mem_cons_of_mem _ mem)
    rcases Bindings.mem_bind mem with rfl | old
    · exact schemas v List.mem_cons_self
    · exact tidy.schemas check old

theorem draft07 (overwrite : Bool) : (VocabularyTable.draft07 overwrite).IsTidy := by
  have unchecked : (VocabularyTable.draft07 overwrite).valueValidators = [] := by
    cases overwrite <;> rfl
  refine ⟨⟨?_, fun check mem => ?_⟩, fun keyword mem => ?_, ?_⟩
  · rw [keywords_draft07]
    decide
  · rw [unchecked] at mem
    cases mem
  · rw [keywords_draft07, ← ordered_draft07]
    exact mem
  · rw [ordered_draft07]
    decide

end IsTidy

end VocabularyTable

/-! ## Registries -/

namespace RegistryM

variable {α β : Type} {K : EntryId → Compiler → Prop} {r : Registry}

/-- What is returned for the members of a list. -/
theorem Returns.mapM {f : α → RegistryM β} {list : List α} (post : α → β → Prop)
    (step : ∀ a ∈ list, ∀ r, (f a).Returns r fun b _ => post a b) :
    (list.mapM f).Returns r fun bs _ => ∀ b ∈ bs, ∃ a ∈ list, post a b := by
  induction list generalizing r with
  | nil =>
    rw [List.mapM_nil]
    exact fun _ mem => (by cases mem)
  | cons a rest ih =>
    rw [List.mapM_cons]
    refine .bind fun b r' first => .bind fun bs r'' others => ?_
    have own := (step a List.mem_cons_self r).of_ok first
    have rest := (ih fun a mem => step a (List.mem_cons_of_mem _ mem)).of_ok others
    intro b' mem
    rcases List.mem_cons.1 mem with rfl | mem
    · exact ⟨a, List.mem_cons_self, own⟩
    · exact (rest b' mem).imp fun a h => ⟨List.mem_cons_of_mem _ h.1, h.2⟩

end RegistryM

namespace Registry

open RegistryM (Ensures Returns)

variable {r : Registry}

/-- A compiler with a table as it should be. -/
abbrev HasTidyTable (_ : EntryId) (compiler : Compiler) : Prop := compiler.vocabulary.IsTidy

/-- Validators are made for the values of those keywords that have a schema for them. -/
theorem valueValidators_returns (keywords : List Keyword) (r : Registry) :
    (valueValidators keywords).Returns r fun validators _ => ∀ v ∈ validators,
      ∃ keyword ∈ keywords, keyword.name = v.1 ∧ keyword.valueSchema ≠ none := by
  unfold valueValidators
  refine .bind fun made r' ok v mem => ?_
  obtain ⟨v?, memV, rfl⟩ := List.mem_filterMap.1 mem
  have each : ∀ v? ∈ made, ∃ keyword ∈ keywords,
      ∀ v ∈ v?, keyword.name = v.1 ∧ keyword.valueSchema ≠ none := by
    refine RegistryM.Returns.of_ok (.mapM _ fun keyword _ r => ?_) ok
    cases keyword.valueSchema with
    | none => exact fun _ mem => (by cases mem)
    | some schema => exact .bind fun validator r' _ v mem => (by cases mem; exact ⟨rfl, Option.some_ne_none _⟩)
  obtain ⟨keyword, memK, own⟩ := each _ memV
  exact ⟨keyword, memK, own v rfl⟩

theorem defineWith_tidy (good : r.Good HasTidyTable) (validators : List (String × Validator))
    (define : VocabularyTable → Except SchemaError VocabularyTable)
    (tidy : ∀ table next, table.IsTidy → define table = .ok next → next.IsTidy ∧
      ∀ v ∈ validators, ∃ keyword ∈ next.keywords, keyword.name = v.1 ∧ keyword.valueSchema ≠ none) :
    Ensures HasTidyTable r (defineWith validators define) fun _ _ => True := by
  refine .get_bind ((Ensures.lift good _).bind fun table r₁ good₁ _ ⟨ok, same⟩ => ?_)
  obtain ⟨next, schemas⟩ := tidy _ _ (good.current ⟨0⟩) ok
  exact redefine_ensures good₁ rfl fun _ => next.setValueValidators schemas

theorem addKeyword_tidy (good : r.Good HasTidyTable) (keyword : Keyword) :
    Ensures HasTidyTable r (addKeyword keyword) fun _ _ => True := by
  have made := (valueValidators_ensures good [keyword]).both (valueValidators_returns [keyword] r)
  refine made.bind fun validators r₁ good₁ _ ⟨_, schemas⟩ =>
    defineWith_tidy good₁ validators _ fun table next tidy ok => ?_
  obtain ⟨tidy, added⟩ := tidy.addKeyword ok
  refine ⟨tidy, fun v mem => ?_⟩
  obtain ⟨k, memK, own⟩ := schemas v mem
  exact ⟨k, List.mem_singleton.1 memK ▸ added, own⟩

theorem addVocabulary_tidy (good : r.Good HasTidyTable) (vocabulary : Vocabulary) :
    Ensures HasTidyTable r (addVocabulary vocabulary) fun _ _ => True := by
  have made := (valueValidators_ensures good vocabulary.keywords).both
    (valueValidators_returns vocabulary.keywords r)
  refine made.bind fun validators r₁ good₁ _ ⟨_, schemas⟩ =>
    defineWith_tidy good₁ validators _ fun table next tidy ok => ?_
  obtain ⟨tidy, added⟩ := tidy.addVocabulary ok
  refine ⟨tidy, fun v mem => ?_⟩
  obtain ⟨k, memK, own⟩ := schemas v mem
  exact ⟨k, added k memK, own⟩

theorem removeKeyword_tidy (good : r.Good HasTidyTable) (name : String) :
    Ensures HasTidyTable r (removeKeyword name) fun _ _ => True := by
  refine .get_bind ((Ensures.lift good _).bind fun removed r₁ good₁ _ ⟨ok, _⟩ => ?_)
  obtain ⟨keyword, table⟩ := removed
  have tidy : table.IsTidy := (good.current ⟨0⟩).removeKeyword ok
  refine (redefine_ensures good₁ rfl ?_).bind fun _ r₂ good₂ _ _ => .pure good₂ trivial
  exact fun _ => tidy

theorem removeVocabulary_tidy (good : r.Good HasTidyTable) (name : String) :
    Ensures HasTidyTable r (removeVocabulary name) fun _ _ => True := by
  refine .get_bind ((Ensures.lift good _).bind fun removed r₁ good₁ _ ⟨ok, _⟩ => ?_)
  obtain ⟨known, table⟩ := removed
  have tidy : table.IsTidy := (good.current ⟨0⟩).removeVocabulary ok
  refine (redefine_ensures good₁ rfl ?_).bind fun _ r₂ good₂ _ _ => .pure good₂ trivial
  exact fun _ => tidy

/-- Any operation leaves a table as it should be. -/
theorem after_tidy (good : r.Good HasTidyTable) (operation : Operation) :
    (operation.after r).Good HasTidyTable := by
  cases operation with
  | addKeyword keyword => exact (addKeyword_tidy good keyword).after.1
  | addVocabulary vocabulary => exact (addVocabulary_tidy good vocabulary).after.1
  | removeKeyword name => exact (removeKeyword_tidy good name).after.1
  | removeVocabulary name => exact (removeVocabulary_tidy good name).after.1
  | addFormat name format =>
    refine ((Operation.addFormat name format).after_good good fun compiler leaves _ => ?_).1
    rw [show compiler = _ from leaves]
    exact good.current ⟨0⟩
  | _ => exact (Operation.after_good good _ fun compiler leaves => (by cases leaves)).1

theorem Good.run_tidy (good : r.Good HasTidyTable) (operations : List Operation) :
    (r.run operations).Good HasTidyTable := by
  induction operations generalizing r with
  | nil => exact good
  | cons operation rest ih => exact ih (after_tidy good operation)

/-- After any operations, no two keywords share a name, only defined keywords are applied, none of them
    twice, and the values of a keyword are checked only if it has a schema for them. -/
theorem run_checks (options : Options) (operations : List Operation) :
    ((create options).run operations).vocabulary.IsTidy := by
  have table : (blank options).compiler.vocabulary =
      VocabularyTable.draft07 options.overwriteKeywords := by simp only [compiler, blank]
  have tidy : (blank options).compiler.vocabulary.IsTidy :=
    table ▸ .draft07 options.overwriteKeywords
  have start : (create options).Good HasTidyTable := create_good options fun _ => tidy
  exact (start.run_tidy operations).current ⟨0⟩

end Registry

end JsonSchema
