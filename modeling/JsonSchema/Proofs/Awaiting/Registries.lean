import JsonSchema.Proofs.Awaiting.Keywords
import JsonSchema.Proofs.Registry.Reachable

/-!
# Registries with tests

A registry that was just created has compiled nothing, and defining formats and tests compiles
nothing either. What such a registry compiles later, it compiles with all of its tests.

* `Store.IsQuiet`: nothing was compiled yet; `Registry.create_quiet`.
* `Registry.run_definitions`: what definitions leave.
* `Operation.isSteady`, `Registry.run_steady`: runs that leave keywords and formats alone.
* `Registry.run_tests`: a registry with tests has compiled everything with all of its tests.
-/

namespace JsonSchema

/-! ## Before anything is compiled -/

namespace Store

variable {s : Store}

/-- No entry was compiled yet. -/
def IsQuiet (s : Store) : Prop := ∀ id e, s.entry? id = some e → e.progress.isStarted = false

/-- Where nothing was compiled, everything was compiled by any compiler that one likes. -/
theorem Settled.of_quiet {K K' : EntryId → Compiler → Prop} (settled : s.Settled K) (quiet : s.IsQuiet) :
    s.Settled K' where
  linked := settled.linked
  uniform := settled.uniform
  current := settled.current
  leads := settled.leads
  admits := settled.admits
  idle := settled.idle
  holds id e node refs found done := by
    have idle := quiet id e found
    rw [done] at idle
    cases idle

theorem isQuiet_empty : ({} : Store).IsQuiet := fun id e found => by
  rw [ entry?, Array.getElem?_empty] at found
  cases found

theorem IsQuiet.insertDocument (quiet : s.IsQuiet) {e : Entry} (idle : e.progress.isStarted = false)
    (key : CacheKey) (named : Bool) : (s.insertDocument e key named).IsQuiet := by
  intro id f found
  rcases entry?_of_insertDocument found with old | ⟨-, rfl⟩
  · exact quiet id f old
  · exact idle

theorem IsQuiet.promote (quiet : s.IsQuiet) (ids : List EntryId) : (s.promote ids).IsQuiet := by
  obtain ⟨reset, promotes⟩ := promotes s ids
  intro id e found
  rcases promotes.came id e found with ⟨-, old⟩ | idle
  · exact quiet id e old
  · exact idle

end Store

namespace RegistryM

variable {α β : Type} {r : Registry} {m : RegistryM α}

/-- An operation compiles nothing if nothing was compiled yet. -/
def IsCalm (m : RegistryM α) : Prop :=
  ∀ r : Registry, r.store.IsQuiet → (m.after r).store.IsQuiet

namespace IsCalm

theorem pure (a : α) : IsCalm (pure a : RegistryM α) := fun _ quiet => quiet

theorem throw (e : SchemaError) : IsCalm (MonadExcept.throw e : RegistryM α) := fun _ quiet => quiet

theorem throw_bind (e : SchemaError) (f : α → RegistryM β) : IsCalm (MonadExcept.throw e >>= f) :=
  fun _ quiet => quiet

theorem get_bind {f : Registry → RegistryM α}
    (rest : ∀ r : Registry, r.store.IsQuiet → IsCalm (f r)) : IsCalm (get >>= f) :=
  fun r quiet => rest r quiet r quiet

theorem modify {change : Registry → Registry}
    (calm : ∀ r, r.store.IsQuiet → (change r).store.IsQuiet) :
    IsCalm (modify change : RegistryM PUnit) := fun r quiet => calm r quiet

theorem lift (x : Except SchemaError α) : IsCalm (Registry.lift x) := by
  cases x with
  | ok a => exact pure a
  | error e => exact throw e

theorem bind {f : α → RegistryM β} (first : IsCalm m) (second : ∀ a, IsCalm (f a)) :
    IsCalm (m >>= f) := by
  intro r quiet
  have first := first r quiet
  unfold RegistryM.after at first ⊢
  cases hm : m r with
  | error e r' =>
    rw [bind_error hm]
    rw [hm] at first
    exact first
  | ok a r' =>
    rw [bind_ok hm]
    rw [hm] at first
    exact second a r' first

end IsCalm

end RegistryM

namespace Registry

open RegistryM (IsCalm)

/-! ## Creating a registry -/

theorem placeEntry_isCalm (vocabulary : VocabularyTable) (document : Value) (key : CacheKey)
    (id : String) (isMeta named : Bool) :
    IsCalm (placeEntry vocabulary document key id isMeta named false) := by
  refine .bind (.lift _) fun index => .get_bind fun r quiet => ?_
  exact .bind (.modify fun _ _ => quiet.insertDocument rfl key named) fun _ => .pure _

theorem insertEntry_isCalm (document : Document) (key : CacheKey) (id : String)
    (isMeta register : Bool) : IsCalm (insertEntry document key id isMeta false register) := by
  unfold insertEntry
  refine .get_bind fun r _ => ?_
  by_cases taken : (register && !id.isEmpty && r.store.isTaken id) = true
  · rw [if_pos taken]
    exact .throw_bind _ _
  · rw [if_neg taken]
    exact placeEntry_isCalm r.vocabulary document.value key id isMeta (register && !id.isEmpty)

/-- A document that is taken in without a check is not compiled. -/
theorem addEntry_isCalm (document : Document) (id : String) (isMeta register : Bool) :
    IsCalm (addEntry document id isMeta false register) := by
  unfold addEntry
  refine .get_bind fun r _ => ?_
  simp only
  split
  · next entry known _ =>
    by_cases promoted : (isMeta && !known.isMeta) = true
    · rw [if_pos promoted]
      exact .bind (.modify fun r quiet => quiet.promote (r.store.membersOf entry)) fun _ => .pure _
    · rw [if_neg promoted]
      exact .pure _
  · exact insertEntry_isCalm document _ id isMeta register

theorem addSchemaWith_isCalm (document : Document) (options : AddOptions)
    (unchecked : options.skipValidation = true) : IsCalm (addSchemaWith document options) := by
  unfold addSchemaWith
  rw [unchecked]
  refine .bind (.lift _) fun id => .get_bind fun r _ => ?_
  generalize normalizeId (options.key.getD id) = key
  by_cases taken : (!key.isEmpty && r.store.isTaken key) = true
  · rw [if_pos taken]
    exact .throw_bind _ _
  · rw [if_neg taken]
    refine .bind (addEntry_isCalm document id options.isMeta true) fun entry => ?_
    by_cases empty : key.isEmpty = true
    · rw [if_pos empty]
      exact .pure _
    · rw [if_neg empty]
      exact .bind (.modify fun _ quiet => quiet) fun _ => .pure _

theorem installMeta_isCalm : IsCalm installMeta := by
  have copied : IsCalm (copy Draft07.metaSchema) :=
    .get_bind fun r _ => .bind (.modify fun _ quiet => quiet) fun _ => .pure _
  refine .bind copied fun document => ?_
  exact .bind (addSchemaWith_isCalm document _ rfl) fun _ => .modify fun _ quiet => quiet

/-- A registry that was just created has compiled nothing. -/
theorem create_quiet (options : Options) : (create options).store.IsQuiet := by
  rw [create_eq]
  split
  · exact installMeta_isCalm _ Store.isQuiet_empty
  · exact Store.isQuiet_empty

/-! ## Defining tests -/

open RegistryM (bind_ok)

/-- The definition of a keyword without a schema for its values changes the table of keywords, if
    it changes anything. -/
theorem after_addKeyword {keyword : Keyword} (plain : keyword.valueSchema = none) (r : Registry) :
    (Operation.addKeyword keyword).after r = { r with vocabulary := r.vocabulary.define keyword } := by
  have none : valueValidators [keyword] r = .ok [] r := by
    unfold valueValidators
    rw [List.mapM_cons, List.mapM_nil, plain]
    rfl
  show (Registry.addKeyword keyword).after r = _
  unfold Registry.addKeyword RegistryM.after
  rw [bind_ok none, VocabularyTable.define]
  unfold defineWith
  rw [RegistryM.get_bind]
  cases added : r.vocabulary.addKeyword keyword <;> simp only [added] <;> rfl

end Registry

/-- The definitions of formats and keywords. -/
def Operation.definitions (formats : List (String × Format)) (keywords : List Keyword) :
    List Operation :=
  formats.map (fun f => .addFormat f.1 f.2) ++ keywords.map .addKeyword

namespace Registry

/-- Definitions of formats and keywords change the tables of these, and nothing else. -/
theorem run_definitions (formats : List (String × Format)) (keywords : List Keyword)
    (plain : ∀ keyword ∈ keywords, keyword.valueSchema = none) (r : Registry) :
    r.run (Operation.definitions formats keywords) =
      { r with
        formats := formats.foldl (fun table f => FormatTable.insert table f.1 f.2) r.formats
        vocabulary := keywords.foldl VocabularyTable.define r.vocabulary } := by
  have first : r.run (formats.map fun f => .addFormat f.1 f.2) =
      { r with formats := formats.foldl (fun table f => FormatTable.insert table f.1 f.2) r.formats } := by
    clear plain
    induction formats generalizing r with
    | nil => rfl
    | cons f rest ih => exact ih _
  rw [Operation.definitions, run, List.foldl_append]
  show Registry.run (Registry.run r _) _ = _
  rw [first]
  clear first
  generalize formats.foldl _ r.formats = table
  induction keywords generalizing r with
  | nil => rfl
  | cons keyword rest ih =>
    show Registry.run ((Operation.addKeyword keyword).after _) _ = _
    rw [after_addKeyword (plain keyword List.mem_cons_self)]
    exact ih (fun k mem => plain k (List.mem_cons_of_mem _ mem))
      { r with vocabulary := r.vocabulary.define keyword }

end Registry

/-! ## Runs -/

/-- Whether an operation leaves keywords and formats alone. -/
def Operation.isSteady : Operation → Bool
  | addFormat _ _ => false
  | operation => !operation.redefines

namespace Registry

/-- A registry in which keywords and formats are left alone compiles like at the beginning. -/
theorem run_steady {K : EntryId → Compiler → Prop} {r : Registry} (good : r.Good K)
    (operations : List Operation) (steady : ∀ operation ∈ operations, operation.isSteady = true) :
    (r.run operations).Good K := by
  induction operations generalizing r with
  | nil => exact good
  | cons operation rest ih =>
    have own := steady operation List.mem_cons_self
    refine ih (operation.after_good good fun compiler leaves => ?_).1 fun o mem =>
      steady o (List.mem_cons_of_mem _ mem)
    cases operation with
    | addFormat name format => cases own
    | addKeyword | addVocabulary | removeKeyword | removeVocabulary => cases own
    | _ => cases leaves

/-- A registry compiles everything with the formats and keywords that were defined at the
    beginning, as long as these are left alone. -/
theorem run_defined (options : Options) (formats : List (String × Format)) (keywords : List Keyword)
    (plain : ∀ keyword ∈ keywords, keyword.valueSchema = none) (operations : List Operation)
    (steady : ∀ operation ∈ operations, operation.isSteady = true) :
    ((create options).run (Operation.definitions formats keywords ++ operations)).Good fun _ =>
      (· = { options
             formats := formats.foldl (fun table f => FormatTable.insert table f.1 f.2)
              FormatTable.draft07
             vocabulary := keywords.foldl VocabularyTable.define
              (VocabularyTable.draft07 options.overwriteKeywords) }) := by
  have created := compiler_create options
  rw [compiler, compiler, blank, Compiler.mk.injEq] at created
  obtain ⟨vocabulary, table, under⟩ := created
  rw [run, List.foldl_append]
  refine run_steady ?_ operations steady
  show Good _ ((create options).run (Operation.definitions formats keywords))
  rw [run_definitions formats keywords plain]
  refine ⟨?_, fun _ => ?_⟩
  · exact (reached_good options []).settled.of_quiet (create_quiet options)
  · rw [compiler, vocabulary, table, under]

end Registry

end JsonSchema
