import JsonSchema.Proofs.Compilation.Missing
import JsonSchema.Proofs.Registry.Steps
import JsonSchema.Proofs.Vocabulary.Definitions

/-!
# How operations fail

Under fixed options, the errors that operations on a registry fail with are those of compilations
and of definitions, and refusals of documents that were checked.

* `Registry.Suits`: what may be said of all errors, given when documents are refused.
* `RegistryM.Fails`: the rule by which operations with such errors are put together.
* `Registry.addSchemaWith_fails`, `Registry.compile_fails`, `Registry.addKeyword_fails` and the
  others: one rule for each operation.

A document is refused for what its meta-schema says, or because its meta-schema is not known. If
failures are only to be noted, the first kind of refusal is noted, and the second one is not.

* `RegistryM.RefusesUnknown`: an operation refuses documents only for want of a meta-schema.
* `Registry.run_refuses_unknown`: this is so of all operations if failures are only to be noted.
* `Registry.run_refuses_noted`: such a refusal, although failures are only to be noted.
-/

namespace JsonSchema

/-- What may be said of the errors of operations: of all but the refusals of documents, which are
    either for what a meta-schema says, or for want of a meta-schema. -/
structure Registry.Suits (o : Options) (P : SchemaError → Prop) : Prop
    extends SchemaError.Suits P where
  refused : ∀ violations, o.validateSchema ≠ .log → P (.invalid violations)
  unknown : ∀ name, o.missingMeta = .strict → P (.invalid [Registry.unknownMeta name])

namespace RegistryM

open Registry (Suits)

variable {α β : Type} {o : Options} {P : SchemaError → Prop} {m : RegistryM α}

/-- Under some options an operation leaves the options as they are, and fails only as described. -/
def Fails (o : Options) (P : SchemaError → Prop) (m : RegistryM α) : Prop :=
  ∀ r, r.options = o → (m.after r).options = o ∧ ∀ e r', m r = .error e r' → P e

namespace Fails

theorem pure (a : α) : Fails o P (pure a : RegistryM α) :=
  fun _ under => ⟨under, fun _ _ failed => nomatch failed⟩

theorem throw {e : SchemaError} (h : P e) : Fails o P (MonadExcept.throw e : RegistryM α) := by
  refine fun r under => ⟨under, fun e' r' failed => ?_⟩
  cases failed
  exact h

theorem modify {change : Registry → Registry} (same : ∀ r, (change r).options = r.options) :
    Fails o P (modify change : RegistryM PUnit) :=
  fun r under => ⟨(same r).trans under, fun _ _ failed => nomatch failed⟩

theorem get_bind {f : Registry → RegistryM α} (rest : ∀ r, r.options = o → Fails o P (f r)) :
    Fails o P (get >>= f) := fun r under => rest r under r under

theorem bind {f : α → RegistryM β} (first : Fails o P m) (second : ∀ a, Fails o P (f a)) :
    Fails o P (m >>= f) := by
  intro r under
  obtain ⟨options, errors⟩ := first r under
  rw [after]
  cases h : m r with
  | ok a r₁ =>
    rw [after_of_ok h] at options
    rw [bind_ok h]
    exact second a r₁ options
  | error e₁ r₁ =>
    rw [after_of_error h] at options
    rw [bind_error h]
    refine ⟨options, fun e r' failed => ?_⟩
    cases failed
    exact errors _ _ h

theorem map {f : α → β} (first : Fails o P m) : Fails o P (f <$> m) := by
  rw [map_eq_pure_bind]
  exact first.bind fun _ => pure _

theorem ite {c : Prop} [Decidable c] {m' : RegistryM α} (yes : c → Fails o P m)
    (no : Fails o P m') : Fails o P (if c then m else m') := by
  split
  · next h => exact yes h
  · exact no

theorem mapM {f : α → RegistryM β} (step : ∀ a, Fails o P (f a)) (list : List α) :
    Fails o P (list.mapM f) := by
  induction list with
  | nil =>
    rw [List.mapM_nil]
    exact pure _
  | cons a rest ih =>
    rw [List.mapM_cons]
    exact (step a).bind fun _ => ih.bind fun _ => pure _

theorem updateStore (change : Store → Store) : Fails o P (Registry.updateStore change) :=
  modify fun _ => rfl

theorem lift {x : Except SchemaError α} (h : ∀ e, x = .error e → P e) :
    Fails o P (Registry.lift x) := by
  cases x with
  | ok a => exact pure a
  | error e => exact throw (h e rfl)

theorem orElseUndo {undo : RegistryM Unit} (first : Fails o P m) (undoes : Fails o P undo) :
    Fails o P (Registry.orElseUndo m undo) := by
  intro r under
  obtain ⟨options, errors⟩ := first r under
  cases h : m r with
  | ok a r₁ =>
    rw [after_of_ok h] at options
    rw [after_orElseUndo_ok h]
    refine ⟨options, fun e r' failed => ?_⟩
    change EStateM.tryCatch m _ r = .error e r' at failed
    rw [EStateM.tryCatch, h] at failed
    cases failed
  | error e₁ r₁ =>
    rw [after_of_error h] at options
    have again := undoes.bind (fun _ => throw (α := α) (errors e₁ r₁ h)) r₁ options
    have run : Registry.orElseUndo m undo r = (undo >>= fun _ => MonadExcept.throw e₁) r₁ := by
      show EStateM.tryCatch m _ r = _
      rw [EStateM.tryCatch, h]
      rfl
    rw [after, run]
    exact again

end Fails

end RegistryM

namespace Registry

open RegistryM (Fails)

variable {o : Options} {P : SchemaError → Prop} (suits : Suits o P)

/-! ## Reading documents -/

/-- What is wrong with an identifier is said of the document itself. -/
theorem isPlain_of_schemaId {document : Value} {e : SchemaError}
    (failed : document.schemaId = .error e) : e.isPlain = true := by
  unfold Value.schemaId at failed
  split at failed
  · cases failed
  · split at failed
    all_goals cases failed
    rfl
  · cases failed
    rfl

/-- What is wrong with the identifiers in a document is said of the document itself. -/
theorem isPlain_of_index {vocabulary : VocabularyTable} {document : Value} {id : String}
    {e : SchemaError} (failed : LocalIndex.ofDocument vocabulary document id = .error e) :
    e.isPlain = true := by
  unfold LocalIndex.ofDocument at failed
  generalize document.findings vocabulary id "" true = findings at failed
  generalize ({} : LocalIndex) = index at failed
  induction findings generalizing index with
  | nil => cases failed
  | cons finding rest ih =>
    rw [List.foldlM_cons] at failed
    cases noted : index.note id finding with
    | ok index' =>
      rw [noted] at failed
      exact ih index' failed
    | error e' =>
      rw [noted] at failed
      cases failed
      unfold LocalIndex.note at noted
      split at noted
      · split at noted
        all_goals cases noted
        rfl
      · split at noted
        all_goals cases noted
      · cases noted
        rfl

include suits

/-! ## Checking documents -/

omit suits in
/-- A compilation refuses no document. -/
theorem compileEntry_fails (suits : SchemaError.Suits P) (id : EntryId) :
    Fails o P (compileEntry id) := by
  unfold compileEntry
  refine .get_bind fun r _ => .ite (fun _ => .get_bind fun _ _ => .pure _) ?_
  have errors := Compiler.compile_raises r.compiler suits id r.store
  generalize r.compiler.compile id r.store = result at errors
  obtain ⟨outcome, store, events⟩ := result
  exact .bind (.modify fun _ => rfl) fun _ => .bind (.modify fun _ => rfl) fun _ =>
    .bind (.lift errors) fun _ => .get_bind fun _ _ => .pure _

omit suits in
theorem record_fails (violations : Violations) : Fails o P (record violations) :=
  .bind (.modify fun _ => rfl) fun _ => .pure _

omit suits in
theorem apply_fails (validator : Validator) (data : Value) : Fails o P (apply validator data) :=
  .get_bind fun _ _ => .bind (.modify fun _ => rfl) fun _ => .pure _

theorem validateAgainst_fails (metaSchema : EntryId) (document : Value) (refuse : Bool) :
    Fails o P (validateAgainst metaSchema document refuse) := by
  refine .bind (compileEntry_fails suits.toSuits _) fun _ => .bind (apply_fails _ _) fun violations =>
    .bind (record_fails _) fun _ => .ite (fun _ => .pure _) ?_
  refine .get_bind fun r under => .ite (fun refused => ?_) (.pure _)
  rw [Bool.and_eq_true, decide_eq_true_eq, under] at refused
  exact .bind (.throw (suits.refused violations refused.2)) fun _ => .pure _

theorem missingMeta_fails (name : String) (refuse : Bool) : Fails o P (missingMeta name refuse) := by
  refine .get_bind fun r under => ?_
  cases strict : r.options.missingMeta with
  | permissive => exact .pure _
  | strict =>
    rw [under] at strict
    exact .bind (record_fails _) fun _ =>
      .ite (fun _ => .bind (.throw (suits.unknown name strict)) fun _ => .pure _) (.pure _)

theorem validateSchema_fails (document : Value) (refuse : Bool) :
    Fails o P (validateSchema document refuse) := by
  refine .get_bind fun r _ => ?_
  simp only
  split
  · exact validateAgainst_fails suits _ _ _
  · exact missingMeta_fails suits _ _

/-! ## Taking documents in -/

theorem placeEntry_fails (vocabulary : VocabularyTable) (document : Value) (key : CacheKey)
    (id : String) (isMeta named own : Bool) :
    Fails o P (placeEntry vocabulary document key id isMeta named own) := by
  refine .bind (.lift fun e failed => suits.plain (isPlain_of_index failed)) fun _ =>
    .get_bind fun _ _ => .bind (.updateStore _) fun _ => ?_
  cases own with
  | false => exact .pure _
  | true =>
    exact .bind (.orElseUndo (validateAgainst_fails suits _ _ _) (.updateStore _)) fun _ => .pure _

theorem addEntry_fails (document : Document) (id : String) (isMeta validate register : Bool) :
    Fails o P (addEntry document id isMeta validate register) := by
  refine .get_bind fun r _ => ?_
  simp only
  split
  · exact .ite (fun _ => .bind (.updateStore _) fun _ => .pure _) (.pure _)
  · refine .get_bind fun r _ => .ite
      (fun _ => .bind (.throw (suits.plain rfl)) fun _ => ?_) ?_
    all_goals refine .ite (fun _ => .bind (validateSchema_fails suits _ _) fun _ => ?_) ?_
    all_goals exact placeEntry_fails suits r.vocabulary document.value _ _ isMeta _ _

theorem addSchemaWith_fails (document : Document) (options : AddOptions) :
    Fails o P (addSchemaWith document options) := by
  unfold addSchemaWith
  refine .bind (.lift fun e failed => suits.plain (isPlain_of_schemaId failed)) fun id => ?_
  generalize normalizeId (options.key.getD id) = key
  refine .get_bind fun r _ => ?_
  have named (entry : EntryId) : Fails o P (nameEntry entry key) := by
    unfold nameEntry
    exact .ite (fun _ => .pure _) (.bind (.updateStore _) fun _ => .pure _)
  by_cases taken : (!key.isEmpty && r.store.isTaken key) = true
  · rw [if_pos taken]
    exact .bind (.throw (suits.plain rfl)) fun _ => (addEntry_fails suits _ _ _ _ _).bind named
  · rw [if_neg taken]
    exact (addEntry_fails suits _ _ _ _ _).bind named

theorem addSchemas_fails (documents : List Document) : Fails o P (addSchemas documents) :=
  .mapM (fun document => addSchemaWith_fails suits document _) documents

/-! ## Compiling and validating -/

theorem compile_fails (document : Document) : Fails o P (compile document) := by
  refine .bind (.lift fun e failed => suits.plain (isPlain_of_schemaId failed)) fun id =>
    .get_bind fun r _ => .bind (addEntry_fails suits _ _ _ _ _) fun entry =>
      .orElseUndo (compileEntry_fails suits.toSuits _) ?_
  exact .ite (fun _ => .pure _) (.updateStore _)

theorem getSchema_fails (name : String) : Fails o P (getSchema name) := by
  refine .get_bind fun r _ => ?_
  simp only
  split
  · exact (compileEntry_fails suits.toSuits _).map
  · split
    · exact (compileEntry_fails suits.toSuits _).map
    · refine .bind (.updateStore _) fun _ => .map (.orElseUndo (compileEntry_fails suits.toSuits _) ?_)
      exact .ite (fun _ => .updateStore _) (.pure _)
    · exact .pure _

theorem validate_fails (name : String) (data : Value) : Fails o P (validate name data) := by
  refine (getSchema_fails suits name).bind fun found => ?_
  cases found with
  | none => exact .throw (suits.missing name)
  | some validator => exact (apply_fails validator data).bind fun _ => record_fails _

theorem validateValue_fails (document : Document) (data : Value) :
    Fails o P (validateValue document data) :=
  (compile_fails suits document).bind fun _ => (apply_fails _ _).bind fun _ => record_fails _

/-! ## Keywords -/

omit suits in
theorem isPlain_of_reorder {table : VocabularyTable} {e : SchemaError}
    (failed : table.reorder = .error e) : e.isPlain = true := by
  unfold VocabularyTable.reorder at failed
  split at failed <;> cases failed
  rfl

omit suits in
theorem isPlain_of_stage {table : VocabularyTable} {keyword : Keyword} {owner : Option String}
    {e : SchemaError} (failed : table.stage keyword owner = .error e) : e.isPlain = true := by
  unfold VocabularyTable.stage at failed
  split at failed
  · cases failed; rfl
  · split at failed
    · cases failed; rfl
    · split at failed <;> cases failed
      rfl

omit suits in
theorem isPlain_of_addKeyword {table : VocabularyTable} {keyword : Keyword} {e : SchemaError}
    (failed : table.addKeyword keyword = .error e) : e.isPlain = true := by
  unfold VocabularyTable.addKeyword at failed
  cases staged : table.stage keyword none with
  | ok table' =>
    rw [staged] at failed
    exact isPlain_of_reorder failed
  | error e' =>
    rw [staged] at failed
    cases failed
    exact isPlain_of_stage staged

omit suits in
theorem isPlain_of_foldlM_stage {table : VocabularyTable} {keywords : List Keyword}
    {owner : Option String} {e : SchemaError}
    (failed : keywords.foldlM (fun t k => t.stage k owner) table = .error e) : e.isPlain = true := by
  induction keywords generalizing table with
  | nil => cases failed
  | cons keyword rest ih =>
    rw [List.foldlM_cons] at failed
    cases staged : table.stage keyword owner with
    | ok table' =>
      rw [staged] at failed
      exact ih failed
    | error e' =>
      rw [staged] at failed
      cases failed
      exact isPlain_of_stage staged

omit suits in
theorem isPlain_of_addVocabulary {table : VocabularyTable} {vocabulary : Vocabulary}
    {e : SchemaError} (failed : table.addVocabulary vocabulary = .error e) : e.isPlain = true := by
  rw [VocabularyTable.addVocabulary_eq] at failed
  split at failed
  · cases failed; rfl
  · split at failed
    · cases failed; rfl
    · cases staged : vocabulary.keywords.foldlM (fun t k => t.stage k (some vocabulary.name)) table with
      | ok table' =>
        rw [staged] at failed
        exact isPlain_of_reorder failed
      | error e' =>
        rw [staged] at failed
        cases failed
        exact isPlain_of_foldlM_stage staged

theorem valueValidators_fails (keywords : List Keyword) : Fails o P (valueValidators keywords) := by
  refine .bind (.mapM (fun keyword => ?_) keywords) fun _ => .pure _
  cases keyword.valueSchema with
  | none => exact .pure _
  | some schema =>
    refine .map (.bind (.lift fun e failed => suits.plain (isPlain_of_schemaId failed)) fun id => ?_)
    refine .bind (.get_bind fun _ _ => .bind (.modify fun _ => rfl) fun _ => .pure _) fun document => ?_
    exact .bind (addEntry_fails suits _ _ _ _ _) fun _ => compileEntry_fails suits.toSuits _

theorem defineWith_fails (validators : List (String × Validator))
    {define : VocabularyTable → Except SchemaError VocabularyTable}
    (plain : ∀ table e, define table = .error e → e.isPlain = true) :
    Fails o P (defineWith validators define) :=
  .get_bind fun r _ => .bind (.lift fun e failed => suits.plain (plain r.vocabulary e failed))
    fun _ => .modify fun _ => rfl

theorem addKeyword_fails (keyword : Keyword) : Fails o P (addKeyword keyword) :=
  (valueValidators_fails suits [keyword]).bind fun validators =>
    defineWith_fails suits validators fun _ _ => isPlain_of_addKeyword

theorem addVocabulary_fails (vocabulary : Vocabulary) : Fails o P (addVocabulary vocabulary) :=
  (valueValidators_fails suits vocabulary.keywords).bind fun validators =>
    defineWith_fails suits validators fun _ _ => isPlain_of_addVocabulary

end Registry

/-! ## Refused documents -/

open Registry (unknownMeta)

/-- An operation refuses a document only for want of its meta-schema, and only if the options are
    strict there. -/
def RegistryM.RefusesUnknown {α : Type} (m : RegistryM α) (r : Registry) : Prop :=
  ∀ violations r', m.run r = .error (.invalid violations) r' →
    r.options.missingMeta = .strict ∧ ∃ name, violations = [unknownMeta name]

/-- What is said of the errors of such operations. -/
def Options.Notes (o : Options) (e : SchemaError) : Prop :=
  ∀ violations, e = .invalid violations →
    o.missingMeta = .strict ∧ ∃ name, violations = [unknownMeta name]

namespace Registry

theorem suits_notes {o : Options} (log : o.validateSchema = .log) : Suits o o.Notes where
  plain h violations same := by
    subst same
    cases h
  missing _ := nofun
  refused _ other := absurd log other
  unknown name strict violations same := by
    cases same
    exact ⟨strict, name, rfl⟩

theorem refusesUnknown_of_fails {α : Type} {m : RegistryM α} {r : Registry}
    (fails : m.Fails r.options r.options.Notes) : m.RefusesUnknown r :=
  fun violations r' failed => (fails r rfl).2 _ r' failed violations rfl

/-- If failures are only to be noted, then after any operations no document is refused, except that
    a document of which the meta-schema is not known is refused if the options are strict there. -/
theorem run_refuses_unknown (options : Options) (operations : List Operation) :
    let r := (create { options with validateSchema := .log }).run operations
    (∀ document add, (addSchemaWith document add).RefusesUnknown r) ∧
      (∀ documents, (addSchemas documents).RefusesUnknown r) ∧
      (∀ document, (compile document).RefusesUnknown r) ∧
      (∀ name, (getSchema name).RefusesUnknown r) ∧
      (∀ document refuse, (validateSchema document refuse).RefusesUnknown r) ∧
      (∀ name data, (validate name data).RefusesUnknown r) ∧
      (∀ document data, (validateValue document data).RefusesUnknown r) ∧
      (∀ keyword, (addKeyword keyword).RefusesUnknown r) ∧
      ∀ vocabulary, (addVocabulary vocabulary).RefusesUnknown r := by
  intro r
  have suits : Suits r.options r.options.Notes :=
    suits_notes (congrArg (·.validateSchema) (reached_steps _ operations).1)
  exact ⟨fun document add => refusesUnknown_of_fails (addSchemaWith_fails suits document add),
    fun documents => refusesUnknown_of_fails (addSchemas_fails suits documents),
    fun document => refusesUnknown_of_fails (compile_fails suits document),
    fun name => refusesUnknown_of_fails (getSchema_fails suits name),
    fun document refuse => refusesUnknown_of_fails (validateSchema_fails suits document refuse),
    fun name data => refusesUnknown_of_fails (validate_fails suits name data),
    fun document data => refusesUnknown_of_fails (validateValue_fails suits document data),
    fun keyword => refusesUnknown_of_fails (addKeyword_fails suits keyword),
    fun vocabulary => refusesUnknown_of_fails (addVocabulary_fails suits vocabulary)⟩

/-- Although failures are only to be noted, a document is refused whose meta-schema is not known. -/
theorem run_refuses_noted :
    let r := (create { validateSchema := .log, missingMeta := .strict, installMeta := false }).run []
    ∃ r', addSchema ⟨.object [("type", .string "string")], .given 0⟩ none r =
      .error (.invalid [unknownMeta ""]) r' :=
  ⟨_, rfl⟩

end Registry

end JsonSchema
