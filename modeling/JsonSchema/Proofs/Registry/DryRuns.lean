import JsonSchema.Proofs.Registry.Errors
import JsonSchema.Proofs.Registry.Names

/-!
# Dry runs

Checking a document against its meta-schema says what becomes of it when it is taken in: it is
refused with the same violations. A document that is its own meta-schema is checked when it is
there, so for such a document this is so of a check that is made then.

* `RegistryM.Foretells`: a check that refuses nothing says what one says that does.
* `Registry.validateSchema_foretells`: the check of a document against its meta-schema is such a one.
* `Registry.addSchema_foretold`, `Registry.addSchema_foretold_own`: when a document is refused.
* `Registry.run_foretells`: what a check says of a document, and what becomes of it.
-/

namespace JsonSchema

namespace RegistryM

section Refuses

variable {α β : Type} {m : RegistryM α} {r : Registry} {violations : Violations}

/-- An operation refuses a document for some violations. -/
def Refuses (m : RegistryM α) (r : Registry) (violations : Violations) : Prop :=
  ∃ r', m r = .error (.invalid violations) r'

instance : Decidable (m.Refuses r violations) :=
  match run : m r with
  | .ok _ _ => isFalse fun ⟨_, refused⟩ => nomatch run.symm.trans refused
  | .error e r' =>
    decidable_of_iff (e = .invalid violations)
      ⟨fun same => ⟨r', same ▸ run⟩, fun ⟨_, refused⟩ => by cases run.symm.trans refused; rfl⟩

theorem refuses_bind_iff {f : α → RegistryM β}
    (rest : ∀ a r', m r = .ok a r' → ¬ (f a).Refuses r' violations) :
    (m >>= f).Refuses r violations ↔ m.Refuses r violations := by
  unfold Refuses
  cases run : m r with
  | error e r' =>
    rw [bind_error run]
    constructor <;> rintro ⟨_, h⟩ <;> cases h <;> exact ⟨_, rfl⟩
  | ok a r' =>
    rw [bind_ok run]
    exact iff_of_false (rest a r' run) fun ⟨_, h⟩ => nomatch h

theorem refuses_orElseUndo_iff (change : Store → Store) :
    (Registry.orElseUndo m (Registry.updateStore change)).Refuses r violations ↔
      m.Refuses r violations := by
  unfold Refuses Registry.orElseUndo
  change (∃ r', EStateM.tryCatch m _ r = _) ↔ _
  unfold EStateM.tryCatch
  cases m r with
  | ok a r' => exact iff_of_false (fun ⟨_, h⟩ => nomatch h) fun ⟨_, h⟩ => nomatch h
  | error e r' => constructor <;> rintro ⟨_, h⟩ <;> cases h <;> exact ⟨_, rfl⟩

end Refuses

/-- A check that does not refuse says what one does that refuses: it fails alike, and it says that it
    found nothing, or keeps the violations for which the other one refuses. -/
def Foretells (dry actual : RegistryM Bool) (r : Registry) : Prop :=
  match dry r with
  | .ok true r' => actual r = .ok true r'
  | .ok false r' => ∃ violations, r'.errors = some violations ∧
      actual r = .error (.invalid violations) r'
  | .error e r' => actual r = .error e r' ∧ ∀ violations, e ≠ .invalid violations

/-- An operation refuses a document exactly if a check says so, perhaps in another registry, and for the
    violations that this check keeps. -/
structure Foretold {α : Type} (m : RegistryM α) (r : Registry) (dry : RegistryM Bool)
    (at_ : Registry) : Prop where
  refuses : (∃ violations, m.Refuses r violations) ↔ ∃ r', dry at_ = .ok false r'
  violations : ∀ r', dry at_ = .ok false r' →
    ∃ violations, r'.errors = some violations ∧ m.Refuses r violations

namespace Foretells

variable {dry actual : RegistryM Bool} {r : Registry}

theorem foretold {α : Type} {m : RegistryM α} {at_ : Registry} (h : Foretells dry actual at_)
    (same : ∀ violations, m.Refuses r violations ↔ actual.Refuses at_ violations) :
    m.Foretold r dry at_ := by
  have said : ∀ r', dry at_ = .ok false r' →
      ∃ violations, r'.errors = some violations ∧ m.Refuses r violations := by
    intro r' run
    unfold Foretells at h
    rw [run] at h
    obtain ⟨violations, kept, refused⟩ := h
    exact ⟨violations, kept, (same violations).2 ⟨r', refused⟩⟩
  refine ⟨⟨fun ⟨violations, refused⟩ => ?_, fun ⟨r', run⟩ => ?_⟩, said⟩
  · obtain ⟨r', refused⟩ := (same violations).1 refused
    unfold Foretells at h
    cases run : dry at_ with
    | error e r' =>
      rw [run] at h
      rw [h.1] at refused
      cases refused
      exact absurd rfl (h.2 violations)
    | ok passed r' =>
      rw [run] at h
      cases passed with
      | true =>
        rw [show actual at_ = _ from h] at refused
        cases refused
      | false => exact ⟨r', rfl⟩
  · obtain ⟨violations, -, refused⟩ := said r' run
    exact ⟨violations, refused⟩

end Foretells

end RegistryM

namespace Registry

open RegistryM (Fails Foretells bind_ok bind_error)

variable {r : Registry} {document : Document} {key : Option String} {id : String}

/-! ## Checks -/

/-- Nothing is said of errors but that documents are not refused. -/
theorem suits_plain : SchemaError.Suits fun e => ∀ violations, e ≠ .invalid violations where
  plain h violations same := by
    subst same
    cases h
  missing _ := nofun

theorem compileEntry_plain (id : EntryId) :
    ((compileEntry id).after r).options = r.options ∧
      ∀ e r', compileEntry id r = .error e r' → ∀ violations, e ≠ .invalid violations :=
  compileEntry_fails suits_plain id r rfl

theorem apply_eq (validator : Validator) (data : Value) :
    let verdict := validator.validate r.store.slots data
    apply validator data r = .ok verdict.violations { r with events := r.events ++ verdict.events } :=
  rfl

theorem record_eq (violations : Violations) :
    record violations r = .ok violations.isEmpty
      { r with errors := if violations.isEmpty then none else some violations } :=
  rfl

/-- What becomes of a check, once the meta-schema is compiled. -/
theorem validateAgainst_eq {metaSchema : EntryId} {v : Validator} {r₁ : Registry}
    (compiled : compileEntry metaSchema r = .ok v r₁) (value : Value) (refuse : Bool) :
    let verdict := v.validate r₁.store.slots value
    let r₂ := { r₁ with
      events := r₁.events ++ verdict.events
      errors := if verdict.violations.isEmpty then none else some verdict.violations }
    validateAgainst metaSchema value refuse r =
      if verdict.violations.isEmpty then .ok true r₂
      else if refuse && r₁.options.validateSchema ≠ .log then .error (.invalid verdict.violations) r₂
      else .ok false r₂ := by
  dsimp only
  unfold validateAgainst
  rw [bind_ok compiled, bind_ok (apply_eq v value), bind_ok (record_eq _)]
  generalize v.validate r₁.store.slots value = verdict
  obtain ⟨violations, events⟩ := verdict
  cases violations with
  | nil => rfl
  | cons violation rest =>
    refine (RegistryM.get_bind _ _).trans ?_
    cases refuse && decide (r₁.options.validateSchema ≠ .log) <;> rfl

/-- If documents are refused, a check against the meta-schema of an entry says which ones. -/
theorem validateAgainst_foretells (refuses : r.options.validateSchema ≠ .log) (metaSchema : EntryId)
    (value : Value) :
    Foretells (validateAgainst metaSchema value false) (validateAgainst metaSchema value true) r := by
  obtain ⟨under, plain⟩ := compileEntry_plain (r := r) metaSchema
  unfold Foretells
  cases compiled : compileEntry metaSchema r with
  | error e r₁ =>
    unfold validateAgainst
    rw [bind_error compiled, bind_error compiled]
    exact ⟨rfl, plain e r₁ compiled⟩
  | ok v r₁ =>
    rw [RegistryM.after_of_ok compiled] at under
    rw [validateAgainst_eq compiled, validateAgainst_eq compiled, under]
    simp only [ne_eq, refuses, not_false_eq_true, decide_true, Bool.and_true]
    generalize v.validate r₁.store.slots value = verdict
    cases verdict.violations with
    | nil => exact rfl
    | cons violation rest => exact ⟨violation :: rest, rfl, rfl⟩

theorem missingMeta_foretells (name : String) :
    Foretells (missingMeta name false) (missingMeta name true) r := by
  unfold Foretells missingMeta
  rw [RegistryM.get_bind, RegistryM.get_bind]
  cases r.options.missingMeta with
  | permissive => exact rfl
  | strict => exact ⟨[unknownMeta name], rfl, rfl⟩

/-- The identifier of the meta-schema that a document is checked against. -/
def metaOf (r : Registry) (value : Value) : Option String :=
  value.metaSchemaId? <|> r.options.defaultMeta.map normalizeId <|> r.defaultMeta

theorem validateSchema_eq (value : Value) (refuse : Bool) :
    validateSchema value refuse r =
      match (r.metaOf value).bind r.store.lookup with
      | some entry => validateAgainst entry value refuse r
      | none => missingMeta ((r.metaOf value).getD "") refuse r := by
  unfold validateSchema
  rw [RegistryM.get_bind]
  show (match (r.metaOf value).bind r.store.lookup with
    | some entry => validateAgainst entry value refuse
    | none => missingMeta ((r.metaOf value).getD "") refuse) r = _
  cases (r.metaOf value).bind r.store.lookup <;> rfl

/-- If documents are refused, a check of a document that does not refuse it says whether it is
    refused, and why. -/
theorem validateSchema_foretells (refuses : r.options.validateSchema ≠ .log) (value : Value) :
    Foretells (validateSchema value false) (validateSchema value true) r := by
  cases found : (r.metaOf value).bind r.store.lookup with
  | some entry =>
    have eq (refuse : Bool) : validateSchema value refuse r = validateAgainst entry value refuse r := by
      rw [validateSchema_eq, found]
    unfold Foretells
    rw [eq, eq]
    exact validateAgainst_foretells refuses entry value
  | none =>
    have eq (refuse : Bool) : validateSchema value refuse r =
        missingMeta ((r.metaOf value).getD "") refuse r := by
      rw [validateSchema_eq, found]
    unfold Foretells
    rw [eq, eq]
    exact missingMeta_foretells _

/-! ## Taking documents in -/

/-- Nothing stands against taking a document in but its check: its identifier and its name are free,
    it is not there yet, and the identifiers in it are well formed. -/
structure Admits (r : Registry) (document : Document) (key : Option String) (id : String) : Prop where
  named : document.value.schemaId = .ok id
  keyFree : normalizeId (key.getD id) ≠ "" → r.store.isTaken (normalizeId (key.getD id)) = false
  idFree : id ≠ "" → r.store.isTaken id = false
  fresh : r.knowsDocument document = false
  indexed : (LocalIndex.ofDocument r.vocabulary document.value id).isOk = true

theorem Admits.exists_index (admits : r.Admits document key id) :
    ∃ index, LocalIndex.ofDocument r.vocabulary document.value id = .ok index := by
  have indexed := admits.indexed
  cases read : LocalIndex.ofDocument r.vocabulary document.value id with
  | ok index => exact ⟨index, rfl⟩
  | error e =>
    rw [read] at indexed
    cases indexed

/-- Whether a document with an identifier names itself as its meta-schema. -/
def isOwnMeta (value : Value) (id : String) : Bool := !id.isEmpty && value.metaSchemaId? = some id

/-- A new document is checked before it is given a place, unless it is its own meta-schema: then it
    is checked afterwards. -/
theorem addEntry_eq (admits : r.Admits document key id) (validate : Bool) :
    let checked := validate && r.options.validateSchema ≠ .disabled
    let place := placeEntry r.vocabulary document.value (r.options.serialize.key document) id false
      (!id.isEmpty) (checked && isOwnMeta document.value id)
    addEntry document id false validate true r =
      if checked && !isOwnMeta document.value id then
        (validateSchema document.value true >>= fun _ => place) r
      else place r := by
  intro checked place
  have free : r.store.cache.find? (r.options.serialize.key document) = none :=
    Bindings.binds_eq_false_iff.1 admits.fresh
  have untaken : ¬ (true && !id.isEmpty && r.store.isTaken id) = true := by
    intro h
    rw [Bool.true_and, Bool.and_eq_true, Bool.not_eq_true', ← Bool.not_eq_true,
      String.isEmpty_iff] at h
    rw [admits.idFree h.1] at h
    cases h.2
  unfold addEntry
  rw [RegistryM.get_bind]
  simp only [free, Option.bind_none]
  unfold insertEntry
  rw [RegistryM.get_bind, if_neg untaken]
  by_cases other : (checked && !isOwnMeta document.value id) = true
  · rw [if_pos other]
    exact congrFun (if_pos other) r
  · rw [if_neg other]
    exact congrFun (if_neg other) r

theorem addSchema_eq (admits : r.Admits document key id) :
    addSchema document key r =
      (addEntry document id false true true >>= (nameEntry · (normalizeId (key.getD id)))) r := by
  have untaken : ¬ (!(normalizeId (key.getD id)).isEmpty &&
      r.store.isTaken (normalizeId (key.getD id))) = true := by
    intro h
    rw [Bool.and_eq_true, Bool.not_eq_true', ← Bool.not_eq_true, String.isEmpty_iff] at h
    rw [admits.keyFree h.1] at h
    cases h.2
  have lifted : lift document.value.schemaId r = .ok id r := by rw [admits.named]; rfl
  unfold addSchema addSchemaWith
  rw [bind_ok lifted]
  simp only
  rw [RegistryM.get_bind, if_neg untaken]
  rfl

/-- With identifiers that are well formed, a document is given a place, and perhaps checked there. -/
theorem placeEntry_eq {vocabulary : VocabularyTable} {value : Value} {index : LocalIndex}
    (indexed : LocalIndex.ofDocument vocabulary value id = .ok index) (cacheKey : CacheKey)
    (isMeta named : Bool) :
    ∃ entry r₁, placeEntry vocabulary value cacheKey id isMeta named false r = .ok entry r₁ ∧
      ∀ own, placeEntry vocabulary value cacheKey id isMeta named own r = checkOwn entry value own r₁ := by
  have lifted : lift (LocalIndex.ofDocument vocabulary value id) r = .ok index r := by
    rw [indexed]
    rfl
  let self : EntryId := ⟨r.store.entries.size⟩
  let e : Entry :=
    { id, document := value, localRefs := index.localRefs, refTargets := index.refTargets
      cacheKey := some cacheKey, isMeta, root := self }
  let store := r.store.insertDocument e cacheKey named
  refine ⟨self, { r with store := store }, ?_, fun own => ?_⟩
  all_goals
    unfold placeEntry
    rw [bind_ok lifted]
    rfl

/-- The check of a document that is its own meta-schema refuses it, and nothing else does. -/
theorem checkOwn_refuses_iff (entry : EntryId) {value : Value} {violations : Violations} :
    (checkOwn entry value true).Refuses r violations ↔
      (validateAgainst entry value true).Refuses r violations := by
  unfold checkOwn
  rw [if_pos rfl, RegistryM.refuses_bind_iff fun _ _ _ ⟨_, h⟩ => nomatch h]
  exact RegistryM.refuses_orElseUndo_iff _

/-! ## Refusals -/

/-- A document is refused when it is given a place, or before. -/
theorem addSchema_refuses_iff (admits : r.Admits document key id) {violations : Violations} :
    (addSchema document key).Refuses r violations ↔
      (addEntry document id false true true).Refuses r violations := by
  refine Iff.trans ?_ (RegistryM.refuses_bind_iff (f := (nameEntry · (normalizeId (key.getD id))))
    fun entry r' _ ⟨_, failed⟩ => nameEntry_ne_error entry _ _ _ _ failed)
  unfold RegistryM.Refuses
  rw [addSchema_eq admits]

/-- A document that is not its own meta-schema is refused exactly if its check says so. -/
theorem addSchema_foretold (enabled : r.options.validateSchema = .enabled)
    (admits : r.Admits document key id) (other : isOwnMeta document.value id = false) :
    (addSchema document key).Foretold r (validateSchema document.value false) r := by
  obtain ⟨index, indexed⟩ := admits.exists_index
  refine (validateSchema_foretells (by rw [enabled]; nofun) _).foretold fun violations => ?_
  rw [addSchema_refuses_iff admits, RegistryM.Refuses, addEntry_eq admits true, enabled, other]
  refine RegistryM.refuses_bind_iff fun _ r' _ => ?_
  obtain ⟨entry, r₁, placed, -⟩ := placeEntry_eq (r := r') indexed
    (r.options.serialize.key document) false (!id.isEmpty)
  rintro ⟨_, failed⟩
  have ran := placed.symm.trans failed
  cases ran

theorem isOwnMeta_iff {value : Value} :
    isOwnMeta value id = true ↔ id ≠ "" ∧ value.metaSchemaId? = some id := by
  rw [isOwnMeta, Bool.and_eq_true, Bool.not_eq_true', ← Bool.not_eq_true, String.isEmpty_iff,
    decide_eq_true_eq]

/-- A document that is its own meta-schema is refused exactly if it does not pass its check when it is
    there. -/
theorem addSchema_refuses_own_iff (enabled : r.options.validateSchema = .enabled)
    (admits : r.Admits document key id) (own : isOwnMeta document.value id = true) {entry : EntryId}
    {r₁ : Registry} (unchecked : addEntry document id false false true r = .ok entry r₁)
    {violations : Violations} :
    (addSchema document key).Refuses r violations ↔
      (validateAgainst entry document.value true).Refuses r₁ violations := by
  obtain ⟨index, indexed⟩ := admits.exists_index
  obtain ⟨entry', r₁', placed, places⟩ := placeEntry_eq (r := r) indexed
    (r.options.serialize.key document) false (!id.isEmpty)
  cases ((addEntry_eq admits false).trans placed).symm.trans unchecked
  rw [addSchema_refuses_iff admits, RegistryM.Refuses, addEntry_eq admits true, enabled, own]
  refine Iff.trans ?_ (checkOwn_refuses_iff entry)
  exact iff_of_eq (congrArg (fun result => ∃ r', result = EStateM.Result.error _ r') (places true))

/-- A document that is its own meta-schema does not know it beforehand. It is refused exactly if a
    check says so that is made when the document is there, unchecked and without its name. -/
theorem addSchema_foretold_own {K : EntryId → Compiler → Prop} (good : r.Good K)
    (enabled : r.options.validateSchema = .enabled) (admits : r.Admits document key id)
    (own : isOwnMeta document.value id = true) :
    (∃ r', validateSchema document.value false r =
      .ok (decide (r.options.missingMeta = .permissive)) r') ∧
      ∃ entry r₁, addEntry document id false false true r = .ok entry r₁ ∧
        (addSchema document key).Foretold r (validateSchema document.value false) r₁ := by
  obtain ⟨nonempty, names⟩ := isOwnMeta_iff.1 own
  have asks (r : Registry) : r.metaOf document.value = some id := by
    rw [metaOf, names]
    rfl
  constructor
  · have unknown : r.store.lookup id = none :=
      good.settled.linked.lookup_eq_none_iff.2 (admits.idFree nonempty)
    rw [validateSchema_eq, asks, Option.bind_some, unknown]
    simp only [missingMeta, RegistryM.get_bind]
    cases r.options.missingMeta <;> exact ⟨_, rfl⟩
  obtain ⟨index, indexed⟩ := admits.exists_index
  obtain ⟨entry, r₁, placed, -⟩ := placeEntry_eq (r := r) indexed
    (r.options.serialize.key document) false (!id.isEmpty)
  have unchecked : addEntry document id false false true r = .ok entry r₁ :=
    (addEntry_eq admits false).trans placed
  refine ⟨entry, r₁, unchecked, ?_⟩
  have under : r₁.options = r.options := by
    have moves : RegistryM.Moves r (addEntry document id false false true) :=
      addEntry_moves good document id false fun _ _ => rfl
    rw [← RegistryM.after_of_ok unchecked]
    exact moves.1
  have found : r₁.store.lookup id = some entry := by
    obtain ⟨good₁, -, -, refs⟩ := ((addEntry_ensures good document id false false true).both
      (addEntry_names good document id false false true)).of_ok unchecked
    have listed : (!r.knowsDocument document && (true && !id.isEmpty)) = true := by
      rw [admits.fresh]
      simpa using nonempty
    rw [if_pos listed] at refs
    refine good₁.settled.linked.lookup_eq_some_iff.2 (.inr ?_)
    rw [refs, Bindings.find?_bind, if_pos rfl]
  refine (validateSchema_foretells (by rw [under, enabled]; nofun) _).foretold fun violations => ?_
  refine (addSchema_refuses_own_iff enabled admits own unchecked).trans (iff_of_eq ?_)
  rw [RegistryM.Refuses, RegistryM.Refuses, validateSchema_eq, asks, Option.bind_some, found]

/-- A document is refused when it is taken in exactly if its check says so beforehand, and for the same
    violations: if documents are checked, nothing else stands against taking it in, and it is not its
    own meta-schema. If it is, then the check says beforehand only whether meta-schemas may be missing;
    the document is refused exactly if the check says so when it is there, not yet checked. -/
theorem run_foretells (options : Options) (operations : List Operation) (document : Document)
    (key : Option String) (id : String)
    (admits : ((create { options with validateSchema := .enabled }).run operations).Admits
      document key id) :
    let r := (create { options with validateSchema := .enabled }).run operations
    (isOwnMeta document.value id = false →
      (addSchema document key).Foretold r (validateSchema document.value false) r) ∧
    (isOwnMeta document.value id = true →
      (∃ r', validateSchema document.value false r =
        .ok (decide (options.missingMeta = .permissive)) r') ∧
      ∃ entry r₁, addEntry document id false false true r = .ok entry r₁ ∧
        (addSchema document key).Foretold r (validateSchema document.value false) r₁) := by
  intro r
  have under : r.options = { options with validateSchema := .enabled } :=
    (reached_steps _ operations).1
  have enabled : r.options.validateSchema = .enabled := by rw [under]
  have good : r.Good fun _ _ => True := reached_good _ operations
  refine ⟨addSchema_foretold enabled admits, fun own => ?_⟩
  have foretold := addSchema_foretold_own good enabled admits own
  rwa [under] at foretold

/-- A document that asks for numbers. -/
def untyped : Document := ⟨.object [("type", .string "number")], .given 0⟩

/-- A document that is its own meta-schema, and asynchronous. -/
def asyncMeta : Document :=
  ⟨.object [("$async", .bool true), ("$id", .string "a"), ("$schema", .string "a")], .given 1⟩

/-- Nothing is known, and what is not known counts as invalid. -/
def strictly : Options := { serialize := .disabled, missingMeta := .strict, installMeta := false }

/-- Nothing is known, and what is not known counts as valid. -/
def permissively : Options := { serialize := .disabled, installMeta := false }

theorem admits_untyped : ((create strictly).run []).Admits untyped none "" :=
  ⟨rfl, by decide +kernel, by decide +kernel, by decide +kernel, by decide +kernel⟩

theorem admits_asyncMeta : ((create permissively).run []).Admits asyncMeta none "a" :=
  ⟨by rfl, by decide +kernel, by decide +kernel, by decide +kernel, by decide +kernel⟩

theorem refuses_asyncMeta :
    (addSchema asyncMeta none).Refuses ((create permissively).run []) [Validator.needsResolve] := by
  decide +kernel

/-- A document without a known meta-schema is refused where the options are strict, and its check says
    so. A document that is its own meta-schema is refused because an asynchronous schema refuses all
    data, and its check says so when it is there. -/
theorem run_foretells_both :
    let strict := (create strictly).run []
    let r := (create permissively).run []
    ((addSchema untyped none).Refuses strict [unknownMeta ""] ∧
      (addSchema untyped none).Foretold strict (validateSchema untyped.value false) strict) ∧
    (addSchema asyncMeta none).Refuses r [Validator.needsResolve] ∧
      ∃ entry r₁, addEntry asyncMeta "a" false false true r = .ok entry r₁ ∧
        (addSchema asyncMeta none).Foretold r (validateSchema asyncMeta.value false) r₁ := by
  have untyped_ := run_foretells strictly [] untyped none "" admits_untyped
  have async_ := run_foretells permissively [] asyncMeta none "a" admits_asyncMeta
  exact ⟨⟨by decide +kernel, untyped_.1 (by decide +kernel)⟩, refuses_asyncMeta,
    (async_.2 (by decide +kernel)).2⟩

/-- A document that is its own meta-schema passes its check beforehand, and is refused all the same. -/
theorem run_foretells_not :
    let r := (create permissively).run []
    r.Admits asyncMeta none "a" ∧ (∃ r', validateSchema asyncMeta.value false r = .ok true r') ∧
      (addSchema asyncMeta none).Refuses r [Validator.needsResolve] :=
  ⟨admits_asyncMeta, ⟨_, rfl⟩, refuses_asyncMeta⟩

end Registry

end JsonSchema
