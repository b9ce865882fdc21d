import JsonSchema.Proofs.Registry.DryRuns

/-!
# The violations of the last validation

A validation keeps the violations that it found, or none if it found none. So a registry says of its
last validation whether anything was found, and what. The check of a document whose meta-schema is
not known is an exception where such documents count as valid: it keeps what an earlier validation
found.

* `Registry.Reflects`: what a registry keeps after a validation.
* `Registry.Waives`: a document is not checked, because its meta-schema is not known.
* `Registry.reflects_of_validate`, `Registry.reflects_of_validateValue`: data.
* `Registry.reflects_of_validateSchema`, `Registry.validateSchema_of_waives`: documents.
* `Registry.run_reflects`: validations after a run of operations.
-/

namespace JsonSchema

namespace Registry

open RegistryM (bind_error exists_ok_of_run'_eq)

variable {r : Registry}

/-- What a registry keeps after a validation that found some violations. If there are none, the answer
    is that the data passed, and nothing is kept; otherwise they are kept. -/
structure Reflects (r : Registry) (passed : Bool) (violations : Violations) : Prop where
  of_passed : passed = true → violations = [] ∧ r.errors = none ∧ r.errorsText = "No errors"
  of_failed : passed = false → violations ≠ [] ∧ r.errors = some violations

/-- A document is not checked: its meta-schema is not known, and such documents count as valid. -/
def Waives (r : Registry) (value : Value) : Prop :=
  (r.metaOf value).bind r.store.lookup = none ∧ r.options.missingMeta = .permissive

/-- What the check of a document comes to: what the validator of its meta-schema says, or that this
    is not known. -/
def Judges (r : Registry) (value : Value) (violations : Violations) : Prop :=
  match (r.metaOf value).bind r.store.lookup with
  | some entry => ∃ validator r₁, compileEntry entry r = .ok validator r₁ ∧
      violations = (validator.validate r₁.store.slots value).violations
  | none => violations = [unknownMeta ((r.metaOf value).getD "")]

/-! ## Validations -/

/-- Violations are kept, unless there are none. -/
theorem reflects_recorded (r : Registry) (violations : Violations) :
    Reflects { r with errors := if violations.isEmpty then none else some violations }
      violations.isEmpty violations := by
  cases violations with
  | nil => exact ⟨fun _ => ⟨rfl, rfl, rfl⟩, nofun⟩
  | cons violation others => exact ⟨nofun, fun _ => ⟨nofun, rfl⟩⟩

theorem reflects_applied (validator : Validator) (data : Value) :
    (apply validator data >>= record).Returns r fun passed r' =>
      r'.Reflects passed (validator.validate r.store.slots data).violations :=
  reflects_recorded { r with events := r.events ++ (validator.validate r.store.slots data).events } _

/-- A validation of data keeps what the validator of the schema says. -/
theorem reflects_of_validate (name : String) (data : Value) :
    (validate name data).Returns r fun passed r' =>
      ∃ validator r₁, getSchema name r = .ok (some validator) r₁ ∧
        r'.Reflects passed (validator.validate r₁.store.slots data).violations := by
  refine .bind fun found r₁ run => ?_
  cases found with
  | none => trivial
  | some validator =>
    exact (reflects_applied validator data).imp fun _ _ reflects => ⟨validator, r₁, run, reflects⟩

theorem reflects_of_validateValue (document : Document) (data : Value) :
    (validateValue document data).Returns r fun passed r' =>
      ∃ validator r₁, compile document r = .ok validator r₁ ∧
        r'.Reflects passed (validator.validate r₁.store.slots data).violations :=
  .bind fun validator r₁ run =>
    (reflects_applied validator data).imp fun _ _ reflects => ⟨validator, r₁, run, reflects⟩

/-! ## Checks of documents -/

theorem reflects_of_validateAgainst (metaSchema : EntryId) (value : Value) (refuse : Bool) :
    (validateAgainst metaSchema value refuse).Returns r fun passed r' =>
      ∃ validator r₁, compileEntry metaSchema r = .ok validator r₁ ∧
        r'.Reflects passed (validator.validate r₁.store.slots value).violations := by
  refine .intro fun passed r' run => ?_
  cases compiled : compileEntry metaSchema r with
  | error e r₁ =>
    unfold validateAgainst at run
    rw [bind_error compiled] at run
    cases run
  | ok validator r₁ =>
    refine ⟨validator, r₁, rfl, ?_⟩
    have kept := reflects_recorded
      { r₁ with events := r₁.events ++ (validator.validate r₁.store.slots value).events }
      (validator.validate r₁.store.slots value).violations
    rw [validateAgainst_eq compiled] at run
    generalize validator.validate r₁.store.slots value = verdict at *
    split at run
    · next empty =>
      cases run
      rw [empty] at kept
      exact kept
    · next some_ =>
      rw [Bool.eq_false_iff.2 some_] at kept
      split at run <;> cases run
      exact kept

theorem reflects_of_missingMeta (strict : r.options.missingMeta = .strict) (name : String)
    (refuse : Bool) :
    (missingMeta name refuse).Returns r fun passed r' => r'.Reflects passed [unknownMeta name] := by
  refine .get_bind ?_
  rw [strict]
  cases refuse with
  | true => trivial
  | false => exact reflects_recorded r [unknownMeta name]

/-- The check of a document keeps what it comes to, if the document is checked. -/
theorem reflects_of_validateSchema {value : Value} (checked : ¬ r.Waives value) (refuse : Bool) :
    (validateSchema value refuse).Returns r fun passed r' =>
      ∃ violations, r.Judges value violations ∧ r'.Reflects passed violations := by
  unfold RegistryM.Returns Judges
  rw [validateSchema_eq]
  cases found : (r.metaOf value).bind r.store.lookup with
  | some entry =>
    exact (reflects_of_validateAgainst entry value refuse).imp
      fun _ _ ⟨validator, r₁, compiled, reflects⟩ => ⟨_, ⟨validator, r₁, compiled, rfl⟩, reflects⟩
  | none =>
    have strict : r.options.missingMeta = .strict := by
      cases policy : r.options.missingMeta with
      | strict => rfl
      | permissive => exact absurd ⟨found, policy⟩ checked
    exact (reflects_of_missingMeta strict _ refuse).imp fun _ _ reflects => ⟨_, rfl, reflects⟩

/-- Otherwise the document counts as valid, and the registry is left as it is. -/
theorem validateSchema_of_waives {value : Value} (waives : r.Waives value) (refuse : Bool) :
    validateSchema value refuse r = .ok true r := by
  obtain ⟨unknown, permissive⟩ := waives
  rw [validateSchema_eq, unknown]
  unfold missingMeta
  rw [RegistryM.get_bind, permissive]
  rfl

/-! ## Runs -/

/-- After any run of operations, a validation that gives an answer leaves what it found, and nothing
    if it found nothing. The one exception is the check of a document that counts as valid because
    its meta-schema is not known: it leaves what there was before. -/
theorem run_reflects (options : Options) (operations : List Operation) :
    let r := (create options).run operations
    (∀ name data passed r', validate name data r = .ok passed r' →
      ∃ validator r₁, getSchema name r = .ok (some validator) r₁ ∧
        r'.Reflects passed (validator.validate r₁.store.slots data).violations) ∧
    (∀ document data passed r', validateValue document data r = .ok passed r' →
      ∃ validator r₁, compile document r = .ok validator r₁ ∧
        r'.Reflects passed (validator.validate r₁.store.slots data).violations) ∧
    ∀ value refuse,
      (¬ r.Waives value → ∀ passed r', validateSchema value refuse r = .ok passed r' →
        ∃ violations, r.Judges value violations ∧ r'.Reflects passed violations) ∧
      (r.Waives value → validateSchema value refuse r = .ok true r) :=
  ⟨fun name data _ _ => (reflects_of_validate name data).of_ok,
    fun document data _ _ => (reflects_of_validateValue document data).of_ok,
    fun _ refuse => ⟨fun checked _ _ => (reflects_of_validateSchema checked refuse).of_ok,
      fun waives => validateSchema_of_waives waives refuse⟩⟩

/-- An asynchronous schema, which refuses all data until they are awaited. -/
def awaiting : Document := ⟨.object [("$async", .bool true)], .given 0⟩

/-- A document with a meta-schema that is not known. -/
def foreign : Value := .object [("$schema", .string "http://nowhere/x")]

/-- What is not known counts as invalid, and documents are taken in without a check. -/
def uncheckedly : Options := { strictly with validateSchema := .disabled }

/-- Data that are refused, and a document that is refused where it is not waived. -/
theorem run_reflects_awaiting :
    let r := (create uncheckedly).run []
    ¬ r.Waives foreign ∧
    (∃ r' violations, validateValue awaiting .null r = .ok false r' ∧
      r'.Reflects false violations) ∧
    ∃ r' violations, validateSchema foreign false r = .ok false r' ∧
      r.Judges foreign violations ∧ r'.Reflects false violations := by
  intro r
  obtain ⟨-, ofValue, ofSchema⟩ := run_reflects uncheckedly []
  have checked : ¬ r.Waives foreign := fun waives => nomatch waives.2
  obtain ⟨r₁, run⟩ : ∃ r', validateValue awaiting .null r = .ok false r' :=
    exists_ok_of_run'_eq (by decide +kernel)
  obtain ⟨r₂, run'⟩ : ∃ r', validateSchema foreign false r = .ok false r' :=
    exists_ok_of_run'_eq (by decide +kernel)
  obtain ⟨_, _, -, reflects⟩ := ofValue _ _ _ _ run
  obtain ⟨violations, judges, reflects'⟩ := (ofSchema _ _).1 checked _ _ run'
  exact ⟨checked, ⟨r₁, _, run, reflects⟩, r₂, violations, run', judges, reflects'⟩

/-- A document counts as valid, and the registry still says what it had against data before. -/
theorem validateSchema_keeps_errors :
    let r := (create permissively).run [.validateValue awaiting .null]
    (validateSchema foreign false).run' r = some true ∧
      ((validateSchema foreign false).after r).errors = some [Validator.needsResolve] ∧
      ((validateSchema foreign false).after r).errorsText =
        "data asynchronous schema must be validated with validate_async" := by
  decide +kernel

end Registry

end JsonSchema
