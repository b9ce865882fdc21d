import JsonSchema.Validation.Run

/-!
# Validators

A validator names a compiled entry. It reads the table at the time of use, so it follows
what becomes of the entry after it was made.

* `Validator.validate`: the violations of data, none if the data is valid.
* `Validator.resolve`: the same after all deferred tests are done.
-/

namespace JsonSchema

/-- A compiled entry that can be applied to data. -/
structure Validator where
  entry : EntryId
  /-- Whether the schema is asynchronous. -/
  isAsync : Bool
  allErrors : Bool
deriving DecidableEq

/-- The violations of data, with the trace of finding them. -/
structure Verdict where
  violations : Violations
  events : List Event := []

namespace DeferredTest

/-- The violation of a test that failed. -/
def violation (test : DeferredTest) : Violation where
  keyword := test.keyword
  dataPath := test.dataPath
  schemaPath := test.schemaPath
  message := "should pass \"" ++ test.keyword ++ "\" keyword validation"
  params := .ofMembers [("keyword", .string test.keyword)]

/-- Does tests in order; without `allErrors` the first one that fails is the last. -/
def settle (allErrors : Bool) : List DeferredTest → Verdict
  | [] => { violations := [] }
  | t :: rest =>
    let event := Event.awaited t.keyword t.data
    if t.test t.data then
      let verdict := settle allErrors rest
      { verdict with events := event :: verdict.events }
    else if allErrors then
      let verdict := settle allErrors rest
      { violations := t.violation :: verdict.violations, events := event :: verdict.events }
    else { violations := [t.violation], events := [event] }

end DeferredTest

namespace Validator

/-- The violation that stands for using an asynchronous schema synchronously. -/
def needsResolve : Violation where
  keyword := "$async"
  dataPath := ""
  schemaPath := "#/$async"
  message := "asynchronous schema must be validated with validate_async"
  params := .ofMembers []

/-- The report of the entry, whether it is asynchronous or not. -/
def run (validator : Validator) (table : SlotTable) (data : Value) : Report :=
  (Node.ref validator.entry "#").run table data { allErrors := validator.allErrors }

/-- The violations of data. An asynchronous schema refuses all data here. -/
def validate (validator : Validator) (table : SlotTable) (data : Value) : Verdict :=
  if validator.isAsync then { violations := [needsResolve] }
  else
    let report := validator.run table data
    { violations := report.violations, events := report.events }

/-- The violations of data after all deferred tests are done. Without `allErrors` they are
    not even begun if there is a violation already. -/
def resolve (validator : Validator) (table : SlotTable) (data : Value) : Verdict :=
  let report := validator.run table data
  if validator.allErrors || report.violations.isEmpty then
    let settled := DeferredTest.settle validator.allErrors report.deferred
    { violations := report.violations ++ settled.violations
      events := report.events ++ settled.events }
  else { violations := report.violations, events := report.events }

end Validator

end JsonSchema
