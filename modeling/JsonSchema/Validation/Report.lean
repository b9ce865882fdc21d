import JsonSchema.Event
import JsonSchema.Node
import JsonSchema.Pointer
import JsonSchema.Violation

/-!
# Reports

What applying a compiled schema to data gives, and how the reports of parts are put
together.

* `Scope`: where in the data and in the schema a part is applied.
* `Report`: a verdict, violations, tests to be done later and a trace.
* `Report.concat`: the report of several parts that all have to hold.
* `Report.runUntil`: the reports of parts one after the other, up to a number of stops.
-/

namespace JsonSchema

/-- A test whose outcome is known only later. -/
structure DeferredTest where
  keyword : String
  dataPath : String
  schemaPath : String
  test : Value → Bool
  data : Value

/-- Where a part of a schema is applied. -/
structure Scope where
  /-- Whether everything is to be found, and not only the first violation. -/
  allErrors : Bool
  /-- The steps from the whole of the data to the part at hand, the last one first. -/
  path : List String := []
  /-- The name and the place of the keyword at hand. -/
  current : Option (String × String) := none
  /-- The references followed since the last step into the data. -/
  hops : Nat := 0

namespace Scope

/-- The pointer to the part of the data at hand. -/
def dataPath (scope : Scope) : String := Pointer.ofSegments scope.path.reverse

/-- The place of the keyword at hand; the whole schema if there is none. -/
def schemaPath (scope : Scope) : String := (scope.current.map (·.2)).getD "#"

/-- The name of the keyword at hand; empty if there is none. -/
def keyword (scope : Scope) : String := (scope.current.map (·.1)).getD ""

/-- One step into the data. -/
def below (scope : Scope) (step : String) : Scope :=
  { scope with path := step :: scope.path, hops := 0 }

/-- At a keyword. -/
def within {α : Type} (scope : Scope) (rule : Rule α) : Scope :=
  { scope with current := some (rule.keyword, rule.schemaPath) }

/-- One reference further. -/
def hop (scope : Scope) : Scope := { scope with hops := scope.hops + 1 }

/-- A violation of the keyword at hand. -/
def violation (scope : Scope) (objection : Objection) : Violation where
  keyword := scope.keyword
  dataPath := scope.dataPath
  schemaPath := scope.schemaPath
  message := objection.message
  params := objection.params

end Scope

/-- What applying a schema to data gives. -/
structure Report where
  valid : Bool
  violations : Violations := []
  deferred : List DeferredTest := []
  events : List Event := []

namespace Report

/-- Nothing to say. -/
def pass : Report := { valid := true }

/-- One violation. -/
def fail (violation : Violation) : Report := { valid := false, violations := [violation] }

/-- The verdict and the trace, without violations and deferred tests. -/
def discard (report : Report) : Report := { report with violations := [], deferred := [] }

/-- The report with one more violation, and the verdict that goes with it. -/
def refuse (report : Report) (violation : Violation) : Report :=
  { report with valid := false, violations := report.violations ++ [violation] }

/-- Two reports of parts that both have to hold. -/
def append (a b : Report) : Report where
  valid := a.valid && b.valid
  violations := a.violations ++ b.violations
  deferred := a.deferred ++ b.deferred
  events := a.events ++ b.events

instance : Append Report := ⟨append⟩

/-- The reports of parts that all have to hold. -/
def concat (reports : List Report) : Report := reports.foldr append pass

/-- The traces of several reports alone, with a verdict. -/
def traces (verdict : Bool) (reports : List Report) : Report :=
  { (concat reports).discard with valid := verdict }

/-- The report of objections to the data at hand; without `allErrors` only the first
    objection counts. -/
def ofObjections (scope : Scope) (objections : List Objection) : Report where
  valid := objections.isEmpty
  violations :=
    (if scope.allErrors then objections else objections.take 1).map scope.violation

/-- Runs on the parts in order until `n` reports satisfy `stop`. -/
def runUntil {α : Type} (stop : Report → Bool) (n : Nat) (parts : List α) (run : α → Report) :
    List Report :=
  match n, parts with
  | 0, _ => []
  | _, [] => []
  | n + 1, part :: rest =>
    let report := run part
    report :: runUntil stop (if stop report then n else n + 1) rest run

/-- The report of parts that all have to hold; without `allErrors` the first part that
    does not hold is the last. -/
def all {α : Type} (allErrors : Bool) (parts : List α) (run : α → Report) : Report :=
  concat (if allErrors then parts.map run else runUntil (!·.valid) 1 parts run)

end Report

end JsonSchema
