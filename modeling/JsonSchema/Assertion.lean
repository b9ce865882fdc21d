import JsonSchema.Format
import JsonSchema.Json.Equality
import JsonSchema.Keyword

/-!
# Assertions

An assertion is a compiled keyword that looks at a value without applying subschemas.

* `Objection`: what is said against a value.
* `Assertion`: the assertions of the built-in keywords.
* `Assertion.objections`: everything an assertion says against a value; it holds when
  there is nothing to say.
-/

namespace JsonSchema

/-- What is said against a value, with details. -/
structure Objection where
  message : String
  params : Value
deriving DecidableEq

/-! ## Numbers -/

namespace Bound

/-- The comparison with the limit that a number has to satisfy. -/
def comparison : Bound → String
  | minimum => ">="
  | maximum => "<="
  | exclusiveMinimum => ">"
  | exclusiveMaximum => "<"

/-- Whether the limit itself is refused. -/
def isExclusive : Bound → Bool
  | minimum | maximum => false
  | exclusiveMinimum | exclusiveMaximum => true

/-- Whether a number keeps to the limit. -/
def holds (bound : Bound) (x limit : Double) : Bool :=
  match bound with
  | minimum => limit.le x
  | maximum => x.le limit
  | exclusiveMinimum => limit.lt x
  | exclusiveMaximum => x.lt limit

end Bound

/-- Whether a number is a multiple of a divisor. A signed integer and an unsigned divisor
    are divided exactly; otherwise the rounded quotient has to be an integer, which it is
    not when it is too large. -/
def Number.isMultiple (n divisor : Number) : Bool :=
  match n.toSigned?, divisor.toUnsigned? with
  | some i, some d => i.natAbs % d == 0
  | _, _ =>
    match n.toDouble.div divisor.toDouble with
    | some quotient => quotient.isIntegral
    | none => false

/-! ## Sizes -/

namespace Measure

/-- How much of what is counted a value has; `none` if it is not counted in the value. -/
def of? : Measure → Value → Option Nat
  | characters, .string text => some text.length
  | items, .array values => some values.length
  | properties, .object members => some members.length
  | _, _ => none

/-- What is said about a value with too little. -/
def tooFew (limit : Nat) : Measure → String
  | characters => "should NOT be shorter than " ++ toString limit ++ " characters"
  | items => "should NOT have fewer than " ++ toString limit ++ " items"
  | properties => "should NOT have fewer than " ++ toString limit ++ " properties"

/-- What is said about a value with too much. -/
def tooMany (limit : Nat) : Measure → String
  | characters => "should NOT be longer than " ++ toString limit ++ " characters"
  | items => "should NOT have more than " ++ toString limit ++ " items"
  | properties => "should NOT have more than " ++ toString limit ++ " properties"

end Measure

/-! ## Duplicates -/

/-- The positions of two equivalent items: of the last item that has an equivalent one
    before it, and of the nearest such. The items are given in reverse. -/
def Value.duplicates? : List Value → Option (Nat × Nat)
  | [] => none
  | last :: earlier =>
    match earlier.findIdx? fun item => last.equiv item with
    | some back => some (earlier.length - 1 - back, earlier.length)
    | none => duplicates? earlier

/-! ## Assertions -/

/-- A compiled keyword that applies no subschema. -/
inductive Assertion where
  /-- The value is of one of the kinds, which are named for the message. -/
  | kinds (kinds : List Kind) (names : String)
  | among (allowed : List Value)
  | equal (expected : Value)
  | bound (bound : Bound) (limit : Double)
  | multiple (divisor : Number)
  | least (measure : Measure) (limit : Nat)
  | most (measure : Measure) (limit : Nat)
  | pattern (text : String) (pattern : Pattern)
  /-- No two items are equivalent, if that is wanted. -/
  | unique (wanted : Bool)
  | required (names : List String)
  | format (name : String) (format : Format)

namespace Assertion

/-- An objection unless a condition holds. -/
def objectionUnless (holds : Bool) (message : String) (params : List (String × Value)) :
    List Objection :=
  if holds then [] else [⟨message, .ofMembers params⟩]

/-- What the assertion says against a value. -/
def objections (assertion : Assertion) (data : Value) : List Objection :=
  match assertion with
  | kinds ks names =>
    objectionUnless (ks.any (·.holds data)) ("should be " ++ names) [("type", .string names)]
  | among allowed =>
    objectionUnless (allowed.any (·.equiv data)) "should be equal to one of the allowed values"
      [("allowedValues", .array allowed)]
  | equal expected =>
    objectionUnless (expected.equiv data) "should be equal to constant" [("allowedValue", expected)]
  | bound b limit =>
    match data with
    | .number n =>
      objectionUnless (b.holds n.toDouble limit)
        ("should be " ++ b.comparison ++ " " ++ limit.text .message)
        [("comparison", .string b.comparison), ("limit", .number (.double limit)),
         ("exclusive", .bool b.isExclusive)]
    | _ => []
  | multiple divisor =>
    match data with
    | .number n =>
      objectionUnless (n.isMultiple divisor)
        ("should be multiple of " ++ divisor.toDouble.text .message)
        [("multipleOf", .number (.double divisor.toDouble))]
    | _ => []
  | least measure limit =>
    match measure.of? data with
    | some n => objectionUnless (limit ≤ n) (measure.tooFew limit) [("limit", .ofNat limit)]
    | none => []
  | most measure limit =>
    match measure.of? data with
    | some n => objectionUnless (n ≤ limit) (measure.tooMany limit) [("limit", .ofNat limit)]
    | none => []
  | pattern text p =>
    match data with
    | .string s =>
      objectionUnless (p.occursIn s) ("should match pattern \"" ++ text ++ "\"") [("pattern", .string text)]
    | _ => []
  | unique false => []
  | unique true =>
    match data with
    | .array items =>
      match Value.duplicates? items.reverse with
      | some (j, i) =>
        [⟨"should NOT have duplicate items (items ## " ++ toString j ++ " and " ++ toString i ++
            " are identical)", .ofMembers [("i", .ofNat i), ("j", .ofNat j)]⟩]
      | none => []
    | _ => []
  | required names =>
    match data with
    | .object members =>
      (names.filter (!Members.contains members ·)).map fun name =>
        ⟨"should have required property '" ++ name ++ "'",
          .ofMembers [("missingProperty", .string name)]⟩
    | _ => []
  | format name f =>
    match data with
    | .string s =>
      objectionUnless (f.accepts s) ("should match format \"" ++ name ++ "\"") [("format", .string name)]
    | _ => []

/-- Whether the assertion has nothing to say against a value. -/
def holds (assertion : Assertion) (data : Value) : Bool := (assertion.objections data).isEmpty

end Assertion

end JsonSchema
