import JsonSchema.Compilation.Basic

/-!
# Compiling keywords

How the values of the built-in keywords, and of those put together from parts, become
checks.

* `Assertion.of?`: the assertion of a keyword that applies no subschema.
* `Builtin.compile`: the check of a built-in keyword.
* `Extension.compile`: the check of a keyword that is put together from parts.
-/

namespace JsonSchema

/-! ## Values -/

/-- The strings of an array of strings. -/
def Value.asStrings? (value : Value) : Option (List String) :=
  value.asArray?.bind fun items => items.mapM Value.asString?

/-- A count: an unsigned integer, or a double that is a nonnegative integer. The largest
    doubles count as the largest unsigned integer. -/
def Value.asCount? (value : Value) : Option Nat :=
  value.asNumber?.bind fun n =>
    n.toUnsigned? <|>
      let x := n.toDouble
      if (Double.zero false).le x && x.isIntegral then some (min x.floorMagnitude (Nat.pow 2 64 - 1))
      else none

/-- The pattern of a text, or the fault of a keyword that has it as a value. -/
def Pattern.ofValue (text : String) : Except Fault Pattern :=
  (Pattern.parse text).mapError .pattern

/-- The patterns that the members of an object are named by. -/
def Members.patterns (members : Members) : Except Fault (List Pattern) :=
  members.mapM fun (name, _) => (Pattern.parse name).mapError (.memberPattern name)

/-- A part of a value, or the fault of a value of another shape. -/
def Shape.expect {α : Type} (shape : Shape) : Option α → Except Fault α
  | some a => .ok a
  | none => .error (.shape shape)

/-! ## Assertions -/

namespace AssertionKind

/-- The names of kinds in the value of a keyword. -/
def kindNames : Value → Except Fault (List String)
  | .string name => .ok [name]
  | .array values =>
    match values.mapM Value.asString? with
    | some names => .ok names
    | none => .error .kindNames
  | _ => .error (.shape .stringOrStrings)

/-- The kind of a name. -/
def kindNamed (name : String) : Except Fault Kind :=
  match Kind.ofName? name with
  | some kind => .ok kind
  | none => .error (.unknownKind name)

/-- The assertion of a keyword with a value. -/
def compile (kind : AssertionKind) (value : Value) : Except Fault Assertion := do
  match kind with
  | kinds =>
    let names ← kindNames value
    return .kinds (← names.mapM kindNamed) (",".intercalate names)
  | among => return .among (← Shape.array.expect value.asArray?)
  | equal => return .equal value
  | bound b => return .bound b (← Shape.number.expect value.asNumber?).toDouble
  | multiple =>
    let divisor ← Shape.number.expect value.asNumber?
    if divisor.toDouble.le (Double.zero false) then throw (.shape .positive)
    return .multiple divisor
  | least measure => return .least measure (← Shape.count.expect value.asCount?)
  | most measure => return .most measure (← Shape.count.expect value.asCount?)
  | pattern =>
    let text ← Shape.string.expect value.asString?
    return .pattern text (← Pattern.ofValue text)
  | unique => return .unique (← Shape.boolean.expect value.asBool?)
  | required => return .required (← Shape.strings.expect value.asStrings?)

end AssertionKind

namespace Occurrence

/-- A result, or the failure of the keyword with a fault. -/
def lift {α : Type} (occurrence : Occurrence) : Except Fault α → CompileM α
  | .ok a => pure a
  | .error fault => occurrence.fail fault

/-- The members of the value, which has to be an object. -/
def members (occurrence : Occurrence) : CompileM Members :=
  occurrence.lift (Shape.object.expect occurrence.value.asObject?)

/-- The members of the value of another keyword of the schema, if it is an object. -/
def membersAt (occurrence : Occurrence) (keyword : String) : Members :=
  ((occurrence.siblings.get? keyword).bind Value.asObject?).getD []

/-- Compiles the value. -/
def schema (occurrence : Occurrence) (compile : SchemaCompiler) : CompileM Node :=
  occurrence.subschema compile occurrence.value []

/-- Compiles a list of schemas in the value. -/
def schemas (occurrence : Occurrence) (compile : SchemaCompiler) (values : List Value) :
    CompileM (List Node) :=
  values.zipIdx.mapM fun (schema, i) => occurrence.subschema compile schema [toString i]

/-- Compiles the value, which has to be a list of one or more schemas. -/
def alternatives (occurrence : Occurrence) (compile : SchemaCompiler) : CompileM (List Node) := do
  let values ← occurrence.lift
    (Shape.schemas.expect (occurrence.value.asArray?.filter (!·.isEmpty)))
  occurrence.schemas compile values

/-- The dependency that a member of the value states. -/
def dependency (occurrence : Occurrence) (compile : SchemaCompiler) (property : String) :
    Value → CompileM (Dependency Node)
  | .array values =>
    match values.mapM Value.asString? with
    | some names => pure (.names names)
    | none => occurrence.fail .dependencyNames
  | schema => return .schema (← occurrence.subschema compile schema [property])

end Occurrence

/-! ## Applicators -/

/-- The check of a keyword that applies subschemas. -/
def Applicator.compile (applicator : Applicator) (compile : SchemaCompiler) (o : Occurrence) :
    CompileM Check := do
  match applicator with
  | properties =>
    let schemas ← (← o.members).mapM fun (name, schema) =>
      return (name, ← o.subschema compile schema [name])
    return .properties (schemas.filter (!·.2.isTrivial))
  | patternProperties =>
    let members ← o.members
    let patterns ← o.lift members.patterns
    let schemas ← members.mapM fun (name, schema) => o.subschema compile schema [name]
    return .patternProperties (patterns.zip schemas)
  | additionalProperties =>
    let patterns ← o.lift (o.membersAt "patternProperties").patterns
    return .additionalProperties (o.membersAt "properties").names patterns (← o.schema compile)
  | propertyNames => return .propertyNames (← o.schema compile)
  | dependencies =>
    let dependencies ← (← o.members).mapM fun (property, value) =>
      return (property, ← o.dependency compile property value)
    return .dependencies dependencies
  | items =>
    match o.value with
    | .array values => return .tuple (← o.schemas compile values)
    | _ => return .eachItem (← o.schema compile)
  | additionalItems =>
    -- only beside a list of schemas for the first items
    match (o.siblings.get? "items").bind Value.asArray? with
    | some values => return .additionalItems values.length (← o.schema compile)
    | none => return .apply (.always true)
  | contains => return .contains (← o.schema compile)
  | allOf => return .allOf (← o.alternatives compile)
  | anyOf => return .anyOf (← o.alternatives compile)
  | oneOf => return .oneOf (← o.alternatives compile)
  | not => return .not (← o.schema compile)
  | conditional =>
    let condition ← o.schema compile
    let yes ← o.sibling compile "then"
    let no ← o.sibling compile "else"
    if yes.isNone && no.isNone then return .apply (.always true)
    return .conditional condition yes no

/-! ## All keywords -/

namespace Builtin

/-- The check of the format that the value names. -/
def compileFormat (compiler : Compiler) (o : Occurrence) : CompileM Check := do
  let name ← o.lift (Shape.string.expect o.value.asString?)
  match FormatTable.get? compiler.formats name with
  | some found => return .assertion (.format name found)
  | none =>
    match (compiler.optionsAt o.place).unknownFormats with
    | .fail => throw (.unknownFormat name)
    | .ignore => return .apply (.always true)

/-- The check of a built-in keyword. -/
def compile (meaning : Builtin) (compiler : Compiler) (compile : SchemaCompiler)
    (o : Occurrence) : CompileM Check :=
  match meaning with
  | asserts kind => .assertion <$> o.lift (kind.compile o.value)
  | applies applicator => applicator.compile compile o
  | format => compileFormat compiler o

end Builtin

/-- The check of a keyword that is put together from parts. -/
def Extension.compile (meaning : Extension) (compiler : Compiler) (compile : SchemaCompiler)
    (o : Occurrence) : CompileM Check := do
  match meaning with
  | .remark message params accepts => return .remark ⟨message, params⟩ accepts
  | .children => return .children (← o.subschema compile o.value ["child/0"])
  | .verdict => return .verdict (← o.schema compile)
  | .sibling keyword => return .apply ((← o.sibling compile keyword).getD (.always true))
  | .below => return .beneath ["a/b~c", "7"] "deep"
  | .refuse message => o.fail (.refused message)
  | .format =>
    match (o.value.asString?).bind (FormatTable.get? compiler.formats) with
    | some found =>
      return .predicate (fun data => (data.asString?.map found.accepts).getD true) false
    | none => return .predicate (fun _ => false) false
  | .probe preview =>
    let node ← if preview then some <$> o.schema compile else pure none
    let options := compiler.optionsAt o.place
    Compilation.trace
      [.compiled o.keyword.name o.schemaPath o.value o.siblings.names options.useDefaults
        options.coerceTypes options.removeAdditional
        (node.map fun n => (n.isTrivial, n.describe))]
    return .probe

end JsonSchema
