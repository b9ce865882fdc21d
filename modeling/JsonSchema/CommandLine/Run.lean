import JsonSchema.CommandLine.Help
import JsonSchema.Config.Sources
import JsonSchema.Loader.Files

/-!
# Running the command line

What the command line does is a function of its arguments, the environment and the files.

* `Failure`: why a command ended early.
* `Outcome`: what a command leaves: a code and what it wrote.
* `run`: runs the command line.
* `inputs`, `configuredDirectory`: what has to be in the file tree for that.
-/

namespace JsonSchema.CommandLine

/-- Why a command ended early. -/
inductive Failure where
  | configuration (error : ConfigError)
  | noDirectory
  | reading (file : FilePath) (fault : FileFault)
  /-- The file is no JSON. The explanation is left out. -/
  | parsing (file : FilePath)
  | adding (file : FilePath) (error : SchemaError)
  | compiling (file : FilePath) (error : SchemaError)
  | schema (error : SchemaError)

/-- The text of a failure. -/
def Failure.message : Failure → String
  | configuration _ => "loading configuration"
  | noDirectory => "no refs directory given and none configured"
  | reading file fault => "reading " ++ file.text ++ ": " ++ fault.message
  | parsing file => "parsing " ++ file.text
  | adding file error => "adding " ++ file.text ++ ": " ++ error.message
  | compiling file error => "compiling " ++ file.text ++ ": " ++ error.message
  | schema error => error.message

/-- What a command works with. -/
structure Work where
  tree : FileTree
  loading : Loading Unit
  /-- The lines written so far, latest first. -/
  lines : List String := []
  /-- How many documents were read. -/
  documents : Nat := 0

/-- A command in progress. What it wrote stays written when it fails. -/
abbrev RunM := EStateM Failure Work

/-- Writes a line. -/
def line (text : String) : RunM Unit := modify fun w => { w with lines := text :: w.lines }

/-- An operation that may load documents. -/
def load {α : Type} (failure : SchemaError → Failure) (operation : LoadM Unit α) : RunM α :=
  fun work =>
    match operation.run work.loading with
    | .ok a loading => .ok a { work with loading }
    | .error e loading => .error (failure e) { work with loading }

/-- An operation on the registry. -/
def onRegistry {α : Type} (failure : SchemaError → Failure) (operation : RegistryM α) : RunM α :=
  load failure (Loading.onRegistry operation)

/-! ## Files -/

/-- The JSON files that paths stand for, in order. -/
def jsonFiles (tree : FileTree) (paths : List FilePath) : List FilePath :=
  ((paths.flatMap tree.below).filter fun file => file.extension? = some "json").mergeSort
    FilePath.le

/-- The value in a file. -/
def readJson (file : FilePath) : RunM Value := do
  match (← get).tree.read file with
  | .error fault => throw (.reading file fault)
  | .ok content =>
    match Json.parse? content with
    | some value => return value
    | none => throw (.parsing file)

/-- The document in a file. -/
def readDocument (file : FilePath) : RunM Document := do
  let value ← readJson file
  let number := (← get).documents
  modify fun w => { w with documents := number + 1 }
  return { value, identity := .given number }

/-- The name of a file below a directory. -/
def nameBelow (directory file : FilePath) : String :=
  match file.below? directory with
  | some steps =>
    let names := steps.filterMap fun
      | .down name => some name
      | _ => none
    String.ofList (("/".intercalate names).toList.map fun c => if c = '\\' then '/' else c)
  | none => file.text

/-! ## Commands -/

/-- Checks the documents in files against their meta-schemas. -/
def check (paths : List FilePath) : RunM Bool := do
  let files := jsonFiles (← get).tree paths
  files.foldlM
    (fun allValid file => do
      let value ← readJson file
      if ← onRegistry .schema (Registry.validateSchema value false) then
        line ("✅ " ++ file.text)
        return allValid
      else
        line ("❌ " ++ file.text)
        line ("   " ++ (← get).loading.registry.errorsText)
        return false)
    true

/-- Takes in the schemas in a directory, under the names of their files unless they have
    an identifier. -/
def addRefs (directory : FilePath) : RunM Unit := do
  for file in jsonFiles (← get).tree [directory] do
    let document ← readDocument file
    let key := if (document.value.member? "$id").isSome then none
      else some (nameBelow directory file)
    let _ ← onRegistry (.adding file) (Registry.addSchema document key)

/-- The line of a violation. -/
def violationLine (violation : Violation) : String :=
  "   └─ " ++ Violations.text [violation] "data" ++ " (" ++ violation.schemaPath ++ ")"

/-- Validates the data in files. -/
def validateFiles (validator : Validator) (files : List FilePath) : RunM Bool :=
  files.foldlM
    (fun allValid file => do
      let data ← readJson file
      let violations := (validator.validate (← get).loading.registry.store.slots data).violations
      if violations.isEmpty then
        line ("✅ " ++ file.text)
        return allValid
      else
        line ("❌ " ++ file.text)
        violations.forM fun violation => line (violationLine violation)
        return false)
    true

/-- Validates data against a schema. -/
def validate (schema : FilePath) (refs : Option FilePath) (data : List FilePath) : RunM Bool := do
  refs.forM addRefs
  let document ← readDocument schema
  let validator ← onRegistry (.compiling schema) (Registry.compile document)
  validateFiles validator data

/-- The loader that a command or a configuration names. -/
def fileLoader (config : LoaderConfig) (refs : Option FilePath) (baseUri : Option String) :
    Except Failure FileLoader :=
  let loader := (refs.map fun directory => ({ directory } : FileLoader)) <|> config.fileLoader?
  match loader with
  | some loader =>
    .ok { loader with baseUri := baseUri <|> config.baseUri <|> loader.baseUri }
  | none => .error .noDirectory

/-- How often missing documents are loaded at most: more often than all files have
    characters no document can be missing for a new reason. -/
def rounds (tree : FileTree) : Nat :=
  (tree.files.map fun (_, content) => content.length).foldl (· + ·) 0 + 2

/-- Compiles a schema and loads what it refers to. -/
def compile (loader : FileLoader) (schema : FilePath) : RunM Bool := do
  let document ← readDocument schema
  let tree := (← get).tree
  let validator ← load (.compiling schema)
    (Loading.compile (loader.toLoader tree) document (rounds tree))
  line ("✅ " ++ schema.text ++ " compiled (" ++ validator.entry.text ++ ")")
  return true

/-- Runs a command under a configuration. -/
def Command.run (config : SchemaConfig) : Command → RunM Bool
  | .check paths => CommandLine.check (paths.map FilePath.ofString)
  | .validate schema refs data =>
    CommandLine.validate (FilePath.ofString schema) (refs.map FilePath.ofString)
      (data.map FilePath.ofString)
  | .compile schema refs baseUri => do
    match fileLoader config.loader (refs.map FilePath.ofString) baseUri with
    | .ok loader => CommandLine.compile loader (FilePath.ofString schema)
    | .error failure => throw failure

/-! ## The whole -/

/-- What a command leaves. -/
structure Outcome where
  /-- Zero if all went well, one if something is not valid, two if the command ended
      early. -/
  code : Nat
  /-- What was written. -/
  output : String
  failure : Option Failure := none

/-- The outcome of a command that ran. -/
def Outcome.ofResult (result : EStateM.Result Failure Work Bool) : Outcome :=
  let written (work : Work) : String := String.join (work.lines.reverse.map (· ++ "\n"))
  match result with
  | .ok allValid work => { code := if allValid then 0 else 1, output := written work }
  | .error failure work => { code := 2, output := written work, failure := some failure }

/-- The texts of the paths that a command names. -/
def Command.paths : Command → List String
  | .check paths => paths
  | .validate schema refs data => schema :: refs.toList ++ data
  | .compile schema refs _ => schema :: refs.toList

/-- The files and directories that have to be looked at for some arguments, apart from
    what a configuration names. -/
def inputs (arguments : List String) : List FilePath :=
  match Invocation.parse arguments with
  | .ok invocation =>
    let named := invocation.config.toList.map FilePath.ofString
    let configs := ConfigSource.usualPlaces ++ named
    configs ++ (configs.flatMap fun path => ConfigFormat.all.map (path.addExtension ·.extension)) ++
      invocation.command.paths.map FilePath.ofString
  | .error _ => []

/-- The directory of documents that the configuration names. -/
def configuredDirectory (tree : FileTree) (environment : Environment) (arguments : List String) :
    Option FilePath :=
  match Invocation.parse arguments with
  | .ok invocation =>
    match SchemaConfig.load tree environment (invocation.config.map FilePath.ofString) with
    | .ok config => config.loader.schemaDir.map FilePath.ofString
    | .error _ => none
  | .error _ => none

/-- Runs the command line. -/
def run (tree : FileTree) (environment : Environment) (arguments : List String) : Outcome :=
  match Invocation.parse arguments with
  | .error .usage => { code := 2, output := "" }
  | .error (.help topic) => { code := 0, output := topic.text }
  | .ok invocation =>
    match SchemaConfig.load tree environment (invocation.config.map FilePath.ofString) with
    | .error e => { code := 2, output := "", failure := some (.configuration e) }
    | .ok config =>
      let options := config.options
      let options := { options with allErrors := options.allErrors || invocation.allErrors }
      let work : Work := { tree, loading := { registry := .create options, source := () } }
      .ofResult ((invocation.command.run config).run work)

end JsonSchema.CommandLine
