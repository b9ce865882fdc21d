/-!
# Arguments of the command line

The arguments name a command. Options stand before the operands of the command or between
them; two dashes end the options.

* `Invocation`: what the arguments ask for.
* `Invocation.parse`: reads arguments; a refusal says what is shown instead.
-/

namespace JsonSchema.CommandLine

/-- What the command line does. -/
inductive Command where
  /-- Checks documents against their meta-schemas. -/
  | check (paths : List String)
  /-- Validates data against a schema. -/
  | validate (schema : String) (refs : Option String) (data : List String)
  /-- Compiles a schema and loads what it refers to. -/
  | compile (schema : String) (refs baseUri : Option String)
deriving DecidableEq, Repr

/-- What the arguments ask for. -/
structure Invocation where
  /-- The file with the configuration. -/
  config : Option String
  /-- Whether every violation is reported. -/
  allErrors : Bool
  command : Command
deriving DecidableEq, Repr

/-- What help is about. -/
inductive Topic where
  | general
  | check
  | validate
  | compile
deriving DecidableEq, Repr

/-- Why the arguments name no command. -/
inductive Refusal where
  /-- They are not of the right form. -/
  | usage
  /-- They ask for help. -/
  | help (topic : Topic)
deriving DecidableEq, Repr

/-! ## Options -/

/-- What stands behind the name of an option. -/
inductive Operand where
  /-- Nothing. -/
  | absent
  /-- Any text. -/
  | text
  /-- A path, which is not empty. -/
  | path
deriving DecidableEq, Repr

/-- An option. -/
structure OptionForm where
  short : Option Char
  long : String
  operand : Operand
deriving DecidableEq, Repr

/-- What was found among the arguments: options with what stands behind them, and the
    other arguments. -/
structure Found where
  options : List (String × String) := []
  operands : List String := []
deriving Repr

namespace Found

/-- What stands behind an option. -/
def get? (found : Found) (long : String) : Option String := found.options.lookup long

/-- Whether an option is there. -/
def has (found : Found) (long : String) : Bool := (found.get? long).isSome

/-- Adds an option, which may be there only once. -/
def add (found : Found) (form : OptionForm) (text : String) : Except Refusal Found :=
  if found.has form.long || (form.operand = .path && text.isEmpty) then .error .usage
  else .ok { found with options := found.options ++ [(form.long, text)] }

end Found

/-- Whether an argument looks like an option. A single dash does not. -/
def isOption (word : String) : Bool := word.startsWith "-" && word ≠ "-"

/-- The options that a command knows, and what its help is about. -/
structure Grammar where
  topic : Topic
  forms : List OptionForm
  /-- Whether the options end at the first other argument. -/
  stops : Bool := false

namespace Grammar

/-- The name of a long option and what is attached to it. -/
def attached (word : List Char) : String × Option String :=
  match word.dropWhile (· ≠ '=') with
  | _ :: value => (String.ofList (word.takeWhile (· ≠ '=')), some (String.ofList value))
  | [] => (String.ofList word, none)

/-- The option that an argument names, and what is attached to its name. -/
def option (grammar : Grammar) (word : List Char) : Except Refusal (OptionForm × Option String) :=
  let known (form? : Option OptionForm) (value : Option String) :=
    match form? with
    | some form => .ok (form, value)
    | none => .error .usage
  match word with
  | '-' :: '-' :: rest =>
    let (name, value) := attached rest
    if name = "help" then .error (if value.isNone then .help grammar.topic else .usage)
    else known (grammar.forms.find? (·.long = name)) value
  | '-' :: letter :: rest =>
    if letter = 'h' then .error (.help grammar.topic)
    else
      known (grammar.forms.find? (·.short = some letter)) <|
        match rest with
        | [] => none
        | '=' :: value => some (String.ofList value)
        | value => some (String.ofList value)
  | _ => .error .usage

/-- Reads arguments. `pending` is the option that the next argument belongs to. -/
def scan (grammar : Grammar) (pending : Option OptionForm) (found : Found) :
    List String → Except Refusal Found
  | [] => if pending.isSome then .error .usage else .ok found
  | word :: rest =>
    match pending with
    | some form =>
      if isOption word then .error .usage
      else do grammar.scan none (← found.add form word) rest
    | none =>
      if word = "--" then
        if grammar.stops then .error .usage
        else .ok { found with operands := found.operands ++ rest }
      else if !isOption word then
        if grammar.stops then .ok { found with operands := word :: rest }
        else grammar.scan none { found with operands := found.operands ++ [word] } rest
      else do
        match ← grammar.option word.toList with
        | (form, none) =>
          if form.operand = .absent then grammar.scan none (← found.add form "") rest
          else grammar.scan (some form) found rest
        | (form, some value) =>
          if form.operand = .absent then .error .usage
          else grammar.scan none (← found.add form value) rest

end Grammar

/-! ## Commands -/

/-- The options before the command. -/
def generalGrammar : Grammar where
  topic := .general
  forms := [⟨some 'c', "config", .text⟩, ⟨none, "all-errors", .absent⟩]
  stops := true

/-- The options of the check of documents. -/
def checkGrammar : Grammar where
  topic := .check
  forms := []

/-- The options of the validation of data. -/
def validateGrammar : Grammar where
  topic := .validate
  forms := [⟨some 's', "schema", .path⟩, ⟨some 'r', "refs", .path⟩]

/-- The options of the compilation of schemas. -/
def compileGrammar : Grammar where
  topic := .compile
  forms := [⟨some 's', "schema", .path⟩, ⟨some 'r', "refs", .path⟩, ⟨none, "base-uri", .text⟩]

/-- The operands of a command, which are paths. There must be at least one. -/
def paths (found : Found) : Except Refusal (List String) :=
  if found.operands.isEmpty || found.operands.any (·.isEmpty) then .error .usage
  else .ok found.operands

/-- The schema that a command names. -/
def schema (found : Found) : Except Refusal String :=
  match found.get? "schema" with
  | some path => .ok path
  | none => .error .usage

/-- The help that is asked for by words. -/
def helpTopic : List String → Refusal
  | [] => .help .general
  | ["check"] => .help .check
  | ["validate"] => .help .validate
  | ["compile"] => .help .compile
  | ["help"] => .help .general
  | _ => .usage

/-- Reads the name of a command and its arguments. -/
def Command.parse : List String → Except Refusal Command
  | "check" :: rest => do return .check (← paths (← checkGrammar.scan none {} rest))
  | "validate" :: rest => do
    let found ← validateGrammar.scan none {} rest
    return .validate (← schema found) (found.get? "refs") (← paths found)
  | "compile" :: rest => do
    let found ← compileGrammar.scan none {} rest
    if !found.operands.isEmpty then throw .usage
    return .compile (← schema found) (found.get? "refs") (found.get? "base-uri")
  | "help" :: rest => .error (helpTopic rest)
  | _ => .error .usage

/-- Reads arguments. -/
def Invocation.parse (arguments : List String) : Except Refusal Invocation := do
  let found ← generalGrammar.scan none {} arguments
  let command ← Command.parse found.operands
  return { config := found.get? "config", allErrors := found.has "all-errors", command }

end JsonSchema.CommandLine
