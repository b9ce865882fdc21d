import JsonSchema.Config.Basic
import JsonSchema.Setting
import JsonSchema.Text.Quoted

/-!
# Reading configurations

Settings come from JSON documents, from files and from the environment. The sources write
them in different forms, but they mean the same.

* `SettingForm`: how the settings of a source are written.
* `SchemaConfig.read`: the configuration in a source.
* `SettingForm.json`: the form of JSON documents.
* `SettingForm.settings`: the form of files and the environment.
-/

namespace JsonSchema

/-- Why there is no configuration. -/
inductive ConfigError where
  /-- The source has another form. The explanation is left out. -/
  | malformed
  /-- The check of documents has no setting of this name. -/
  | schemaChecking (name : String)
deriving DecidableEq, Repr

/-- The text of an error, if the error has one of its own. -/
def ConfigError.message? : ConfigError → Option String
  | malformed => none
  | schemaChecking name =>
    some ("validate_schema must be true, false or \"log\", got " ++ Text.quoted name)

/-- How the settings of a source are written. -/
structure SettingForm (α : Type) where
  /-- Whether nothing is set. -/
  isNull : α → Bool
  /-- A flag in any of its forms. -/
  flag? : α → Option Bool
  /-- A text in any of its forms. -/
  text? : α → Option String
  /-- A flag that is written as such. -/
  plainFlag? : α → Option Bool
  /-- A text that is written as such. -/
  plainText? : α → Option String
  /-- The name of a choice. -/
  choice? : α → Option String
  /-- The named parts. -/
  members? : α → Option (List (String × α))
  /-- The parts in order. -/
  items? : α → Option (List α)
  /-- Whether more parts than there are settings are refused. -/
  refusesMore : Bool

/-- A setting: its name, and how it changes what was read. -/
abbrev SettingField (α σ : Type) := String × (α → σ → Except ConfigError σ)

namespace SettingForm

variable {α σ : Type}

/-- A part that has to be there. -/
def require : Option σ → Except ConfigError σ
  | some a => .ok a
  | none => .error .malformed

/-- Reads settings by their names or by their order. What is not set stays as it is, and
    names that are not known are passed over. -/
def read (form : SettingForm α) (fields : List (SettingField α σ)) (source : α) (start : σ) :
    Except ConfigError σ :=
  match form.members? source, form.items? source with
  | some members, _ =>
    members.foldlM
      (fun current (name, part) =>
        match fields.lookup name with
        | some change => change part current
        | none => .ok current)
      start
  | none, some items =>
    if form.refusesMore && fields.length < items.length then .error .malformed
    else (fields.zip items).foldlM (fun current (field, part) => field.2 part current) start
  | none, none => .error .malformed

/-- A flag. -/
def flag (form : SettingForm α) (name : String) (put : Bool → σ → σ) : SettingField α σ :=
  (name, fun part current => return put (← require (form.flag? part)) current)

/-- A text, or nothing. -/
def text (form : SettingForm α) (name : String) (put : Option String → σ → σ) :
    SettingField α σ :=
  (name, fun part current =>
    if form.isNull part then .ok (put none current)
    else return put (some (← require (form.text? part))) current)

/-- A choice by name. -/
def choice {β : Type} (form : SettingForm α) (name : String) (table : List (String × β))
    (put : β → σ → σ) : SettingField α σ :=
  (name, fun part current =>
    return put (← require ((form.choice? part).bind fun word => table.lookup word)) current)

/-- The check of documents: a flag, or a word. -/
def schemaChecking (form : SettingForm α) (part : α) : Except ConfigError SchemaChecking :=
  match form.plainFlag? part, form.plainText? part with
  | some flag, _ => .ok (if flag then .enabled else .disabled)
  | none, some "log" => .ok .log
  | none, some "true" => .ok .enabled
  | none, some "false" => .ok .disabled
  | none, some name => .error (.schemaChecking name)
  | none, none => .error .malformed

end SettingForm

/-- The settings of the options. -/
def CompilerConfig.fields {α : Type} (form : SettingForm α) :
    List (SettingField α CompilerConfig) :=
  [("validate_schema", fun part config =>
      return { config with validateSchema := ← form.schemaChecking part }),
   form.flag "add_used_schema" fun v config => { config with addUsedSchema := v },
   form.flag "serialize" fun v config => { config with serialize := v },
   form.flag "all_errors" fun v config => { config with allErrors := v },
   form.choice "extend_refs" ReferenceSiblings.table
     fun v config => { config with extendRefs := v },
   form.choice "unknown_keywords" UnknownKeywords.table
     fun v config => { config with unknownKeywords := v },
   form.choice "unknown_formats" UnknownFormats.table
     fun v config => { config with unknownFormats := v },
   form.choice "missing_meta" MissingMeta.table fun v config => { config with missingMeta := v },
   form.text "default_meta" fun v config => { config with defaultMeta := v },
   form.flag "meta" fun v config => { config with installMeta := v },
   form.flag "overwrite_keywords" fun v config => { config with overwriteKeywords := v }]

/-- The settings of the loader. -/
def LoaderConfig.fields {α : Type} (form : SettingForm α) : List (SettingField α LoaderConfig) :=
  [form.text "schema_dir" fun v config => { config with schemaDir := v },
   form.text "base_uri" fun v config => { config with baseUri := v }]

/-- The options in a source. -/
def CompilerConfig.read {α : Type} (form : SettingForm α) (source : α) :
    Except ConfigError CompilerConfig :=
  form.read (CompilerConfig.fields form) source {}

/-- The configuration in a source. -/
def SchemaConfig.read {α : Type} (form : SettingForm α) (source : α) :
    Except ConfigError SchemaConfig :=
  form.read
    [("compiler", fun part config => return { config with compiler := ← CompilerConfig.read form part }),
     ("loader", fun part config =>
        return { config with loader := ← form.read (LoaderConfig.fields form) part {} })]
    source {}

/-- The form of JSON documents. A choice is a string, or an object with one member that is
    null. -/
def SettingForm.json : SettingForm Value where
  isNull value := value = .null
  flag? := Value.asBool?
  text? := Value.asString?
  plainFlag? := Value.asBool?
  plainText? := Value.asString?
  choice?
    | .string name => some name
    | .object [(name, .null)] => some name
    | _ => none
  members? := Value.asObject?
  items? := Value.asArray?
  refusesMore := true

/-- The form of files and the environment, which is less strict. A choice is a text in
    any case, or a table with one member. -/
def SettingForm.settings : SettingForm Setting where
  isNull
    | .null => true
    | _ => false
  flag? := Setting.flag?
  text? := Setting.text?
  plainFlag?
    | .flag value => some value
    | _ => none
  plainText?
    | .text value => some value
    | _ => none
  choice?
    | .text name => some name.toLower
    | .table [(name, _)] => some name.toLower
    | _ => none
  members?
    | .table members => some members
    | _ => none
  items?
    | .list items => some items
    | _ => none
  refusesMore := false

end JsonSchema
