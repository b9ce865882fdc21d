import JsonSchema.Options

/-!
# Configurations

A configuration is the part of the options that files and environments can set, together
with where documents are loaded from.

* `SchemaConfig`: a configuration.
* `SchemaConfig.options`: the options it stands for.
* `SchemaConfig.sections`: the configuration as it is written, section by section.
* `SchemaConfig.toValue`: the configuration as a JSON document.
-/

namespace JsonSchema

/-- The options that a configuration sets. -/
structure CompilerConfig where
  validateSchema : SchemaChecking := .enabled
  addUsedSchema : Bool := true
  /-- Whether equal documents are recognised as such. -/
  serialize : Bool := true
  allErrors : Bool := false
  extendRefs : ReferenceSiblings := .ignore
  unknownKeywords : UnknownKeywords := .ignore
  unknownFormats : UnknownFormats := .fail
  missingMeta : MissingMeta := .permissive
  defaultMeta : Option String := none
  installMeta : Bool := true
  overwriteKeywords : Bool := true
deriving DecidableEq, Repr

/-- Where documents are loaded from. -/
structure LoaderConfig where
  /-- The directory of the documents. -/
  schemaDir : Option String := none
  /-- The beginning of the identifiers that stands for the directory. -/
  baseUri : Option String := none
deriving DecidableEq, Repr

/-- A configuration. -/
structure SchemaConfig where
  compiler : CompilerConfig := {}
  loader : LoaderConfig := {}
deriving DecidableEq, Repr

/-! ## Names of choices -/

namespace ReferenceSiblings

/-- The choices with their names. -/
def table : List (String × ReferenceSiblings) :=
  [("ignore", .ignore), ("fail", .fail), ("apply", .apply)]

/-- The name of a choice. -/
def name : ReferenceSiblings → String
  | ignore => "ignore"
  | fail => "fail"
  | apply => "apply"

end ReferenceSiblings

namespace UnknownKeywords

/-- The choices with their names. -/
def table : List (String × UnknownKeywords) :=
  [("ignore", .ignore), ("log", .log), ("fail", .fail)]

/-- The name of a choice. -/
def name : UnknownKeywords → String
  | ignore => "ignore"
  | log => "log"
  | fail => "fail"

end UnknownKeywords

namespace UnknownFormats

/-- The choices with their names. -/
def table : List (String × UnknownFormats) := [("fail", .fail), ("ignore", .ignore)]

/-- The name of a choice. -/
def name : UnknownFormats → String
  | fail => "fail"
  | ignore => "ignore"

end UnknownFormats

namespace MissingMeta

/-- The choices with their names. -/
def table : List (String × MissingMeta) := [("permissive", .permissive), ("strict", .strict)]

/-- The name of a choice. -/
def name : MissingMeta → String
  | permissive => "permissive"
  | strict => "strict"

end MissingMeta

/-! ## Written form -/

/-- What is written behind the name of a setting. -/
inductive WrittenSetting where
  | flag (value : Bool)
  | text (value : String)
deriving DecidableEq, Repr

/-- A written setting as a document. -/
def WrittenSetting.toValue : WrittenSetting → Value
  | flag value => .bool value
  | text value => .string value

/-- The written form of the check of documents: a flag, or the word for a check that only
    notes. -/
def SchemaChecking.written : SchemaChecking → WrittenSetting
  | enabled => .flag true
  | disabled => .flag false
  | log => .text "log"

/-! ## Options -/

namespace CompilerConfig

/-- The options that a configuration stands for. -/
def options (config : CompilerConfig) : Options where
  validateSchema := config.validateSchema
  addUsedSchema := config.addUsedSchema
  serialize := if config.serialize then .canonical else .disabled
  allErrors := config.allErrors
  extendRefs := config.extendRefs
  unknownKeywords := config.unknownKeywords
  unknownFormats := config.unknownFormats
  missingMeta := config.missingMeta
  defaultMeta := config.defaultMeta
  installMeta := config.installMeta
  overwriteKeywords := config.overwriteKeywords

/-- The settings in order, without those that are not set. -/
def settings (config : CompilerConfig) : List (String × WrittenSetting) :=
  [("validate_schema", config.validateSchema.written),
   ("add_used_schema", .flag config.addUsedSchema),
   ("serialize", .flag config.serialize),
   ("all_errors", .flag config.allErrors),
   ("extend_refs", .text config.extendRefs.name),
   ("unknown_keywords", .text config.unknownKeywords.name),
   ("unknown_formats", .text config.unknownFormats.name),
   ("missing_meta", .text config.missingMeta.name)] ++
  (config.defaultMeta.map fun id => ("default_meta", .text id)).toList ++
  [("meta", .flag config.installMeta), ("overwrite_keywords", .flag config.overwriteKeywords)]

end CompilerConfig

/-- The settings in order, without those that are not set. -/
def LoaderConfig.settings (config : LoaderConfig) : List (String × WrittenSetting) :=
  (config.schemaDir.map fun dir => ("schema_dir", .text dir)).toList ++
    (config.baseUri.map fun uri => ("base_uri", .text uri)).toList

namespace SchemaConfig

/-- The options that a configuration stands for. -/
def options (config : SchemaConfig) : Options := config.compiler.options

/-- The sections with their settings. -/
def sections (config : SchemaConfig) : List (String × List (String × WrittenSetting)) :=
  [("compiler", config.compiler.settings), ("loader", config.loader.settings)]

/-- The settings that need not be set. -/
def optional : List (String × List String) :=
  [("compiler", ["default_meta"]), ("loader", ["schema_dir", "base_uri"])]

/-- The configuration as a document, in which null stands for what is not set. -/
def toValue (config : SchemaConfig) : Value :=
  .ofMembers (config.sections.map fun (title, settings) =>
    (title,
      .ofMembers (((optional.lookup title).getD []).map (·, .null) ++
        settings.map fun (name, value) => (name, value.toValue))))

end SchemaConfig

end JsonSchema
