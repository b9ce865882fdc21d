import JsonSchema.Store.Cache

/-!
# Options

What a registry does where documents leave a choice.
-/

namespace JsonSchema

/-- Whether documents are checked against their meta-schema. -/
inductive SchemaChecking where
  /-- A document that does not pass is refused. -/
  | enabled
  | disabled
  /-- A document that does not pass is taken in all the same. -/
  | log
deriving DecidableEq, Repr

/-- What becomes of the keywords beside a reference. -/
inductive ReferenceSiblings where
  | ignore
  | fail
  | apply
deriving DecidableEq, Repr

/-- What becomes of keywords that no vocabulary defines. -/
inductive UnknownKeywords where
  | ignore
  | log
  | fail
deriving DecidableEq, Repr

/-- What becomes of formats that are not known. -/
inductive UnknownFormats where
  | fail
  | ignore
deriving DecidableEq, Repr

/-- What becomes of documents whose meta-schema is not known. -/
inductive MissingMeta where
  /-- They count as valid. -/
  | permissive
  /-- They count as invalid. -/
  | strict
deriving DecidableEq, Repr

/-- The options of a registry. -/
structure Options where
  validateSchema : SchemaChecking := .enabled
  /-- Whether a compiled document is registered under its identifier. -/
  addUsedSchema : Bool := true
  serialize : KeySerializer := .canonical
  /-- Whether every violation is found, and not only the first. -/
  allErrors : Bool := false
  extendRefs : ReferenceSiblings := .ignore
  unknownKeywords : UnknownKeywords := .ignore
  unknownFormats : UnknownFormats := .fail
  missingMeta : MissingMeta := .permissive
  /-- The meta-schema of documents that name none. -/
  defaultMeta : Option String := none
  /-- Whether the meta-schema of draft-07 is installed. -/
  installMeta : Bool := true
  /-- Whether a keyword may be defined again. -/
  overwriteKeywords : Bool := true
  useDefaults : Bool := false
  coerceTypes : Bool := false
  removeAdditional : Bool := false

namespace Options

/-- The options under which meta-schemas are compiled: none that would change data. -/
def forMeta (options : Options) : Options :=
  { options with useDefaults := false, coerceTypes := false, removeAdditional := false }

/-- Whether an option would change data. -/
def mutatesData (options : Options) : Bool :=
  options.useDefaults || options.coerceTypes || options.removeAdditional

end Options

end JsonSchema
