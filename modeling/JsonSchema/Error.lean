import JsonSchema.File.Tree
import JsonSchema.Regex.Syntax
import JsonSchema.Text.Quoted
import JsonSchema.Violation

/-!
# Errors

Why a schema cannot be taken in, compiled or loaded. Data that does not satisfy a schema
is no error: it gives violations.

* `Malformation`: what is wrong with the form of a document.
* `Fault`: why a keyword cannot be compiled.
* `SchemaError`: why an operation failed, with `SchemaError.message`.
-/

namespace JsonSchema

namespace PatternError

/-- What is wrong with a pattern. The explanation of a malformed one is left out. -/
def message : PatternError → Option String
  | malformed => none
  | tooLarge => some "Compiled regex exceeds size limit of 10485760 bytes."

/-- A text about a pattern, followed by what is wrong with the pattern. -/
def describe (error : PatternError) (text : String) : String :=
  match error.message with
  | some message => text ++ ": " ++ message
  | none => text

end PatternError

/-! ## Documents -/

/-- What is wrong with the form of a document. -/
inductive Malformation where
  /-- The document is neither an object nor a boolean. -/
  | document
  /-- The identifier of the document is no string. -/
  | identifier
  /-- The identifier at a place of the document is no string. -/
  | identifierAt (path : String)
  /-- A subschema is neither an object nor a boolean. -/
  | schemaAt (path : String)
  /-- A reference is no string. -/
  | referenceAt (path : String)
  /-- The entry to compile was removed. -/
  | vanished (entry : String)
  /-- Subschemas are generated without end. -/
  | nestingAt (path : String)
deriving DecidableEq, Repr

/-- The text of a malformation. -/
def Malformation.message : Malformation → String
  | document => "schema should be an object or a boolean"
  | identifier => "$id must be a string"
  | identifierAt path => "$id at " ++ path ++ " must be a string"
  | schemaAt path => "schema at " ++ path ++ " must be an object or a boolean"
  | referenceAt path => "$ref at " ++ path ++ " must be a string"
  | vanished entry => "schema entry " ++ entry ++ " no longer exists"
  | nestingAt path => "schema at " ++ path ++ " is nested too deeply"

/-! ## Keywords -/

/-- What the value of a keyword has to be. -/
inductive Shape where
  | array
  | boolean
  | count
  | number
  | object
  | positive
  | schemas
  | string
  | strings
  | stringOrStrings
deriving DecidableEq, Repr

/-- The text of a shape. -/
def Shape.message : Shape → String
  | array => "value must be an array"
  | boolean => "value must be a boolean"
  | count => "value must be a non-negative integer"
  | number => "value must be a number"
  | object => "value must be an object"
  | positive => "value must be strictly greater than 0"
  | schemas => "value must be a non-empty array of schemas"
  | string => "value must be a string"
  | strings => "value must be an array of strings"
  | stringOrStrings => "value must be a string or an array of strings"

/-- Why a keyword cannot be compiled. -/
inductive Fault where
  /-- The value has another shape. -/
  | shape (expected : Shape)
  /-- A member of the list of kinds is no string. -/
  | kindNames
  /-- There is no kind of this name. -/
  | unknownKind (name : String)
  /-- A property that another depends on is not named by a string. -/
  | dependencyNames
  /-- The value is no pattern. -/
  | pattern (error : PatternError)
  /-- The name of a member is no pattern. -/
  | memberPattern (name : String) (error : PatternError)
  /-- The schema lacks a keyword that has to stand beside this one. -/
  | requires (keyword : String)
  /-- The value does not satisfy the schema for values of the keyword. -/
  | invalidValue (violations : Violations)
  /-- Other keywords stand beside a reference. -/
  | besideReference (path : String)
  /-- No keyword of this name is known. -/
  | unknown (path : String)
  /-- The keyword needs an asynchronous schema. -/
  | needsAsync
  /-- A synchronous schema refers to an asynchronous one. -/
  | asyncTarget (reference : String)
  /-- The definition of the keyword refuses its value. -/
  | refused (message : String)
deriving DecidableEq

/-- The text of a fault. -/
def Fault.message : Fault → String
  | shape expected => expected.message
  | kindNames => "type names must be strings"
  | unknownKind name => "unknown type " ++ Text.quoted name
  | dependencyNames => "property dependencies must be strings"
  | pattern error => error.describe "invalid pattern"
  | memberPattern name error => error.describe ("invalid pattern " ++ Text.quoted name)
  | requires keyword => "parent schema must have all required keywords: " ++ keyword
  | invalidValue violations => "keyword value is invalid: " ++ violations.summary
  | besideReference path =>
    "validation keywords used next to $ref at " ++ path ++ " (see option extend_refs)"
  | unknown path => "unknown keyword at " ++ path
  | needsAsync => "async keyword in sync schema"
  | asyncTarget reference =>
    "synchronous schema can't reference asynchronous schema " ++ reference
  | refused message => message

/-! ## Definitions of keywords -/

/-- What is wrong with the definition of a keyword. -/
inductive Misdefinition where
  /-- The name is not of the right form. -/
  | name (name : String)
  /-- A vocabulary defines a keyword twice. -/
  | twice (name vocabulary : String)
deriving DecidableEq, Repr

/-- The text of a misdefinition. -/
def Misdefinition.message : Misdefinition → String
  | name n => "keyword name " ++ Text.quoted n ++ " must start with a letter, _ or $"
  | twice n vocabulary => n ++ " is defined twice in vocabulary " ++ vocabulary

/-- What stands against a change of the keywords. -/
inductive Conflict where
  /-- The keyword is defined already. -/
  | keyword (name : String)
  /-- The vocabulary is known already. -/
  | vocabulary (name : String)
  /-- The keyword is protected. -/
  | removal (name : String)
deriving DecidableEq, Repr

/-- The text of a conflict. -/
def Conflict.message : Conflict → String
  | keyword name => name
  | vocabulary name => "vocabulary " ++ name
  | removal name => name ++ " is protected and can't be removed"

/-! ## All errors -/

/-- Why a document could not be loaded. -/
inductive LoadFault where
  /-- The name leads out of the directory. -/
  | escapes
  /-- The system refused to read the file. -/
  | file (path : String) (fault : FileFault)
  /-- The file is no JSON. The explanation is left out. -/
  | invalidJson
  /-- The loader refused. -/
  | refused (message : String)
deriving DecidableEq, Repr

/-- The text of a load fault. -/
def LoadFault.message : LoadFault → String
  | escapes => "path escapes the schema directory"
  | file path fault => path ++ ": " ++ fault.message
  | invalidJson => "invalid json"
  | refused message => message

/-- Why an operation failed. -/
inductive SchemaError where
  | malformed (cause : Malformation)
  | duplicate (name : String)
  /-- Nothing is known that the reference could denote; `document` is its document part. -/
  | missing (reference document : String)
  | invalid (violations : Violations)
  | compilation (keyword : String) (fault : Fault)
  | definition (cause : Misdefinition)
  | conflict (cause : Conflict)
  | cycle (names : List String)
  | unknownFormat (name : String)
  | pattern (error : PatternError)
  | load (uri : String) (fault : LoadFault)
deriving DecidableEq

namespace SchemaError

/-- The text of an error. -/
def message : SchemaError → String
  | malformed cause => "Malformed schema: " ++ cause.message
  | duplicate name => "Schema with key or id \"" ++ name ++ "\" already exists"
  | missing reference document =>
    "Can't resolve reference " ++ reference ++ " (missing schema " ++ document ++ ")"
  | invalid violations => "Schema is invalid: " ++ violations.summary
  | compilation keyword fault => "Keyword " ++ keyword ++ " failed to compile: " ++ fault.message
  | definition cause => "Invalid keyword definition: " ++ cause.message
  | conflict cause => "Keyword " ++ cause.message ++ " is already defined"
  | cycle names => "Keyword ordering cycle between: " ++ ", ".intercalate names
  | unknownFormat name => "Unknown format \"" ++ name ++ "\""
  | pattern error => error.describe "Invalid pattern"
  | load uri fault => "Failed to load schema " ++ uri ++ ": " ++ fault.message

end SchemaError

end JsonSchema
