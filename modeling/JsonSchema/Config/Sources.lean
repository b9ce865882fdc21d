import JsonSchema.Config.Reader
import JsonSchema.File.Tree
import JsonSchema.Toml.Reader

/-!
# Where configurations come from

Files in the usual places, a file that was named, and the environment: each overrides
those before it.

* `ConfigSource.find?`: the file that a path without extension may stand for.
* `Environment.settings`: the settings in the variables of the environment.
* `SchemaConfig.load`: the configuration from all sources.
-/

namespace JsonSchema

/-! ## Files -/

/-- The formats of files with settings. -/
inductive ConfigFormat where
  | toml
  | json
deriving DecidableEq, Repr

namespace ConfigFormat

/-- The formats in the order in which their extensions are tried. -/
def all : List ConfigFormat := [toml, json]

/-- The extension of the files of a format. -/
def extension : ConfigFormat → String
  | toml => "toml"
  | json => "json"

/-- The settings in a document. -/
def parse? : ConfigFormat → String → Option (List (String × Setting))
  | toml, document => Toml.parse? document
  | json, document =>
    match Json.parse? document with
    | some (.object members) => some (Setting.ofMembers members)
    | _ => none

end ConfigFormat

namespace ConfigSource

/-- The file with settings that a path stands for: the file itself, or one with an
    extension added. -/
def find? (tree : FileTree) (path : FilePath) : Option (FilePath × ConfigFormat) :=
  if tree.isFile path then
    (ConfigFormat.all.find? fun format => path.extension? = some format.extension).map (path, ·)
  else
    ConfigFormat.all.findSome? fun format =>
      let file := path.addExtension format.extension
      if tree.isFile file then some (file, format) else none

/-- The usual places of files with settings. -/
def usualPlaces : List FilePath :=
  ["schemac.toml", ".schemac.toml", "config/schemac.toml"].map FilePath.ofString

/-- The settings in a file. -/
def settings (tree : FileTree) (file : FilePath) (format : ConfigFormat) :
    Except ConfigError (List (String × Setting)) :=
  match tree.read file with
  | .error _ => .error .malformed
  | .ok content =>
    match format.parse? content with
    | some settings => .ok settings
    | none => .error .malformed

/-- The settings in a file that need not be there. -/
def optional (tree : FileTree) (path : FilePath) : Except ConfigError (List (String × Setting)) :=
  match find? tree path with
  | some (file, format) => settings tree file format
  | none => .ok []

/-- The settings in a file that must be there. -/
def required (tree : FileTree) (path : FilePath) : Except ConfigError (List (String × Setting)) :=
  match find? tree path with
  | some (file, format) => settings tree file format
  | none => .error .malformed

end ConfigSource

/-! ## The environment -/

/-- The variables of the environment. -/
abbrev Environment := List (String × String)

namespace Environment

/-- The beginning of the names of variables with settings. -/
def mark : List Char := "schemac__".toList

/-- A text with points in place of double low lines. -/
def pointed : List Char → List Char
  | '_' :: '_' :: rest => '.' :: pointed rest
  | c :: rest => c :: pointed rest
  | [] => []

/-- The path of the setting that a variable gives, if it gives one. Case does not count. -/
def settingPath? (name : String) : Option String :=
  let name := name.toLower.toList
  if mark.isPrefixOf name then some (String.ofList (pointed (name.drop mark.length))) else none

/-- A sign and the rest behind it. -/
def signed : List Char → Bool × List Char
  | '-' :: rest => (true, rest)
  | '+' :: rest => (false, rest)
  | rest => (false, rest)

/-- The integer that a text denotes, if it fits 64 bits with a sign. -/
def integer? (text : List Char) : Option Int :=
  let (negative, digits) := signed text
  if digits.isEmpty || !digits.all Char.isDigit then none
  else
    let magnitude := Json.ofDigits (Json.digits digits).1
    let n : Int := if negative then -magnitude else magnitude
    if -(Nat.pow 2 63) ≤ n ∧ n < Nat.pow 2 63 then some n else none

/-- The real number that a text denotes: a name, or digits with at most one point and
    perhaps an exponent. -/
def real? (text : List Char) : Option Real :=
  let (negative, rest) := signed text
  match (String.ofList rest).toLower with
  | "inf" | "infinity" => some (.infinite negative)
  | "nan" => some .undefined
  | _ =>
    let (whole, rest) := Json.digits rest
    let (places, rest) := match rest with
      | '.' :: rest => Json.digits rest
      | rest => ([], rest)
    if whole.isEmpty && places.isEmpty then none
    else
      match Json.exponent? rest with
      | some (exponent, []) =>
        some (Real.ofDecimal negative (Json.ofDigits (whole ++ places))
          (exponent.getD 0 - places.length))
      | _ => none

/-- What a variable says: a flag, a number or a text. -/
def setting (text : String) : Setting :=
  match text.toLower with
  | "true" => .flag true
  | "false" => .flag false
  | _ =>
    match integer? text.toList, real? text.toList with
    | some n, _ => .integer n
    | none, some x => .real x
    | none, none => .text text

/-- The names of all variables with settings, in upper case. -/
def names : List String :=
  let fields := [("compiler", (CompilerConfig.fields .settings).map (·.1)),
    ("loader", (LoaderConfig.fields .settings).map (·.1))]
  fields.flatMap fun (title, names) =>
    names.map fun name => ("schemac__" ++ title ++ "__" ++ name).toUpper

/-- The settings in the variables. -/
def settings (environment : Environment) : List (String × Setting) :=
  environment.filterMap fun (name, text) => (settingPath? name).map (·, setting text)

end Environment

/-! ## All sources -/

/-- The configuration from the files in the usual places, a file that was named, and the
    environment. -/
def SchemaConfig.load (tree : FileTree) (environment : Environment) (named : Option FilePath) :
    Except ConfigError SchemaConfig := do
  let usual ← ConfigSource.usualPlaces.mapM (ConfigSource.optional tree)
  let further ← named.toList.mapM (ConfigSource.required tree)
  let sources := usual ++ further ++ [environment.settings]
  SchemaConfig.read .settings (sources.foldl Setting.override (.table []))

end JsonSchema
