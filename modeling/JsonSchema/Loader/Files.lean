import JsonSchema.Config.Basic
import JsonSchema.Json.Reader
import JsonSchema.Loader.Loading

/-!
# Documents from files

A loader that finds documents in the files below one directory and nowhere else.

* `FileLoader`: the directory, and the beginning of the identifiers that stands for it.
* `FileLoader.path?`: the file of an identifier; refused if it would not lie below the
  directory.
* `FileLoader.load`: the document of an identifier.
-/

namespace JsonSchema

/-- Finds documents below a directory. -/
structure FileLoader where
  directory : FilePath
  /-- The beginning of the identifiers that stands for the directory. -/
  baseUri : Option String := none
deriving Repr

namespace FileLoader

/-- The rest of a text behind a beginning. -/
def behind? (start text : String) : Option String :=
  if start.toList.isPrefixOf text.toList then
    some (String.ofList (text.toList.drop start.toList.length))
  else none

/-- What an identifier says about the place of its file: what stands behind the base, or
    the path of a URL, or all of it. -/
def placeText (loader : FileLoader) (uri : String) : String :=
  match loader.baseUri.bind (behind? · uri) with
  | some rest => rest
  | none =>
    match Url.parse? uri with
    | some url => String.ofList url.path.text
    | none => uri

/-- The path of an identifier below the directory. -/
def relativePath (loader : FileLoader) (uri : String) : FilePath :=
  (FilePath.ofString (loader.placeText uri)).trimStart

/-- The file of an identifier, which must be reached by names only. If there is none and
    its name has no extension, it is the one of JSON. -/
def path? (loader : FileLoader) (tree : FileTree) (uri : String) : Except SchemaError FilePath :=
  let relative := loader.relativePath uri
  if !relative.steps.all Step.isDown then .error (.load uri .escapes)
  else
    let path := loader.directory.join relative
    if path.extension?.isNone && !tree.has path then .ok (path.addExtension "json") else .ok path

/-- The document of an identifier. -/
def load (loader : FileLoader) (tree : FileTree) (uri : String) : Except SchemaError Value := do
  let path ← loader.path? tree uri
  match tree.read path with
  | .error fault => .error (.load uri (.file path.text fault))
  | .ok content =>
    match Json.parse? content with
    | some value => .ok value
    | none => .error (.load uri .invalidJson)

/-- The loader of the files in a tree. -/
def toLoader (loader : FileLoader) (tree : FileTree) : Loader Unit where
  load uri _ := (loader.load tree uri, ())

end FileLoader

/-- The loader that a configuration describes, if it names a directory. -/
def LoaderConfig.fileLoader? (config : LoaderConfig) : Option FileLoader :=
  config.schemaDir.map fun dir =>
    { directory := FilePath.ofString dir, baseUri := config.baseUri }

end JsonSchema
