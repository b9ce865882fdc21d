import JsonSchema.File.Path

/-!
# File trees

The files that a program sees, and the directory it works in. Directories are there
because files are in them.

* `FileTree`: files with their contents.
* `FileTree.locate`: the place that a path leads to.
* `FileTree.read`: the content of a file.
* `FileTree.below`: the files in a directory and the directories in it.
-/

namespace JsonSchema

/-- Why a file cannot be read. -/
inductive FileFault where
  /-- Nothing is there. -/
  | missing
  /-- There is a directory. -/
  | isDirectory
  /-- The path leads through something that is no directory. -/
  | notDirectory
deriving DecidableEq, Repr

/-- The text of a fault. -/
def FileFault.message : FileFault → String
  | missing => "No such file or directory (os error 2)"
  | isDirectory => "Is a directory (os error 21)"
  | notDirectory => "Not a directory (os error 20)"

/-- A place: the names on the way from the root. -/
abbrev Location := List String

/-- Files with their contents, and the directory that relative paths start from. -/
structure FileTree where
  files : List (Location × String)
  current : Location := []
deriving Repr

namespace FileTree

/-- The file at a place. -/
def content? (tree : FileTree) (place : Location) : Option String := tree.files.lookup place

/-- Whether there is a directory at a place. The directory one works in is always there. -/
def isDirectory (tree : FileTree) (place : Location) : Bool :=
  place.isPrefixOf tree.current ||
    tree.files.any fun (file, _) => place.isPrefixOf file && place.length < file.length

/-- The place that one part of a path leads to from another place. -/
def walk (tree : FileTree) (place : Location) (part : String) : Except FileFault Location :=
  if !tree.isDirectory place then .error .notDirectory
  else if !FilePath.counts part then .ok place
  else if part = ".." then .ok place.dropLast
  else
    let next := place ++ [part]
    if (tree.content? next).isSome || tree.isDirectory next then .ok next else .error .missing

/-- The place that a path leads to. -/
def locate (tree : FileTree) (path : FilePath) : Except FileFault Location :=
  if path = FilePath.empty then .error .missing
  else if path.isAbsolute then path.parts.foldlM tree.walk []
  else path.parts.foldlM tree.walk tree.current

/-- Whether something is there. -/
def has (tree : FileTree) (path : FilePath) : Bool := (tree.locate path).isOk

/-- The content of a file. -/
def read (tree : FileTree) (path : FilePath) : Except FileFault String := do
  match tree.content? (← tree.locate path) with
  | some content => .ok content
  | none => .error .isDirectory

/-- Whether there is a file. -/
def isFile (tree : FileTree) (path : FilePath) : Bool := (tree.read path).isOk

/-- The files that a path stands for: itself, or all below the directory that it names.
    Where nothing is there are none. -/
def below (tree : FileTree) (path : FilePath) : List FilePath :=
  match tree.locate path with
  | .error _ => []
  | .ok place =>
    if (tree.content? place).isSome then [path]
    else
      (tree.files.filter fun (file, _) => place.isPrefixOf file).map fun (file, _) =>
        path.join ⟨file.drop place.length⟩

/-- A tree with one more file. A file that was at its place before is replaced. -/
def insertAt (tree : FileTree) (place : Location) (content : String) : FileTree :=
  { tree with files := tree.files.filter (·.1 ≠ place) ++ [(place, content)] }

/-- The place that a path names, without looking what is there. -/
def placeOf (tree : FileTree) (path : FilePath) : Location :=
  path.parts.foldl
    (fun place part =>
      if !FilePath.counts part then place
      else if part = ".." then place.dropLast
      else place ++ [part])
    (if path.isAbsolute then [] else tree.current)

/-- A tree with one more file. -/
def insert (tree : FileTree) (path : FilePath) (content : String) : FileTree :=
  tree.insertAt (tree.placeOf path) content

end FileTree

end JsonSchema
