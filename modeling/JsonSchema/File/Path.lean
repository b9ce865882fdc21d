import JsonSchema.Text.Split

/-!
# File paths

A path is kept as it is written: as what stands between its slashes. What it means are
its steps, in which empty parts and dots for the place itself do not count.

* `FilePath`: a path as it is written.
* `FilePath.steps`: the steps that a path takes.
* `FilePath.join`: a path below another one.
* `FilePath.extension?`, `FilePath.withExtension`: the end of the last name.
* `FilePath.le`: the order of paths, step by step.
-/

namespace JsonSchema

/-- A path as it is written: what stands between its slashes. -/
structure FilePath where
  parts : List String
deriving DecidableEq, Repr

/-- A step of a path. The constructors stand in the order in which paths are sorted. -/
inductive Step where
  /-- To the root of all files. -/
  | root
  /-- To the place itself. -/
  | here
  /-- To the directory around. -/
  | above
  /-- To what has a name. -/
  | down (name : String)
deriving DecidableEq, Repr

namespace Step

/-- The step of a part that counts. -/
def ofPart (part : String) : Step := if part = ".." then above else down part

/-- The place of a kind of step in the order. -/
def rank : Step → Nat
  | root => 0
  | here => 1
  | above => 2
  | down _ => 3

/-- The bytes of the name of a step. -/
def key : Step → List UInt8
  | down name => name.toUTF8.toList
  | _ => []

/-- The order of steps: by kind, then by name. -/
def compare (a b : Step) : Ordering :=
  (Ord.compare a.rank b.rank).then (Ord.compare a.key b.key)

/-- Whether a step leads to something that has a name. -/
def isDown : Step → Bool
  | down _ => true
  | _ => false

end Step

namespace FilePath

/-- The path that a text denotes. -/
def ofString (text : String) : FilePath :=
  ⟨(Text.splitOn '/' text.toList).map String.ofList⟩

/-- A path as text. -/
def text (path : FilePath) : String := "/".intercalate path.parts

/-- The empty path. -/
def empty : FilePath := ⟨[""]⟩

/-- Whether a part counts as a step. -/
def counts (part : String) : Bool := part ≠ "" && part ≠ "."

/-- Whether a path starts at the root of all files. -/
def isAbsolute (path : FilePath) : Bool := path.parts.head? = some "" && 1 < path.parts.length

/-- The steps that a path takes. Only at the start of a relative path does a dot count. -/
def steps (path : FilePath) : List Step :=
  let start :=
    if path.isAbsolute then [Step.root]
    else if path.parts.head? = some "." then [Step.here]
    else []
  start ++ (path.parts.filter counts).map Step.ofPart

/-- The path without the slashes in front. -/
def trimStart (path : FilePath) : FilePath :=
  match path.parts.dropWhile (· = "") with
  | [] => empty
  | parts => ⟨parts⟩

/-- A relative path below another one. A slash stands between them unless the other one
    is empty or ends in one. -/
def join (path below : FilePath) : FilePath :=
  ⟨(if path.parts.getLast? = some "" then path.parts.dropLast else path.parts) ++ below.parts⟩

/-! ## Names -/

/-- The last name of a path, if that is where it leads. -/
def fileName? (path : FilePath) : Option String :=
  match path.steps.getLast? with
  | some (.down name) => some name
  | _ => none

/-- What stands behind the last dot of a name. A dot in front of a name starts no
    extension. -/
def nameExtension? (name : String) : Option String :=
  match (Text.splitOn '.' name.toList).reverse with
  | _ :: [] => none
  | _ :: [[]] => none
  | last :: _ => some (String.ofList last)
  | [] => none

/-- The extension of the last name. -/
def extension? (path : FilePath) : Option String := path.fileName?.bind nameExtension?

/-- The path with an extension added to its last name, which becomes its end. Without a
    last name it stays as it is. -/
def addExtension (path : FilePath) (extension : String) : FilePath :=
  match path.fileName?, (path.parts.reverse.dropWhile fun part => !counts part) with
  | some name, _ :: above => ⟨((name ++ "." ++ extension) :: above).reverse⟩
  | _, _ => path

/-- The path below the one that its first steps are, with the names that are left. -/
def below? (path dir : FilePath) : Option (List Step) :=
  if dir.steps.isPrefixOf path.steps then some (path.steps.drop dir.steps.length) else none

/-! ## Order -/

/-- The order of lists of steps: the first difference counts, and the end comes first. -/
def compareSteps : List Step → List Step → Ordering
  | [], [] => .eq
  | [], _ :: _ => .lt
  | _ :: _, [] => .gt
  | a :: as, b :: bs => (a.compare b).then (compareSteps as bs)

/-- The order of paths, step by step. -/
def le (a b : FilePath) : Bool := compareSteps a.steps b.steps ≠ .gt

end FilePath

end JsonSchema
