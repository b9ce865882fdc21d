import JsonSchema.CommandLine.Run

/-!
# The program

Collects the arguments, the environment and the files that the arguments name, runs the
command line on them and writes what it leaves.
-/

namespace JsonSchema.Program

/-- The environment as far as it holds settings. -/
def readEnvironment : IO Environment :=
  Environment.names.filterMapM fun name => do
    return (← IO.getEnv name).map (name, ·)

/-- A tree with the files that paths stand for. Files that are no text are left out. -/
def readFiles (tree : FileTree) (paths : List FilePath) : IO FileTree := do
  let mut tree := tree
  for path in paths do
    let root := (← IO.currentDir) / path.text
    let found ← if ← root.isDir then root.walkDir else pure #[root]
    for file in found do
      try
        let content ← IO.FS.readFile file
        tree := tree.insert (FilePath.ofString file.toString) content
      catch _ => pure ()
  return tree

end JsonSchema.Program

open JsonSchema Program in
/-- Runs the command line. -/
def main (arguments : List String) : IO UInt32 := do
  let environment ← readEnvironment
  let here := FilePath.ofString (← IO.currentDir).toString
  let start : FileTree := { files := [], current := ({ files := [] } : FileTree).placeOf here }
  let tree ← readFiles start (CommandLine.inputs arguments)
  let directory := CommandLine.configuredDirectory tree environment arguments
  let tree ← readFiles tree directory.toList
  let outcome := CommandLine.run tree environment arguments
  IO.print outcome.output
  match outcome.failure with
  | some failure => IO.eprintln ("Error: " ++ failure.message)
  | none => if outcome.code = 2 then IO.eprint CommandLine.Topic.general.text
  return UInt32.ofNat outcome.code
