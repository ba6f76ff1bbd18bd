import UsedSelectors.Builtin
import UsedSelectors.CommandLine.Run

/-!
# The command line tool

Reads the environment and the files that the arguments name, runs the tool on them and writes what
it has to say. Log records go to standard error.
-/

namespace UsedSelectors.CommandLine

partial def readTree (entry : IO.FS.DirEntry) : IO FileTree := do
  if ← entry.path.isDir then
    let size := (← entry.path.metadata).byteSize.toNat
    let entries ← entry.path.readDir
    return .directory size
      (← entries.toList.mapM fun e => return (Text.ofString e.fileName, ← readTree e))
  else
    return .file (← IO.FS.readBinFile entry.path).toList

def emptySize : Nat := 4096

/-- A text as it is shown, with U+FFFD in place of each surrogate. -/
def shown (t : Text) : String := String.ofList (Token.chars t)

/-- Adds what the first names of a path lead to, if they lead anywhere: of a directory on the way
no more than that it is there. -/
def addBeginning (path : Path) (count : Nat) (tree : FileTree) : IO FileTree := do
  let beginning : Path := ⟨path.root, path.names.take count⟩
  let entry : IO.FS.DirEntry := ⟨← IO.currentDir, shown beginning.text⟩
  if ← entry.path.pathExists then
    let isOnTheWay ← entry.path.isDir
    let found ←
      if count < path.names.length && isOnTheWay then pure (.directory emptySize [])
      else readTree entry
    let place ← IO.FS.realPath entry.path
    return found.insert emptySize (Path.ofString place.toString).names tree
  else
    return tree

def addPath (tree : FileTree) (path : Path) : IO FileTree :=
  (List.range (path.names.length + 1)).foldlM (fun tree count => addBeginning path count tree) tree

def readFiles (paths : List Path) : IO FileSystem := do
  let workingDirectory := (Path.ofString (← IO.currentDir).toString).names
  let tree := FileTree.insert emptySize (.directory emptySize []) workingDirectory
    (.directory emptySize [])
  return ⟨← paths.foldlM addPath tree, workingDirectory, .builtin⟩

def readEnvironment : IO Environment := do
  let names := [Settings.modeVariable, Settings.maxFileBytesVariable, Settings.encodingVariable,
    Settings.logLevelVariable]
  let values ← names.mapM fun name => return (← IO.getEnv name).map (name, ·)
  return values.filterMap id

end UsedSelectors.CommandLine

open UsedSelectors CommandLine in
def main (arguments : List String) : IO UInt32 := do
  let given := arguments.map Text.ofString
  let paths :=
    match Arguments.ofList given with
    | .ok asked => asked.paths.map Path.ofText
    | .error _ => []
  match run (.builtin .utf8) (← readFiles paths) (← readEnvironment) given with
  | .error fault =>
    IO.eprintln (shown fault.message)
    return 1
  | .ok completion =>
    IO.eprint (shown completion.refusal)
    for record in completion.records do
      IO.eprintln s!"{record.severity.name} {record.logger} {shown record.message}"
    IO.print (shown completion.output)
    return UInt32.ofNat completion.exitCode
