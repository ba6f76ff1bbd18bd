import UsedSelectors.Files.FileSystem

/-!
# Source files

The files that a list of paths stands for: a path to a file stands for that file, whatever its
extension, and a path to a directory for all files below it whose extension has a mode. A file is
listed once, where it comes first. A search fails at a path that is too long and in directories too
deep inside one another.
-/

namespace UsedSelectors

inductive SearchFault where
  | tooLong (path : Path)
  | tooDeep
  deriving DecidableEq

def SearchFault.message : SearchFault → Text
  | tooLong path => Text.ofString "[Errno 36] File name too long: " ++ path.text.quoted
  | tooDeep => Text.ofString "maximum recursion depth exceeded"

inductive CollectFault where
  | missing (path : Path)
  | search (fault : SearchFault)
  deriving DecidableEq

def CollectFault.message : CollectFault → Text
  | missing path => Text.ofString "No such file or directory: " ++ path.text
  | search fault => fault.message

def FileLimits.entryFault? (limits : FileLimits) (path : Path)
    (entries : List (Text × FileTree)) : Option SearchFault :=
  (entries.map Prod.fst).findSome? fun name =>
    if limits.longestName < name.byteCount ∨
        limits.longestPath < (path.append [name]).text.byteCount then
      some (.tooLong (path.append [name]))
    else none

namespace FileTree

mutual

/-- What keeps a search from getting through a tree. The entries of a directory are asked for
before the directories among them are entered. -/
def searchFault? (limits : FileLimits) (path : Path) (depth : Nat) :
    FileTree → Option SearchFault
  | file _ => none
  | directory _ entries =>
    match depth with
    | 0 => some .tooDeep
    | depth + 1 =>
      (limits.entryFault? path entries).or (searchFaultIn? limits path depth entries)

def searchFaultIn? (limits : FileLimits) (path : Path) (depth : Nat) :
    List (Text × FileTree) → Option SearchFault
  | [] => none
  | entry :: entries =>
    (searchFaultBelow? limits path depth entry).or (searchFaultIn? limits path depth entries)

def searchFaultBelow? (limits : FileLimits) (path : Path) (depth : Nat) :
    Text × FileTree → Option SearchFault
  | (name, tree) => searchFault? limits (path.append [name]) depth tree

end

end FileTree

structure SourceFile where
  path : Path
  names : List Text
  deriving DecidableEq

/-- Whether names come before others: name by name, in the order of the code points. -/
def namesLe (a b : List Text) : Bool := !decide (b < a)

namespace FileSystem

def sourceFilesBelow (path : Path) (place : Place) : List SourceFile :=
  ((place.tree.files.mergeSort namesLe).map
    (fun names => ⟨path.append names, place.names ++ names⟩)).filter
      (fun file => (Mode.ofPath? file.path).isSome)

def sourceFilesAt (system : FileSystem) (path : Path) : Except CollectFault (List SourceFile) :=
  match system.find path with
  | .error .tooLong => .error (.search (.tooLong path))
  | .error _ => .error (.missing path)
  | .ok place =>
    if place.tree.isDirectory then
      match place.tree.searchFault? system.limits path system.limits.searchDepth with
      | some fault => .error (.search fault)
      | none => .ok (sourceFilesBelow path place)
    else .ok [⟨path, place.names⟩]

def addNew (listed : List SourceFile) : List SourceFile → List SourceFile
  | [] => listed
  | file :: files =>
    if listed.any (fun other => other.names == file.names) then addNew listed files
    else addNew (listed ++ [file]) files

def sourceFilesFrom (system : FileSystem) (listed : List SourceFile) :
    List Path → Except CollectFault (List SourceFile)
  | [] => .ok listed
  | path :: paths => do
    let found ← system.sourceFilesAt path
    system.sourceFilesFrom (addNew listed found) paths

def sourceFiles (system : FileSystem) (paths : List Path) : Except CollectFault (List Path) :=
  (system.sourceFilesFrom [] paths).map (fun files => files.map SourceFile.path)

end FileSystem

end UsedSelectors
