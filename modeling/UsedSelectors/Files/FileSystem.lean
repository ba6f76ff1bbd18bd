import UsedSelectors.Encoding.Codec
import UsedSelectors.Files.Path
import UsedSelectors.Text.CodePoint

/-!
# File systems

A file tree is a file with its bytes or a directory with named entries. The files of a tree are
found by the names that lead to them. A name is the text that the bytes of a file name stand for;
bytes that are no UTF-8 are surrogates in it.

A path is followed name by name from the root or from the working directory. The place it leads to
is known by the names on the way from the root, none of which is `..`, so two paths lead to the
same file just when they lead to the same names. A system takes neither names nor paths that are
too long.
-/

namespace UsedSelectors

inductive FileTree where
  | file (bytes : List UInt8)
  /-- A directory with the size that it counts as, and its entries, which have different names. -/
  | directory (size : Nat) (entries : List (Text × FileTree))
  deriving Inhabited

namespace FileTree

def isDirectory : FileTree → Bool
  | file _ => false
  | directory .. => true

def size : FileTree → Nat
  | file bytes => bytes.length
  | directory size _ => size

mutual

def files : FileTree → List (List Text)
  | file _ => [[]]
  | directory _ entries => filesOf entries

def filesOf : List (Text × FileTree) → List (List Text)
  | [] => []
  | entry :: entries => filesBelow entry ++ filesOf entries

def filesBelow : Text × FileTree → List (List Text)
  | (name, tree) => (files tree).map (name :: ·)

end

def entries : FileTree → List (Text × FileTree)
  | file _ => []
  | directory _ entries => entries

def setEntry (name : Text) (value : FileTree) : List (Text × FileTree) → List (Text × FileTree)
  | [] => [(name, value)]
  | entry :: rest =>
    if entry.1 = name then (name, value) :: rest else entry :: setEntry name value rest

/-- Puts a tree where the names lead, in directories that are made where they are missing. Where a
directory is already, an empty one changes nothing. -/
def insert (directorySize : Nat) (added : FileTree) : List Text → FileTree → FileTree
  | [], tree =>
    match added, tree with
    | directory _ [], directory size present => directory size present
    | _, _ => added
  | name :: names, tree =>
    let inner := (tree.entries.lookup name).getD (directory directorySize [])
    directory directorySize (setEntry name (insert directorySize added names inner) tree.entries)

end FileTree

/-! ## Places -/

structure Place where
  /-- The directories on the way from the root, each with the name that was taken in it, innermost
  first. -/
  above : List (Text × FileTree)
  tree : FileTree

inductive PathFault where
  | missing
  /-- A name is asked of a file. -/
  | notDirectory
  | tooLong
  /-- A path holds no zero character. -/
  | zeroInPath
  | unencodable (error : Encoding.EncodeError)
  deriving DecidableEq

namespace Place

def names (place : Place) : List Text := (place.above.map Prod.fst).reverse

def parentName : Text := [.dot, .dot]

/-- Follows one name. Above the root is the root. -/
def enter (longestName : Nat) (place : Place) (name : Text) : Except PathFault Place :=
  match place.tree with
  | .file _ => .error .notDirectory
  | .directory _ entries =>
    if name = parentName then
      match place.above with
      | [] => .ok place
      | (_, parent) :: above => .ok ⟨above, parent⟩
    else if longestName < name.byteCount then .error .tooLong
    else
      match entries.lookup name with
      | none => .error .missing
      | some tree => .ok ⟨(name, place.tree) :: place.above, tree⟩

def follow (longestName : Nat) (place : Place) : List Text → Except PathFault Place
  | [] => .ok place
  | name :: names => do
    let next ← place.enter longestName name
    next.follow longestName names

end Place

/-- How much a file system takes. -/
structure FileLimits where
  longestName : Nat
  longestPath : Nat
  /-- The directories inside one another that a search gets through. -/
  searchDepth : Nat
  deriving DecidableEq

def FileLimits.textFault? (limits : FileLimits) (path : Path) : Option PathFault :=
  match Encoding.surrogateFrom? true 0 path.text with
  | some error => some (.unencodable error)
  | none =>
    if path.text.contains CodePoint.zero then some .zeroInPath
    else if limits.longestPath < path.text.byteCount then some .tooLong
    else none

structure FileSystem where
  root : FileTree
  workingDirectory : List Text
  limits : FileLimits

namespace FileSystem

def find (system : FileSystem) (path : Path) : Except PathFault Place :=
  match system.limits.textFault? path with
  | some fault => .error fault
  | none =>
    let top : Place := ⟨[], system.root⟩
    match path.root with
    | .relative => top.follow system.limits.longestName (system.workingDirectory ++ path.names)
    | _ => top.follow system.limits.longestName path.names

end FileSystem

end UsedSelectors
