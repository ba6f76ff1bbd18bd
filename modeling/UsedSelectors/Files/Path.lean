import UsedSelectors.Mode
import UsedSelectors.Text.Lines

/-!
# Paths

A path is a list of names behind an optional root. Empty names and the name `.` lead nowhere and
are left out; the name `..` stays, as where it leads depends on the files. The last name of a path
may end in an extension, by which the mode of a file is known.
-/

namespace UsedSelectors

inductive PathRoot where
  | relative
  | slash
  | doubleSlash
  deriving DecidableEq

structure Path where
  root : PathRoot
  names : List Text
  deriving DecidableEq

namespace PathRoot

def text : PathRoot → Text
  | relative => []
  | slash => [.slash]
  | doubleSlash => [.slash, .slash]

def ofText (t : Text) : PathRoot :=
  match (t.takeWhile (· == CodePoint.slash)).length with
  | 0 => relative
  | 2 => doubleSlash
  | _ => slash

end PathRoot

namespace Path

/-- Whether a name leads anywhere. -/
def isStep (name : Text) : Bool := !name.isEmpty && name != [CodePoint.dot]

def ofText (t : Text) : Path := ⟨PathRoot.ofText t, (pieces CodePoint.slash t).filter isStep⟩

def ofString (s : String) : Path := ofText (Text.ofString s)

def text (path : Path) : Text :=
  if path.root = .relative ∧ path.names = [] then [.dot]
  else path.root.text ++ [CodePoint.slash].intercalate path.names

def append (path : Path) (names : List Text) : Path := ⟨path.root, path.names ++ names⟩

def lastName (path : Path) : Text := path.names.getLast?.getD []

end Path

/-- The extension at the end of a name: what follows its last dot, if something comes before the
dot and something after it. -/
def extension? (name : Text) : Option Text :=
  match (pieces CodePoint.dot name).reverse with
  | last :: before :: earlier =>
    if last.isEmpty || (before.isEmpty && earlier.isEmpty) then none else some last
  | _ => none

namespace Mode

/-- The extensions of the files of each mode, in small letters. -/
def extensions : Mode → List String
  | markup => ["html", "htm", "xhtml"]
  | component => ["jsx", "js", "mjs"]

def ofExtension? (extension : Text) : Option Mode :=
  [markup, component].find? (fun mode =>
    (mode.extensions.map Text.ofString).contains (extension.map CodePoint.lowerAscii))

def ofPath? (path : Path) : Option Mode := (extension? path.lastName).bind ofExtension?

end Mode

end UsedSelectors
