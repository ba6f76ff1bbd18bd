import UsedSelectors.Encoding.Charset
import UsedSelectors.Files.FileSystem
import UsedSelectors.Text.Lines

/-!
# Source texts

The text of a source file. Its size is tested before anything is decoded, and its lines end with
line feeds only. What keeps a file from being read is a fault of the path, its size, a directory in
its place, or bytes or an encoding that give no text.
-/

namespace UsedSelectors

open Encoding

inductive ReadError where
  | path (path : Path) (fault : PathFault)
  | tooLarge (path : Path) (size : Nat) (limit : Int)
  | directory (path : Path)
  | charset (error : UnknownCharset)
  /-- The bytes are no text in the encoding. -/
  | decode (error : DecodeFailure)
  deriving DecidableEq

namespace ReadError

def message : ReadError → Text
  | path p .missing => Text.ofString "[Errno 2] No such file or directory: " ++ p.text.quoted
  | path p .notDirectory => Text.ofString "[Errno 20] Not a directory: " ++ p.text.quoted
  | path p .tooLong => Text.ofString "[Errno 36] File name too long: " ++ p.text.quoted
  | path _ .zeroInPath => Text.ofString "embedded null byte"
  | path _ (.unencodable error) => Text.ofString error.message
  | tooLarge p size limit => p.text ++ Text.ofString s!" is {size} bytes (limit {limit})"
  | directory p => Text.ofString "[Errno 21] Is a directory: " ++ p.text.quoted
  | charset error => Text.ofString error.message
  | decode error => Text.ofString error.message

/-- Whether a file is left out for this reason. The other reasons end the run. -/
def isSkipped : ReadError → Bool
  | path _ .zeroInPath | path _ (.unencodable _) | charset .zeroInName | decode .noByteOrder =>
    false
  | decode (.registered fault) => fault.isUndecodable
  | _ => true

end ReadError

namespace FileSystem

def textOfBytes (charset : Charset) (bytes : List UInt8) : Except ReadError Text :=
  ((charset.decode bytes).mapError .decode).map (fun cs => Text.ofChars (unifyLineBreaks cs))

/-- The text that bytes stand for in an encoding that is not built in. -/
def registeredText (registry : Registry) (name : String) (bytes : List UInt8) :
    Except ReadError Text :=
  match registry name with
  | none => .error (.charset (.unknown name))
  | some decode =>
    ((decode bytes).mapError (fun fault => .decode (.registered fault))).map Text.unifyLineBreaks

/-- The text of what a path has led to, read in the encoding of a name. A name that cannot be asked
for is found out first, then a directory, then a name that belongs to no encoding. -/
def textOfTree (registry : Registry) (path : Path) (encoding : String) (tree : FileTree) :
    Except ReadError Text :=
  match Charset.ofName encoding, tree with
  | .error .zeroInName, _ => .error (.charset .zeroInName)
  | _, .directory .. => .error (.directory path)
  | .error (.unknown name), .file bytes => registeredText registry name bytes
  | .error error, .file _ => .error (.charset error)
  | .ok charset, .file bytes => textOfBytes charset bytes

def sourceText (system : FileSystem) (registry : Registry) (path : Path) (limit : Int)
    (encoding : String) : Except ReadError Text :=
  match system.find path with
  | .error fault => .error (.path path fault)
  | .ok place =>
    if limit < place.tree.size then .error (.tooLarge path place.tree.size limit)
    else textOfTree registry path encoding place.tree

end FileSystem

end UsedSelectors
