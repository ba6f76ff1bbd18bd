import UsedSelectors.Encoding.Codec
import UsedSelectors.Parsing.SyntaxTree
import UsedSelectors.Text.Lines
import UsedSelectors.Text.Quoted

/-!
# Why a module gives no component trees

What is reported about a source that does not follow the grammar of its mode, and what else keeps
the trees of a module from being read.

A syntax error is reported at the first node, in the order of the text, that is an error or is
missing. Only nodes that have an error in them, or are missing, are looked at. Where it begins is
told by the row that the parser gives and by a column that counts characters.
-/

namespace UsedSelectors

structure ParseError where
  mode : String
  detail : Option String
  /-- The line, from one. -/
  line : Option Int
  /-- The column, from one. -/
  column : Option Int
  deriving DecidableEq

namespace ParseError

/-- The place of the error, if its line is known; an unknown column is named as such. -/
def location (e : ParseError) : String :=
  match e.line with
  | none => ""
  | some line =>
    match e.column with
    | none => s!" at {line}:None"
    | some column => s!" at {line}:{column}"

def message (e : ParseError) : String :=
  e.mode ++ " parse error" ++ e.location ++ ": " ++ e.detail.getD ""

end ParseError

namespace Component

inductive Mistake where
  | unplaced
  | missing (type : String)
  | unexpected (snippet : String)
  /-- Nothing but white space can be shown of what should not be there. -/
  | unexpectedToken
  deriving DecidableEq

def Mistake.message : Mistake → String
  | unplaced => "invalid syntax"
  | missing type => s!"missing {type}"
  | unexpected snippet => s!"unexpected {quoted snippet}"
  | unexpectedToken => "unexpected token"

inductive Failure where
  | parse (error : ParseError)
  | unencodable (error : Encoding.EncodeError)
  /-- The text of a node begins or ends inside a character. -/
  | undecodable (error : Encoding.DecodeError)
  | tooManyDigits (error : TooManyDigits)
  /-- An attribute has nothing in it that could be its name. -/
  | unnamedAttribute
  deriving DecidableEq

def Failure.message : Failure → String
  | parse error => error.message
  | unencodable error => error.message
  | undecodable error => error.message
  | tooManyDigits error => error.message
  | unnamedAttribute => "list index out of range"

end Component

/-! ## Places in a text -/

def bytesBetween (source : ByteArray) (start stop : Nat) : List UInt8 :=
  (source.extract start stop).data.toList

def lineFeed : UInt8 := 0x0A

/-- The column that an offset is in. A character of which only some bytes are in front of the
offset is counted as one. -/
def columnAt (source : ByteArray) (offset : Nat) : Nat :=
  let onLine := (bytesBetween source 0 offset).reverse.takeWhile (· != lineFeed) |>.reverse
  (Encoding.Utf8.codec.decodeLossy onLine).length + 1

/-! ## The first mistake -/

namespace SyntaxTree

def isMistake (t : SyntaxTree) : Bool := t.type == "ERROR" || t.label.isMissing

/-- Whether there may be a mistake in the node. -/
def isSuspect (t : SyntaxTree) : Bool := t.label.hasError || t.label.isMissing

/-- The first mistake in nodes that are still to be looked at, each before those inside it. -/
def firstMistakeIn : List SyntaxTree → Option SyntaxTree
  | [] => none
  | t :: rest =>
    if t.isMistake then some t
    else firstMistakeIn (t.children.filter isSuspect ++ rest)
termination_by pending => sizeList pending
decreasing_by
  have := sizeList_filter_le isSuspect t.children
  simp only [sizeList_append, sizeList, size_eq]; omega

def firstMistake? (t : SyntaxTree) : Option SyntaxTree := firstMistakeIn [t]

def text (source : ByteArray) (t : SyntaxTree) : Except Encoding.DecodeError (List Char) :=
  Encoding.Utf8.codec.decode (bytesBetween source t.label.start t.label.stop)

end SyntaxTree

namespace Component

def maxSnippet : Nat := 40

/-- What is wrong about an unexpected text: its first line, without white space around it and cut
to a fixed length, if there is anything in it. -/
def Mistake.ofText (cs : List Char) : Mistake :=
  match firstLine? (trimChars cs) with
  | none => .unexpectedToken
  | some line => .unexpected (String.ofList (line.take maxSnippet))

def mistakeAt (source : ByteArray) (t : SyntaxTree) : Except Encoding.DecodeError Mistake :=
  if t.label.isMissing then .ok (.missing t.type)
  else (t.text source).map Mistake.ofText

def syntaxFailure (source : ByteArray) (root : SyntaxTree) : Failure :=
  match root.firstMistake? with
  | none => .parse ⟨"component", some Mistake.unplaced.message, none, none⟩
  | some t =>
    match mistakeAt source t with
    | .error e => .undecodable e
    | .ok mistake =>
      .parse ⟨"component", some mistake.message, some (t.label.row + 1),
        some (columnAt source t.label.start)⟩

end Component

end UsedSelectors
