import UsedSelectors.Report
import UsedSelectors.Text.Digits
import UsedSelectors.Tree

/-!
# JSON

JSON values, and how they are laid out: without spaces, and with the members of an object in the
given order. How the characters of a string are spelled is open; the plain spelling has no more
escapes than JSON asks for. A value is written in front of a text that follows it, so that values
can be put one after the other at no cost.

A report is an object in which nothing is left out, a node of a tree an object that begins with the
type of the node. A text with a surrogate cannot be written.
-/

namespace UsedSelectors

/-- A JSON value. Numbers are whole. -/
inductive Json where
  | null
  | number (n : Int)
  | string (s : String)
  | array (items : List Json)
  | object (members : List (String × Json))
  deriving Inhabited

namespace Json

/-- One character of a string: as it is, or escaped if it is a quote, a backslash or a control
character of ASCII. -/
def escape (c : Char) : List Char :=
  if c == '"' then ['\\', '"']
  else if c == '\\' then ['\\', '\\']
  else if c == '\x08' then ['\\', 'b']
  else if c == '\x0c' then ['\\', 'f']
  else if c == '\n' then ['\\', 'n']
  else if c == '\r' then ['\\', 'r']
  else if c == '\t' then ['\\', 't']
  else if c.toNat < 0x20 then ['\\', 'u'] ++ hexDigits 4 c.toNat
  else [c]

def escaped (s : String) : List Char := s.toList.flatMap escape

def writeNumber (n : Int) (rest : List Char) : List Char := (toString n).toList ++ rest

section Layout

variable (spell : String → List Char)

def writeString (s : String) (rest : List Char) : List Char := '"' :: (spell s ++ '"' :: rest)

mutual

def write : Json → List Char → List Char
  | null, rest => 'n' :: 'u' :: 'l' :: 'l' :: rest
  | number n, rest => writeNumber n rest
  | string s, rest => writeString spell s rest
  | array items, rest => '[' :: writeItems items (']' :: rest)
  | object members, rest => '\x7b' :: writeMembers members ('\x7d' :: rest)

def writeItems : List Json → List Char → List Char
  | [], rest => rest
  | item :: items, rest => write item (writeMoreItems items rest)

def writeMoreItems : List Json → List Char → List Char
  | [], rest => rest
  | item :: items, rest => ',' :: write item (writeMoreItems items rest)

def writeMembers : List (String × Json) → List Char → List Char
  | [], rest => rest
  | member :: members, rest => writeMember member (writeMoreMembers members rest)

def writeMoreMembers : List (String × Json) → List Char → List Char
  | [], rest => rest
  | member :: members, rest => ',' :: writeMember member (writeMoreMembers members rest)

def writeMember : String × Json → List Char → List Char
  | (name, value), rest => writeString spell name (':' :: write value rest)

end

def layout (value : Json) : String := String.ofList (value.write spell [])

end Layout

def encode (value : Json) : String := value.layout escaped

def ofOption : Option String → Json
  | none => null
  | some s => string s

end Json

/-! ## Reports and trees -/

open Encoding

def Text.toJson (t : Text) : Except EncodeError Json := (writable t).map Json.string

def Text.optionToJson : Option Text → Except EncodeError Json
  | none => .ok .null
  | some t => t.toJson

/-! ## Reports -/

def Report.toJson (report : Report) : Except EncodeError Json := do
  let path ← report.path.toJson
  let classNames ← report.classNames.mapM Text.toJson
  let ids ← report.ids.mapM Text.toJson
  let error ← Text.optionToJson report.error
  return .object [("path", path), ("mode", .ofOption report.mode),
    ("class_names", .array classNames), ("ids", .array ids), ("error", error)]

def JsonEncoder.plain : JsonEncoder where
  report report := report.toJson.map Json.encode
  reports reports := (reports.mapM Report.toJson).map (fun items => (Json.array items).encode)

/-! ## Trees -/

def Attribute.toJson (attr : Attribute) : Except EncodeError Json := do
  let value ← Text.optionToJson attr.value
  return .object [("name", .string attr.name), ("value", value)]

namespace Node

mutual

def toJson : Node → Except EncodeError Json
  | element name attributes children => do
    let attributes ← attributes.mapM Attribute.toJson
    let children ← listToJson children
    return .object [("type", .string "element"), ("name", .string name),
      ("attributes", .array attributes), ("children", .array children)]
  | other kind => .ok (.object [("type", .string "other"), ("kind", .string kind)])

def listToJson : List Node → Except EncodeError (List Json)
  | [] => .ok []
  | n :: ns => do
    let first ← toJson n
    let others ← listToJson ns
    return first :: others

end

end Node

/-- The text of a forest in the plain spelling. How deep nodes are nested is not limited here. -/
def encodeForest (roots : List Node) : Except EncodeError String :=
  (Node.listToJson roots).map (fun items => (Json.array items).encode)

end UsedSelectors
