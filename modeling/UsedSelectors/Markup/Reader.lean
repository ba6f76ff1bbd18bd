import UsedSelectors.Markup.Token

/-!
# Reading tags, document types and raw text

A tag is a name followed by attributes. Whatever does not end the tag is read as an attribute, so
names may hold quotes and equals signs. A tag that the document ends in is no tag. A document type
has a name and may have a public and a system identifier; one that is not well formed is still a
document type, but a broken one. Some elements hold nothing but text, which ends at their own end
tag; in scripts an end tag does not count while a comment with a script start tag in it is open.
-/

/-! ## Tags -/

namespace UsedSelectors.Markup.TagReader

def isTagNamePart (c : Char) : Bool := !(isMarkupSpace c || c == '/' || c == '>')

def isNamePart (c : Char) : Bool := isTagNamePart c && c != '='

def isBarePart (c : Char) : Bool := !(isMarkupSpace c || c == '>')

def valueOf (cs : List Char) : String :=
  String.ofList (Reference.decode true (cs.map (fun c => if c == '\x00' then '\uFFFD' else c)))

/-- The value at the front of what follows a quote, and how many characters it takes with the
quote that ends it. -/
def readQuoted (quote : Char) (cs : List Char) : Option String × Nat :=
  let value := cs.takeWhile (· != quote)
  (some (valueOf value), value.length + 1)

def readValue (cs : List Char) : Option String × Nat :=
  let spaces := (cs.takeWhile isMarkupSpace).length
  match cs.drop spaces with
  | '"' :: rest =>
    let found := readQuoted '"' rest
    (found.1, found.2 + spaces + 1)
  | '\'' :: rest =>
    let found := readQuoted '\'' rest
    (found.1, found.2 + spaces + 1)
  | rest =>
    let value := rest.takeWhile isBarePart
    (if value.isEmpty then none else some (valueOf value), value.length + spaces)

/-- The attribute whose name begins with a character, and how many of the characters after it the
attribute takes. -/
def readAttribute (c : Char) (rest : List Char) : TagAttribute × Nat :=
  let more := rest.takeWhile isNamePart
  let name := nameOf (c :: more)
  let spaces := ((rest.drop more.length).takeWhile isMarkupSpace).length
  match rest.drop (more.length + spaces) with
  | '=' :: after =>
    let value := readValue after
    (⟨name, value.1⟩, more.length + spaces + 1 + value.2)
  | _ => (⟨name, none⟩, more.length)

structure TagEnd where
  attributes : List TagAttribute
  selfClosing : Bool
  length : Nat

def addAttribute (attr : TagAttribute) (attributes : List TagAttribute) : List TagAttribute :=
  if attributes.any (fun a => a.name == attr.name) then attributes else attr :: attributes

/-- Reads the attributes of a tag up to its end, after the attributes that were read before, last
one first, which took `length` characters. -/
def readTagEnd (before : List TagAttribute) (length : Nat) : List Char → Option TagEnd
  | [] => none
  | c :: rest =>
    if c == '>' then some ⟨before.reverse, false, length + 1⟩
    else if c == '/' then
      if rest.head? == some '>' then some ⟨before.reverse, true, length + 2⟩
      else readTagEnd before (length + 1) rest
    else if isMarkupSpace c then readTagEnd before (length + 1) rest
    else
      let found := readAttribute c rest
      readTagEnd (addAttribute found.1 before) (length + 1 + found.2) (rest.drop found.2)
termination_by cs => cs.length
decreasing_by all_goals simp only [List.length_drop, List.length_cons]; omega

/-- The tag at the front of what follows the mark that begins it, and how many characters it
takes. -/
def readTag (cs : List Char) : Option (Tag × Nat) :=
  let name := cs.takeWhile isTagNamePart
  (readTagEnd [] name.length (cs.drop name.length)).map
    (fun found => (⟨nameOf name, found.attributes, found.selfClosing⟩, found.length))

end UsedSelectors.Markup.TagReader

/-! ## Document types -/

namespace UsedSelectors.Markup.DoctypeReader

/-- How much of a declaration was read: the document type, how many characters were taken, and
whether its end is still to be found. -/
structure Progress where
  doctype : Doctype
  length : Nat
  isOpen : Bool

def spaceLength (cs : List Char) : Nat := (cs.takeWhile isMarkupSpace).length

def startsWithWord (word : String) (cs : List Char) : Bool :=
  (cs.take word.length).map Char.toLower == word.toList

/-- An identifier between quotes: what it is, how many characters it takes with its last quote,
and whether that quote is there. -/
def readQuoted (quote : Char) (cs : List Char) : String × Nat × Bool :=
  let inside := cs.takeWhile (fun c => c != quote && c != '>')
  let text := String.ofList (inside.map (fun c => if c == '\x00' then '\uFFFD' else c))
  match cs.drop inside.length with
  | c :: _ => (text, inside.length + 1, c == quote)
  | [] => (text, inside.length, false)

def quote? : List Char → Option Char
  | c :: _ => if c == '"' || c == '\'' then some c else none
  | [] => none

def finish (doctype : Doctype) (length : Nat) : Progress := ⟨doctype, length + 1, false⟩

def broken (doctype : Doctype) (length : Nat) : List Char → Progress
  | '>' :: _ => ⟨{ doctype with isBroken := true }, length + 1, false⟩
  | _ => ⟨{ doctype with isBroken := true }, length, true⟩

def readEnd (doctype : Doctype) (length : Nat) (cs : List Char) : Progress :=
  let spaces := spaceLength cs
  match cs.drop spaces with
  | [] => ⟨{ doctype with isBroken := true }, length + spaces, false⟩
  | '>' :: _ => finish doctype (length + spaces)
  | _ => ⟨doctype, length + spaces, true⟩

def readSystemId (optional : Bool) (doctype : Doctype) (length : Nat) (cs : List Char) :
    Progress :=
  let spaces := spaceLength cs
  let rest := cs.drop spaces
  match quote? rest with
  | some quote =>
    let found := readQuoted quote (rest.drop 1)
    let doctype := { doctype with systemId := some found.1 }
    let length := length + spaces + 1 + found.2.1
    if found.2.2 then readEnd doctype length (rest.drop (1 + found.2.1))
    else ⟨{ doctype with isBroken := true }, length, false⟩
  | none =>
    if optional && rest.head? == some '>' then finish doctype (length + spaces)
    else broken doctype (length + spaces) rest

def readPublicId (doctype : Doctype) (length : Nat) (cs : List Char) : Progress :=
  let spaces := spaceLength cs
  let rest := cs.drop spaces
  match quote? rest with
  | some quote =>
    let found := readQuoted quote (rest.drop 1)
    let doctype := { doctype with publicId := some found.1 }
    let length := length + spaces + 1 + found.2.1
    if found.2.2 then readSystemId true doctype length (rest.drop (1 + found.2.1))
    else ⟨{ doctype with isBroken := true }, length, false⟩
  | none => broken doctype (length + spaces) rest

def readIds (doctype : Doctype) (length : Nat) (cs : List Char) : Progress :=
  let spaces := spaceLength cs
  let rest := cs.drop spaces
  match rest with
  | [] => ⟨{ doctype with isBroken := true }, length + spaces, false⟩
  | '>' :: _ => finish doctype (length + spaces)
  | _ =>
    if startsWithWord "public" rest then
      readPublicId doctype (length + spaces + 6) (rest.drop 6)
    else if startsWithWord "system" rest then
      readSystemId false doctype (length + spaces + 6) (rest.drop 6)
    else broken doctype (length + spaces) rest

def readName (cs : List Char) : Progress :=
  let spaces := spaceLength cs
  let rest := cs.drop spaces
  let name := rest.takeWhile (fun c => !(isMarkupSpace c || c == '>'))
  if name.isEmpty then broken ⟨none, none, none, false⟩ spaces rest
  else
    readIds ⟨some (nameOf name), none, none, false⟩ (spaces + name.length) (rest.drop name.length)

def read (cs : List Char) : Doctype × Nat :=
  let found := readName cs
  if found.isOpen then
    (found.doctype, found.length + ((cs.drop found.length).takeWhile (· != '>')).length + 1)
  else (found.doctype, found.length)

end UsedSelectors.Markup.DoctypeReader

/-! ## Text that holds no tags -/

namespace UsedSelectors.Markup.RawText

/-- Whether a text begins with a word in letters of any case, followed by what may follow the name
of a tag. -/
def startsWithTagName (name : String) (cs : List Char) : Bool :=
  (cs.take name.length).map Char.toLower == name.toList &&
    match cs.drop name.length with
    | [] => false
    | c :: _ => isMarkupSpace c || c == '/' || c == '>'

def startsWithEndTag (name : String) : List Char → Bool
  | '<' :: '/' :: rest => startsWithTagName name rest
  | _ => false

def lengthUpTo (name : String) (length : Nat) : List Char → Nat
  | [] => length
  | c :: rest =>
    if startsWithEndTag name (c :: rest) then length else lengthUpTo name (length + 1) rest

inductive ScriptState where
  | plain
  | commented (dashes : Nat)
  | nested (dashes : Nat)
  deriving DecidableEq

def startsWithComment : List Char → Bool
  | '<' :: '!' :: '-' :: '-' :: _ => true
  | _ => false

/-- How many characters of a script are passed over together, and the state after them; `none` at
the end tag of the script. -/
def scriptStep (state : ScriptState) (c : Char) (rest : List Char) : Option (Nat × ScriptState) :=
  match state with
  | .plain =>
    if startsWithEndTag "script" (c :: rest) then none
    else if startsWithComment (c :: rest) then some (3, .commented 2)
    else some (0, .plain)
  | .commented dashes =>
    if startsWithEndTag "script" (c :: rest) then none
    else if c == '-' then some (0, .commented (min 2 (dashes + 1)))
    else if c == '>' && dashes == 2 then some (0, .plain)
    else if c == '<' && startsWithTagName "script" rest then some (7, .nested 0)
    else some (0, .commented 0)
  | .nested dashes =>
    if c == '-' then some (0, .nested (min 2 (dashes + 1)))
    else if c == '>' && dashes == 2 then some (0, .plain)
    else if startsWithEndTag "script" (c :: rest) then some (8, .commented 0)
    else some (0, .nested 0)

def scriptLength (state : ScriptState) (length : Nat) : List Char → Nat
  | [] => length
  | c :: rest =>
    match scriptStep state c rest with
    | none => length
    | some (extra, after) =>
      scriptLength after (length + 1 + (rest.take extra).length) (rest.drop extra)
termination_by cs => cs.length
decreasing_by simp only [List.length_drop, List.length_cons]; omega

end UsedSelectors.Markup.RawText
