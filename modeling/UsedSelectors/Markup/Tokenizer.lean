import UsedSelectors.Markup.Reader

/-!
# The next token

One token is read from the front of a document. What is a token there depends on the element that
is open: some elements hold text only, and text sections are known only inside foreign elements.
Every call takes at least one character.
-/

namespace UsedSelectors.Markup

inductive ContentModel where
  | data
  | references (name : String)
  | raw (name : String)
  | script
  | plain
  deriving DecidableEq, Inhabited

namespace Tokenizer

def commentLength (length : Nat) : List Char → Nat
  | [] => length
  | '-' :: '-' :: '>' :: _ => length + 3
  | '-' :: '-' :: '!' :: '>' :: _ => length + 4
  | _ :: rest => commentLength (length + 1) rest

/-- The length of a comment whose mark has been read; it may end before it has begun. -/
def commentEnd : List Char → Nat
  | '>' :: _ => 1
  | '-' :: '>' :: _ => 2
  | cs => commentLength 0 cs

def lengthToBracket (cs : List Char) : Nat := (cs.takeWhile (· != '>')).length + 1

def sectionLength (length : Nat) : List Char → Nat
  | [] => length
  | ']' :: ']' :: '>' :: _ => length
  | _ :: rest => sectionLength (length + 1) rest

/-- The token after an opening angle bracket and an exclamation mark, and how many characters it
takes after them. -/
def declaration (foreign : Bool) (cs : List Char) : Token × Nat :=
  if cs.take 2 == ['-', '-'] then (.comment, 2 + commentEnd (cs.drop 2))
  else if DoctypeReader.startsWithWord "doctype" cs then
    let found := DoctypeReader.read (cs.drop 7)
    (.doctype found.1, 7 + found.2)
  else if foreign && cs.take 7 == "[CDATA[".toList then
    let length := sectionLength 0 (cs.drop 7)
    (.text ((cs.drop 7).take length), 7 + length + 3)
  else (.comment, lengthToBracket cs)

def unfinished (cs : List Char) : Token × Nat := (.text [], cs.length)

def closing (cs : List Char) : Token × Nat :=
  match cs with
  | [] => (.text ['<', '/'], 0)
  | c :: _ =>
    if isTagStart c then
      match TagReader.readTag cs with
      | some (tag, length) => (.endTag tag.name, length)
      | none => unfinished cs
    else if c == '>' then (.text [], 1)
    else (.comment, lengthToBracket cs)

def markup (foreign : Bool) (cs : List Char) : Token × Nat :=
  match cs with
  | '!' :: rest =>
    let found := declaration foreign rest
    (found.1, found.2 + 1)
  | '/' :: rest =>
    let found := closing rest
    (found.1, found.2 + 1)
  | '?' :: rest => (.comment, lengthToBracket rest + 1)
  | c :: _ =>
    if isTagStart c then
      match TagReader.readTag cs with
      | some (tag, length) => (.startTag tag, length)
      | none => unfinished cs
    else (.text ['<'], 0)
  | [] => (.text ['<'], 0)

def withoutZeros (cs : List Char) : List Char :=
  cs.map (fun c => if c == '\x00' then '\uFFFD' else c)

def rawText (decode : List Char → List Char) (length : Nat) (cs : List Char) : Token × Nat :=
  if length = 0 then
    let found := closing (cs.drop 2)
    (found.1, found.2 + 1)
  else (.text (decode (withoutZeros (cs.take length))), length - 1)

/-- The token that begins with a character, and how many of the characters after it belong to
it. -/
def next (model : ContentModel) (foreign : Bool) (c : Char) (rest : List Char) : Token × Nat :=
  match model with
  | .data =>
    if c == '<' then markup foreign rest
    else
      let more := rest.takeWhile (· != '<')
      (.text (Reference.decode false (c :: more)), more.length)
  | .references name =>
    rawText (Reference.decode false) (RawText.lengthUpTo name 0 (c :: rest)) (c :: rest)
  | .raw name => rawText id (RawText.lengthUpTo name 0 (c :: rest)) (c :: rest)
  | .script => rawText id (RawText.scriptLength .plain 0 (c :: rest)) (c :: rest)
  | .plain => (.text (withoutZeros (c :: rest)), rest.length)

end Tokenizer

end UsedSelectors.Markup
