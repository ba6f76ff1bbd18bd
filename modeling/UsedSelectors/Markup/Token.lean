import UsedSelectors.Markup.CharacterReference

/-!
# Tokens of markup

Markup is a sequence of tags, comments, document types and text. What a document's text says is of
no concern except for white space and zero characters, which are treated differently.

Documents read references more strictly than single values do: a name is looked for only as long as
it can still become one, and in attribute values a name without a semicolon is no reference if more
of a word, or an equals sign, follows it.
-/

namespace UsedSelectors.Markup

structure TagAttribute where
  name : String
  value : Option String
  deriving DecidableEq, Inhabited

structure Tag where
  name : String
  attributes : List TagAttribute
  selfClosing : Bool
  deriving DecidableEq, Inhabited

structure Doctype where
  name : Option String
  publicId : Option String
  systemId : Option String
  isBroken : Bool
  deriving DecidableEq, Inhabited

inductive Token where
  | text (cs : List Char)
  | startTag (tag : Tag)
  | endTag (name : String)
  | comment
  | doctype (doctype : Doctype)
  deriving DecidableEq, Inhabited

/-- White space in markup. Carriage returns are line feeds by the time they are looked at, unless
they are written as references. -/
def isMarkupSpace (c : Char) : Bool :=
  c == '\t' || c == '\n' || c == '\x0c' || c == ' ' || c == '\r'

def isTagStart (c : Char) : Bool := c.isAlpha

def nameChar (c : Char) : Char :=
  if c == '\x00' then '\uFFFD' else if 'A' ≤ c && c ≤ 'Z' then c.toLower else c

def nameOf (cs : List Char) : String := String.ofList (cs.map nameChar)

end UsedSelectors.Markup

/-! ## References in documents -/

namespace UsedSelectors.Markup.Reference

open CharacterReference

def ofNumber (n : Nat) : Char :=
  if n = 0 ∨ (0xD800 ≤ n ∧ n < 0xE000) ∨ 0x110000 ≤ n then '\uFFFD'
  else if 0x80 ≤ n ∧ n < 0xA0 then windowsChar n
  else Char.ofNat n

def number? (base : Nat) (isDigit : Char → Bool) (cs : List Char) : Option (List Char × Nat) :=
  let digits := cs.takeWhile isDigit
  if digits.isEmpty then none
  else
    some ([ofNumber (ofDigits base (digits.filterMap hexValue?))],
      digits.length + semicolonLength (cs.drop digits.length))

def continuesWord : Option Char → Bool
  | none => false
  | some c => c == '=' || c.isAlphanum

def named? (inAttribute : Bool) (cs : List Char) : Option (List Char × Nat) :=
  let word := (cs.take maxNameLength).takeWhile Char.isAlphanum
  let terminated :=
    if semicolonLength (cs.drop word.length) = 1 then CharacterNames.find? word else none
  match terminated with
  | some chars => some (chars.toList, word.length + 1)
  | none =>
    match longestBareName? word word.length with
    | none => none
    | some (chars, length) =>
      if inAttribute && continuesWord (cs.drop length).head? then none else some (chars, length)

/-- The reference that begins after an ampersand: what it denotes, and how many characters it
takes. -/
def read? (inAttribute : Bool) (cs : List Char) : Option (List Char × Nat) :=
  match cs with
  | '#' :: x :: rest =>
    if x == 'x' || x == 'X' then
      (number? 16 isHexDigit rest).map (fun found => (found.1, found.2 + 2))
    else (number? 10 isDecimalDigit (x :: rest)).map (fun found => (found.1, found.2 + 1))
  | _ => named? inAttribute cs

def decodeFrom (inAttribute : Bool) (done : List Char) : List Char → List Char
  | [] => done.reverse
  | c :: rest =>
    if c == '&' then
      match read? inAttribute rest with
      | none => decodeFrom inAttribute ('&' :: done) rest
      | some (chars, length) =>
        decodeFrom inAttribute (chars.reverse ++ done) (rest.drop length)
    else decodeFrom inAttribute (c :: done) rest
termination_by cs => cs.length
decreasing_by all_goals simp only [List.length_drop, List.length_cons]; omega

def decode (inAttribute : Bool) (cs : List Char) : List Char := decodeFrom inAttribute [] cs

end UsedSelectors.Markup.Reference
