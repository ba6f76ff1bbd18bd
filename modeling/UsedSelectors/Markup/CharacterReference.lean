import UsedSelectors.Encoding.Codec
import UsedSelectors.Markup.CharacterNames
import UsedSelectors.Text.Digits

/-!
# Character references

A character reference is an ampersand followed by a name or by a number sign and digits; a
semicolon ends it, but may be left out. Decoding a text replaces each reference by what it denotes
and leaves every other character alone, so what a reference denotes is never read again.
-/

namespace UsedSelectors.Markup.CharacterReference

def isDecimalDigit (c : Char) : Bool := '0' ≤ c && c ≤ '9'

/-- Control characters and noncharacters: a reference to one of them denotes nothing. -/
def denotesNothing (n : Nat) : Bool :=
  (0x01 ≤ n && n ≤ 0x08) || n == 0x0B || (0x0E ≤ n && n ≤ 0x1F) || (0x7F ≤ n && n ≤ 0x9F) ||
    (0xFDD0 ≤ n && n ≤ 0xFDEF) || (n % 0x10000 ≥ 0xFFFE)

def windowsChar (n : Nat) : Char :=
  (Encoding.SingleByte.windowsChar? n).getD (Char.ofNat n)

/-- What a reference to a number denotes. Numbers of no character give U+FFFD, and the second
range of control characters is read as Windows-1252. -/
def ofNumber (n : Nat) : List Char :=
  if n = 0 then ['\uFFFD']
  else if 0x80 ≤ n ∧ n < 0xA0 then [windowsChar n]
  else if (0xD800 ≤ n ∧ n < 0xE000) ∨ 0x110000 ≤ n then ['\uFFFD']
  else if denotesNothing n then []
  else [Char.ofNat n]

def semicolonLength : List Char → Nat
  | ';' :: _ => 1
  | _ => 0

def isNameChar (c : Char) : Bool :=
  !(c == '\t' || c == '\n' || c == '\x0c' || c == ' ' || c == '<' || c == '&' || c == '#' ||
    c == ';')

def maxNameLength : Nat := 32

/-- The longest beginning of a word, of at most `length` characters but at least two, that is a
name which needs no semicolon: its characters, and how long it is. -/
def longestBareName? (word : List Char) : (length : Nat) → Option (List Char × Nat)
  | 0 => none
  | 1 => none
  | length + 1 =>
    match CharacterNames.findBare? (word.take (length + 1)) with
    | some chars => some (chars.toList, length + 1)
    | none => longestBareName? word length

/-- What a named reference denotes. Where the whole word is no name, a beginning of it may be; a
word that does not begin with a name stays as it is. -/
def ofName (word : List Char) (terminated : Bool) : List Char :=
  let known := if terminated then CharacterNames.find? word else CharacterNames.findBare? word
  match known with
  | some chars => chars.toList
  | none =>
    let whole := if terminated then word ++ [';'] else word
    match longestBareName? whole (whole.length - 1) with
    | some (chars, length) => chars ++ whole.drop length
    | none => '&' :: whole

def decimal? (cs : List Char) : Option (Except TooManyDigits (List Char) × Nat) :=
  let digits := cs.takeWhile isDecimalDigit
  if digits.isEmpty then none
  else
    some ((ofDecimalDigits (digits.filterMap hexValue?)).map ofNumber,
      digits.length + semicolonLength (cs.drop digits.length))

def hexadecimal? (cs : List Char) : Option (List Char × Nat) :=
  let digits := cs.takeWhile isHexDigit
  if digits.isEmpty then none
  else
    some (ofNumber (ofDigits 16 (digits.filterMap hexValue?)),
      digits.length + semicolonLength (cs.drop digits.length))

def named? (cs : List Char) : Option (List Char × Nat) :=
  let word := (cs.take maxNameLength).takeWhile isNameChar
  if word.isEmpty then none
  else
    let semicolon := semicolonLength (cs.drop word.length)
    some (ofName word (semicolon == 1), word.length + semicolon)

/-- The reference at the front of what follows an ampersand: what it denotes, and how many
characters it takes. -/
def read? (cs : List Char) : Option (Except TooManyDigits (List Char) × Nat) :=
  match cs with
  | '#' :: x :: rest =>
    if x == 'x' || x == 'X' then
      (hexadecimal? rest).map (fun found => (.ok found.1, found.2 + 2))
    else (decimal? (x :: rest)).map (fun found => (found.1, found.2 + 1))
  | _ => (named? cs).map (fun found => (.ok found.1, found.2))

def decode : List Char → Except TooManyDigits (List Char)
  | [] => .ok []
  | c :: rest =>
    if c == '&' then
      match read? rest with
      | none => (decode rest).map ('&' :: ·)
      | some (denoted, length) =>
        match denoted with
        | .error e => .error e
        | .ok chars => (decode (rest.drop length)).map (chars ++ ·)
    else (decode rest).map (c :: ·)
termination_by cs => cs.length
decreasing_by all_goals simp only [List.length_drop, List.length_cons]; omega

end UsedSelectors.Markup.CharacterReference
