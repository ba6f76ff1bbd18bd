import UsedSelectors.Parsing.Parser

/-!
# The scanner of scripts

Tokens that no automaton can tell: semicolons that are left out, the text of templates and of
elements, question marks of conditional expressions, and comments in the style of markup.
-/

namespace UsedSelectors.Script.Scanner

open Parsing

/-- The tokens of the scanner, in the order of the grammar. -/
inductive Kind where
  | semicolon
  | templateChars
  | questionMark
  | markupComment
  /-- The operator `||`; where it is valid an expression has ended. -/
  | logicalOr
  /-- An escape; where it is valid the text is inside a string. -/
  | escape
  /-- The inside of a regular expression; where it is valid one has begun. -/
  | regexPattern
  | elementText
  deriving DecidableEq

def Kind.number : Kind → Nat
  | semicolon => 0
  | templateChars => 1
  | questionMark => 2
  | markupComment => 3
  | logicalOr => 4
  | escape => 5
  | regexPattern => 6
  | elementText => 7

/-- White space, as the scanner sees it. No-break spaces do not count. -/
def isSpace (n : Nat) : Bool :=
  (0x09 ≤ n && n ≤ 0x0D) || n == 0x20 || n == 0x1680 || (0x2000 ≤ n && n ≤ 0x2006) ||
    (0x2008 ≤ n && n ≤ 0x200A) || n == 0x2028 || n == 0x2029 || n == 0x205F || n == 0x3000

def isLineBreak (n : Nat) : Bool := n == 0x0A || n == 0x2028 || n == 0x2029

/-- The first place from `i` on whose character fails a test; the end of the text has number 0. -/
def skipWhile (source : Source) (test : Nat → Bool) (i : Nat) : Nat :=
  if h : i < source.size then
    if test (source.code i) then skipWhile source test (i + 1) else i
  else i
termination_by source.size - i

/-- The end of the text of a template that starts at `i`: a backquote, an escape or a
substitution. -/
def templateEnd (source : Source) (i : Nat) : Option Nat :=
  if h : i < source.size then
    let c := source.code i
    if c = 0x60 || c = 0x5C then some i
    else if c = 0 then none
    else if c = 0x24 && source.code (i + 1) = 0x7B then some i
    else templateEnd source (i + 1)
  else none
termination_by source.size - i

def templateChars (source : Source) (start : Nat) : Option Scanned :=
  match templateEnd source start with
  | some stop => if start < stop then some ⟨Kind.templateChars.number, start, stop⟩ else none
  | none => none

/-- Whether an element's text says something: blanks after a line break say nothing, and neither do
line breaks. -/
def saysSomething (atBreak : Bool) : List Nat → Bool
  | [] => false
  | c :: rest =>
    if c = 0x0A then saysSomething true rest
    else if atBreak && isSpace c then saysSomething true rest
    else true

def isElementText (c : Nat) : Bool :=
  c != 0 && c != 0x3C && c != 0x3E && c != 0x7B && c != 0x7D && c != 0x26

inductive Gap where
  | slash (place : Nat)
  /-- Behind a comment on one line; it is not clear yet whether a semicolon is left out. -/
  | sameLine (place : Nat)
  | ended (place : Nat)

/-- The place behind a comment whose inside starts at `i`, and whether there is a line break in it. A
comment without end gives the end of the text. -/
def commentEnd (source : Source) (i : Nat) (sawBreak : Bool) : Nat × Bool × Bool :=
  if h : i < source.size then
    let c := source.code i
    if c = 0 then (i, sawBreak, false)
    else if c = 0x2A && source.code (i + 1) = 0x2F then (i + 2, sawBreak, true)
    else commentEnd source (i + 1) (sawBreak || isLineBreak c)
  else (i, sawBreak, false)
termination_by source.size - i

/-- Reads blanks and comments; the flags tell whether a comment was read, and whether a line break
was seen in one. With `all` every comment is read, without it only the first one between marks. -/
def readGap (source : Source) (all : Bool) : Nat → Nat → Bool → Bool → Gap × Bool
  | 0, i, sawComment, _ => (.ended i, sawComment)
  | fuel + 1, i, sawComment, sawBreak =>
    let i := skipWhile source isSpace i
    if source.code i = 0x2F then
      if source.code (i + 1) = 0x2F then
        let stop := skipWhile source (fun c => c != 0 && !isLineBreak c) (i + 2)
        readGap source all fuel stop true sawBreak
      else if source.code (i + 1) = 0x2A then
        let (stop, sawBreak, isClosed) := commentEnd source (i + 2) sawBreak
        if isClosed && source.code stop != 0x2F && !all then
          (if sawBreak then .ended stop else .sameLine stop, true)
        else readGap source all fuel stop (sawComment || isClosed) sawBreak
      else (.slash (i + 1), sawComment)
    else (.ended i, sawComment)

def isLetter (n : Nat) : Bool :=
  (0x41 ≤ n && n ≤ 0x5A) || (0x61 ≤ n && n ≤ 0x7A) ||
    (0xAA ≤ n && n != 0xAB && n != 0xAC && n != 0xAD && n != 0xAE && n != 0xAF && n != 0xB0 &&
      n != 0xD7 && n != 0xF7 && !isSpace n)

def isDigit (n : Nat) : Bool := 0x30 ≤ n && n ≤ 0x39

/-- Whether a semicolon is left out in front of what follows a line break: not in front of what goes
on with an expression. The place that was reached comes with the answer. -/
def endsStatement (source : Source) (i : Nat) : Bool × Nat :=
  let code := fun k => source.code (i + k)
  let c := code 0
  if (CharSet.ofString "\x60,:;*%><=[(?^|&/").contains c then (false, i)
  else if c = 0x2E then (isDigit (code 1), i + 1)
  else if c = 0x2B || c = 0x2D then (code 1 == c, i + 1)
  else if c = 0x21 then (code 1 != 0x3D, i + 1)
  else if c = 0x69 && code 1 = 0x6E then
    -- `in` and `instanceof` go on with an expression
    if !isLetter (code 2) then (false, i + 2)
    else if "stanceof".toList.zipIdx.all fun (c, k) => code (2 + k) == c.toNat then
      (isLetter (code 10), i + 10)
    else (true, i + 2)
  else (true, i)

/-- Looks for a semicolon that is left out, from `i` on. The answer comes with the place that was
reached and whether a comment was read. `afterComment` tells whether a comment may end a
statement. -/
def semicolonFrom (source : Source) (afterComment : Bool) :
    Nat → Nat → Bool → Bool × Nat × Bool
  | 0, i, sawComment => (false, i, sawComment)
  | fuel + 1, i, sawComment =>
    if source.code i = 0 then (true, i, sawComment)
    else
      let (gap, sawComment) :=
        if source.code i = 0x2F then readGap source false (source.size + 1) i sawComment false
        else (.sameLine i, sawComment)
      match gap with
      | .slash place => (false, place, sawComment)
      | .ended place =>
        if afterComment && source.code place != 0x2C && source.code place != 0x3D then
          (true, place, sawComment)
        else semicolonAt source afterComment fuel place sawComment
      | .sameLine place => semicolonAt source afterComment fuel place sawComment
where
  semicolonAt (source : Source) (afterComment : Bool) (fuel i : Nat) (sawComment : Bool) :
      Bool × Nat × Bool :=
    let c := source.code i
    if c = 0x7D then (true, i, sawComment)
    else if i = 0 && 0 < source.size then (true, i, sawComment)
    else if isLineBreak c then
      let (gap, sawComment) := readGap source true (source.size + 1) (i + 1) sawComment false
      match gap with
      | .slash place => (false, place, sawComment)
      | .sameLine place | .ended place =>
        let (ends, reached) := endsStatement source place
        (ends, reached, sawComment)
    else if !isSpace c then (false, i, sawComment)
    else semicolonFrom source afterComment fuel (i + 1) sawComment

def questionMark (source : Source) (i : Nat) : Option Scanned :=
  let start := skipWhile source isSpace i
  if source.code start != 0x3F || source.code (start + 1) = 0x3F then none
  else if source.code (start + 1) = 0x2E && !isDigit (source.code (start + 2)) then none
  else some ⟨Kind.questionMark.number, start, start + 1⟩

/-- A comment in the style of markup: its start, or its end, up to the end of the line. -/
def markupComment (source : Source) (first i : Nat) : Option Scanned :=
  let start := skipWhile source (fun c => isSpace c || c == 0x2028 || c == 0x2029) i
  let startsWith := fun (mark : String) =>
    mark.toList.zipIdx.all fun (c, k) => source.code (start + k) == c.toNat
  let length := if startsWith "<!--" then 4 else if startsWith "-->" then 3 else 0
  if length = 0 then none
  else
    let stop := skipWhile source (fun c => c != 0 && !isLineBreak c) (start + length)
    some ⟨Kind.markupComment.number, if start = i then first else start, stop⟩

def scan (source : Source) (wanted place : Nat) : Option Scanned :=
  let isWanted := fun (kind : Kind) => wanted.testBit kind.number
  let i := source.enter place
  if isWanted .templateChars then
    if isWanted .semicolon then none else templateChars source i
  else
    let textEnd := if isWanted .elementText then skipWhile source isElementText i else i
    let text := (List.range (textEnd - i)).map fun k => source.code (i + k)
    if saysSomething false text then some ⟨Kind.elementText.number, i, textEnd⟩
    else if isWanted .semicolon then
      let (found, reached, sawComment) :=
        semicolonFrom source (!isWanted .logicalOr) (source.size + 1) textEnd false
      if found then some ⟨Kind.semicolon.number, textEnd, textEnd⟩
      else if !sawComment && isWanted .questionMark && source.code reached = 0x3F then
        questionMark source reached
      else none
    else if isWanted .questionMark then questionMark source textEnd
    else if isWanted .markupComment && !isWanted .logicalOr && !isWanted .escape &&
        !isWanted .regexPattern then
      markupComment source i textEnd
    else none

end UsedSelectors.Script.Scanner
