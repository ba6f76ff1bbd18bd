import UsedSelectors.Text.CodePoint

/-!
# Words and lines

Which characters separate words, how a text is split into words, how its ends are trimmed and
where its lines end. Words are split at every white space character; lines end at ten characters, a
carriage return followed by a line feed ending one line. The text of a source has line feeds only.
-/

namespace UsedSelectors

/-! ## Pieces -/

/-- The pieces between the separators of a list. There is one piece more than there are separators,
so a list without separators is its own only piece. -/
def pieces [BEq α] (separator : α) : List α → List (List α)
  | [] => [[]]
  | a :: rest =>
    if a == separator then [] :: pieces separator rest
    else match pieces separator rest with
      | [] => [[a]]
      | piece :: more => (a :: piece) :: more

/-! ## White space -/

/-- White space: the characters of bidirectional type B, S or WS and all space separators. -/
def isBlankCode (n : Nat) : Bool :=
  (0x09 ≤ n && n ≤ 0x0D) || (0x1C ≤ n && n ≤ 0x20) || n == 0x85 || n == 0xA0 || n == 0x1680 ||
    (0x2000 ≤ n && n ≤ 0x200A) || n == 0x2028 || n == 0x2029 || n == 0x202F || n == 0x205F ||
    n == 0x3000

def CodePoint.isBlank (c : CodePoint) : Bool := isBlankCode c.val

def isBlankChar (c : Char) : Bool := isBlankCode c.toNat

/-- Adds `c` to the front of the first word; a blank ends the word before it. -/
def Text.wordsStep (c : CodePoint) (words : List Text) : List Text :=
  if c.isBlank then [] :: words
  else match words with
    | [] => [[c]]
    | word :: rest => (c :: word) :: rest

/-- The maximal runs without white space, in order. -/
def Text.words (t : Text) : List Text :=
  (t.foldr wordsStep [[]]).filter (fun word => !word.isEmpty)

def trimChars (cs : List Char) : List Char :=
  ((cs.dropWhile isBlankChar).reverse.dropWhile isBlankChar).reverse

def trimBlank (s : String) : String := String.ofList (trimChars s.toList)

/-! ## Line ends -/

def isLineEnd (c : Char) : Bool :=
  let n := c.toNat
  (0x0A ≤ n && n ≤ 0x0D) || (0x1C ≤ n && n ≤ 0x1E) || n == 0x85 || n == 0x2028 || n == 0x2029

/-- The first line of a text, without its end; a text without characters has no line. -/
def firstLine? : List Char → Option (List Char)
  | [] => none
  | cs => some (cs.takeWhile (fun c => !isLineEnd c))

/-- Puts a feed in place of each return and of the feed that may follow it, after what is done, last
one first. -/
def unifyBreaksFrom [BEq α] (carriageReturn lineFeed : α) (done : List α) : List α → List α
  | [] => done.reverse
  | [a] => ((if a == carriageReturn then lineFeed else a) :: done).reverse
  | a :: b :: rest =>
    if a == carriageReturn then
      if b == lineFeed then unifyBreaksFrom carriageReturn lineFeed (lineFeed :: done) rest
      else unifyBreaksFrom carriageReturn lineFeed (lineFeed :: done) (b :: rest)
    else unifyBreaksFrom carriageReturn lineFeed (a :: done) (b :: rest)

def unifyLineBreaks (cs : List Char) : List Char := unifyBreaksFrom '\r' '\n' [] cs

def Text.unifyLineBreaks (t : Text) : Text :=
  unifyBreaksFrom (CodePoint.ofChar '\r') (CodePoint.ofChar '\n') [] t

end UsedSelectors
