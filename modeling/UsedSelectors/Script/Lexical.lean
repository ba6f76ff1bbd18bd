import UsedSelectors.Parsing.Rule

/-!
# Tokens of scripts

The characters that names, numbers, strings, comments and regular expressions are made of. The
backquote is written by its number throughout.
-/

namespace UsedSelectors.Script

open Parsing Parsing.Rule

def backquote : String := "\x60"

def plainBlanks : List (Nat × Nat) := [(0x09, 0x0D), (0x20, 0x20)]

def spaceSeparators : List (Nat × Nat) :=
  [(0x20, 0x20), (0xA0, 0xA0), (0x1680, 0x1680), (0x2000, 0x200A), (0x202F, 0x202F),
    (0x205F, 0x205F), (0x3000, 0x3000)]

def unseenBlanks : List (Nat × Nat) :=
  [(0x200B, 0x200B), (0x2028, 0x2029), (0x2060, 0x2060), (0xFEFF, 0xFEFF)]

def blanks : CharSet := .ofRuns (plainBlanks ++ spaceSeparators ++ unseenBlanks)

def digits : CharSet := .range '0' '9'

def letters : CharSet := (CharSet.range 'a' 'z').union (.range 'A' 'Z')

def hexDigits : CharSet := digits.union ((CharSet.range 'a' 'f').union (.range 'A' 'F'))

/-- What cannot be part of a name: control characters, blanks and marks. -/
def nameBreaks : CharSet :=
  ((CharSet.ofRuns ((0x00, 0x1F) :: plainBlanks ++ spaceSeparators ++ unseenBlanks)).union
    (.ofString ":;\"\x27@#.,|^&<=>+-*/\\%?!~()[]\x7b\x7d")).union (.ofString backquote)

def one (set : CharSet) : Rule := .chars set

def run (set : CharSet) : Rule := .repeated (.chars set)

def times (n : Nat) (r : Rule) : Rule := .seq (List.replicate n r)

def upTo : Nat → Rule → Rule
  | 0, r => r
  | 1, r => r
  | n + 1, r => .seq [r, optional (upTo n r)]

def nameEscape : List Rule :=
  [.seq [.text "\\u", times 4 (one hexDigits)],
    .seq [.text "\\u\x7b", run hexDigits, .text "\x7d"]]

def nameStart : Rule := .pattern (oneOf (one (nameBreaks.union digits).negate :: nameEscape))

def namePart : Rule := .pattern (oneOf (one nameBreaks.negate :: nameEscape))

def name : Rule := token (.seq [nameStart, many namePart])

def privateName : Rule := token (.seq [.text "#", nameStart, many namePart])

def separated (set : CharSet) : Rule :=
  .pattern (.seq [one set, many (.seq [optional (.text "_"), one set])])

def number : Rule :=
  let hexLiteral := .seq [oneOf [.text "0x", .text "0X"], separated hexDigits]
  let decimalDigits := separated digits
  let signedInteger := .seq [optional (oneOf [.text "-", .text "+"]), decimalDigits]
  let exponent := .seq [oneOf [.text "e", .text "E"], signedInteger]
  let binaryLiteral := .seq [oneOf [.text "0b", .text "0B"], separated (.range '0' '1')]
  let octalLiteral := .seq [oneOf [.text "0o", .text "0O"], separated (.range '0' '7')]
  let bigLiteral :=
    .seq [oneOf [hexLiteral, binaryLiteral, octalLiteral, decimalDigits], .text "n"]
  let integer := oneOf [.text "0", .seq [optional (.text "0"), .pattern (one (.range '1' '9')),
    optional (.seq [optional (.text "_"), decimalDigits])]]
  let decimalLiteral := oneOf [
    .seq [integer, .text ".", optional decimalDigits, optional exponent],
    .seq [.text ".", decimalDigits, optional exponent],
    .seq [integer, exponent],
    decimalDigits]
  token (oneOf [hexLiteral, decimalLiteral, binaryLiteral, octalLiteral, bigLiteral])

def notLineFeed : CharSet := (CharSet.single '\n').negate

def interpreterLine : Rule := .pattern (.seq [.text "#!", many (one notLineFeed)])

def comment : Rule :=
  let notStar := one (CharSet.single '*').negate
  let stars := run (.single '*')
  token (oneOf [
    .seq [.text "//", .pattern (many (one (CharSet.ofString "\r\n\u2028\u2029").negate))],
    .seq [.text "/*", .pattern (.seq [many notStar, stars,
      many (.seq [one (CharSet.ofString "/*").negate, many notStar, stars])]), .text "/"]])

def stringFragment (quote : Char) : Rule :=
  let stops := (CharSet.single quote).union (.ofString "\\\r\n")
  immediate (bindsAt 1 (.pattern (run stops.negate)))

def stringEscape : Rule :=
  immediate (.seq [.text "\\", oneOf [
    .pattern (one (CharSet.ofString "xu01234567").negate),
    .pattern (upTo 3 (one (.range '0' '7'))),
    .pattern (.seq [.text "x", times 2 (one hexDigits)]),
    .pattern (.seq [.text "u", times 4 (one hexDigits)]),
    .pattern (.seq [.text "u\x7b", run hexDigits, .text "\x7d"]),
    .pattern (.seq [one (.ofString "\r?"), one (.ofString "\n\u2028\u2029")])]])

def regexPattern : Rule :=
  let escaped := .seq [.text "\\", .pattern (one notLineFeed)]
  immediate (bindsAt (-1) (.repeated (oneOf [
    .seq [.text "[",
      many (oneOf [escaped, .pattern (one (CharSet.ofString "]\n\\").negate)]), .text "]"],
    escaped,
    .pattern (one (CharSet.ofString "/\\[\n").negate)])))

def regexFlags : Rule := immediate (.pattern (run (.range 'a' 'z')))

def characterReference : Rule :=
  .pattern (.seq [.text "&", oneOf [
    .seq [.text "#", oneOf [
      .seq [one (.ofString "xX"), upTo 6 (one hexDigits)],
      upTo 5 (one digits)]],
    upTo 30 (one letters)], .text ";"])

def attributeFragment (quote : Char) : Rule :=
  let stops := (CharSet.single quote).union (.single '&')
  immediate (bindsAt 1 (.pattern (.repeated (oneOf [one stops.negate,
    .seq [.text "&", one ((CharSet.single '#').union letters).negate]]))))

def hyphenName : Rule :=
  let start := letters.union (.ofString "_$")
  let part := start.union digits
  .pattern (.seq [one start, many (one part), .text "-", many (one (part.union (.single '-')))])

def staticGet : Rule :=
  let space := CharSet.ofRuns plainBlanks
  token (.seq [.text "static", .pattern (run space), .text "get",
    .pattern (.seq [many (one space), .text "\n"])])

end UsedSelectors.Script
