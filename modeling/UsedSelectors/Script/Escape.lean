import UsedSelectors.Text.CodePoint
import UsedSelectors.Text.Digits

/-!
# Escapes in script literals

A backslash in a string or template begins an escape: a number of a code point or of a unit of
UTF-16, a letter for a control character, the end of a line that is continued, or a character that
stands for itself. Two units that are the halves of a surrogate pair make one code point; a half
that stands alone is kept.
-/

namespace UsedSelectors.Script.Escape

/-- Line ends that a backslash takes away. A carriage return takes a line feed after it along. -/
def isContinuation (c : Char) : Bool :=
  c == '\n' || c == '\r' || c == '\u2028' || c == '\u2029'

def control? (c : Char) : Option Char :=
  match c with
  | 'n' => some '\n'
  | 't' => some '\t'
  | 'r' => some '\r'
  | 'b' => some '\x08'
  | 'f' => some '\x0c'
  | 'v' => some '\x0b'
  | '0' => some '\x00'
  | _ => none

def ofSingle (c : Char) : Text :=
  if isContinuation c then [] else [.ofChar ((control? c).getD c)]

def fixedHex? (count : Nat) (cs : List Char) : Option Nat :=
  let digits := (cs.take count).filterMap hexValue?
  if digits.length = count then some (ofDigits 16 digits) else none

def bracedDigits? : List Char → Option (List Char)
  | '\x7b' :: cs =>
    let digits := cs.takeWhile isHexDigit
    match cs.drop digits.length with
    | '\x7d' :: _ => if digits.isEmpty then none else some digits
    | _ => none
  | _ => none

/-- What a number in braces stands for: nothing beyond the code space can be meant, and such an
escape is kept as it is written. -/
def ofBraced (digits : List Char) : Text :=
  match CodePoint.ofNat? (ofDigits 16 (digits.filterMap hexValue?)) with
  | some c => [c]
  | none => Text.ofChars (['\\', 'u', '\x7b'] ++ digits ++ ['\x7d'])

/-- The code point of a number of at most four digits. -/
def ofUnit (n : Nat) : Text := (CodePoint.ofNat? n).toList

/-- The escape that a backslash begins, given the characters after it: what it stands for, and how
many characters it takes after the first one. -/
def read (c : Char) (rest : List Char) : Text × Nat :=
  match c with
  | 'u' =>
    match bracedDigits? rest with
    | some digits => (ofBraced digits, digits.length + 2)
    | none =>
      match fixedHex? 4 rest with
      | some n => (ofUnit n, 4)
      | none => (ofSingle c, 0)
  | 'x' =>
    match fixedHex? 2 rest with
    | some n => (ofUnit n, 2)
    | none => (ofSingle c, 0)
  | '\r' => (ofSingle c, if rest.head? = some '\n' then 1 else 0)
  | _ => (ofSingle c, 0)

/-- Replaces each escape by what it stands for. A backslash at the very end is kept. -/
def replace : List Char → Text
  | [] => []
  | [c] => [.ofChar c]
  | c :: d :: rest =>
    if c == '\\' then
      let found := read d rest
      found.1 ++ replace (rest.drop found.2)
    else .ofChar c :: replace (d :: rest)
termination_by cs => cs.length
decreasing_by all_goals simp only [List.length_drop, List.length_cons]; omega

def pair? (high low : CodePoint) : Option CodePoint :=
  if high.isHighSurrogate && low.isLowSurrogate then
    CodePoint.ofNat? (0x10000 + (high.val - 0xD800) * 0x400 + (low.val - 0xDC00))
  else none

def joinPairs : Text → Text
  | [] => []
  | [c] => [c]
  | c :: d :: rest =>
    match pair? c d with
    | some joined => joined :: joinPairs rest
    | none => c :: joinPairs (d :: rest)

def decode (cs : List Char) : Text := joinPairs (replace cs)

end UsedSelectors.Script.Escape
