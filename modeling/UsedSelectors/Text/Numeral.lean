import UsedSelectors.Text.Lines
import UsedSelectors.Text.Digits
import UsedSelectors.Text.Quoted

/-!
# Whole numbers as they are written

A whole number may have white space around it and a sign in front. Its digits may be of any script
and may stand in groups with one underscore between two groups.
-/

namespace UsedSelectors

inductive NumeralError where
  | malformed (text : String)
  | tooManyDigits (error : TooManyDigits)
  deriving DecidableEq

namespace NumeralError

def shownLength : Nat := 200

def message : NumeralError → String
  | malformed text =>
    "invalid literal for int() with base 10: " ++
      String.ofList ((Quoted.encode text.toList).take shownLength)
  | tooManyDigits error => error.message

end NumeralError

namespace Numeral

inductive Mark where
  | blank
  | digit (value : Nat)
  | underscore
  | sign (isNegative : Bool)
  | stray
  deriving DecidableEq

/-- What a character counts as in a number. The ASCII separators U+001C to U+001F are stray though
they are white space elsewhere. -/
def Mark.ofChar (c : Char) : Mark :=
  if 0x1C ≤ c.toNat && c.toNat ≤ 0x1F then stray
  else if isBlankChar c then blank
  else match digitValue? c with
    | some value => digit value
    | none =>
      if c == '_' then underscore
      else if c == '+' then sign false
      else if c == '-' then sign true
      else stray

def Mark.value? : Mark → Option Nat
  | digit value => some value
  | _ => none

def Mark.isInGroups : Mark → Bool
  | digit _ | underscore => true
  | _ => false

def splitSign : List Mark → Bool × List Mark
  | .sign isNegative :: rest => (isNegative, rest)
  | marks => (false, marks)

/-- The number that marks stand for. Groups without a digit are malformed; too many digits are
reported before anything that comes after them. -/
def read (text : String) : Except NumeralError Int :=
  let marks := (text.toList.map Mark.ofChar).dropWhile (· == .blank)
  let (isNegative, unsigned) := splitSign marks
  let groups := pieces .underscore (unsigned.takeWhile Mark.isInGroups)
  let rest := unsigned.dropWhile Mark.isInGroups
  if groups.any List.isEmpty then .error (.malformed text)
  else match ofDecimalDigits (groups.flatten.filterMap Mark.value?) with
    | .error error => .error (.tooManyDigits error)
    | .ok magnitude =>
      if rest.all (· == .blank) then .ok (if isNegative then -magnitude else magnitude)
      else .error (.malformed text)

end Numeral

end UsedSelectors
