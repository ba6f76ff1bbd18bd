/-!
# Digits

Hexadecimal digits are written in small letters with a fixed number of places, and read in either
case. Decimal digits are those of Unicode 14.0, which come in blocks of ten that follow one another
from zero to nine. A decimal number may be written with any number of leading zeros, but with no
more digits in all than a fixed limit.
-/

namespace UsedSelectors

/-! ## Hexadecimal digits -/

def hexDigit (n : Nat) : Char :=
  if n < 10 then Char.ofNat (0x30 + n) else Char.ofNat (0x57 + n)

def hexDigits : Nat → Nat → List Char
  | 0, _ => []
  | places + 1, n => hexDigits places (n / 16) ++ [hexDigit (n % 16)]

def hexValue? (c : Char) : Option Nat :=
  let n := c.toNat
  if 0x30 ≤ n && n ≤ 0x39 then some (n - 0x30)
  else if 0x61 ≤ n && n ≤ 0x66 then some (n - 0x57)
  else if 0x41 ≤ n && n ≤ 0x46 then some (n - 0x37)
  else none

def isHexDigit (c : Char) : Bool := (hexValue? c).isSome

/-! ## Decimal digits -/

/-- The digits zero of all scripts, in increasing order. -/
def digitZeros : List Nat := [
  0x30, 0x660, 0x6F0, 0x7C0, 0x966, 0x9E6, 0xA66, 0xAE6, 0xB66, 0xBE6, 0xC66, 0xCE6, 0xD66, 0xDE6,
  0xE50, 0xED0, 0xF20, 0x1040, 0x1090, 0x17E0, 0x1810, 0x1946, 0x19D0, 0x1A80, 0x1A90, 0x1B50,
  0x1BB0, 0x1C40, 0x1C50, 0xA620, 0xA8D0, 0xA900, 0xA9D0, 0xA9F0, 0xAA50, 0xABF0, 0xFF10, 0x104A0,
  0x10D30, 0x11066, 0x110F0, 0x11136, 0x111D0, 0x112F0, 0x11450, 0x114D0, 0x11650, 0x116C0, 0x11730,
  0x118E0, 0x11950, 0x11C50, 0x11D50, 0x11DA0, 0x16A60, 0x16AC0, 0x16B50, 0x1D7CE, 0x1D7D8, 0x1D7E2,
  0x1D7EC, 0x1D7F6, 0x1E140, 0x1E2F0, 0x1E950, 0x1FBF0]

def digitValue? (c : Char) : Option Nat :=
  (digitZeros.find? (fun start => start ≤ c.toNat && c.toNat < start + 10)).map (c.toNat - ·)

/-! ## Numbers -/

def ofDigits (base : Nat) (digits : List Nat) : Nat :=
  digits.foldl (fun n d => n * base + d) 0

def maxDecimalDigits : Nat := 4300

structure TooManyDigits where
  count : Nat
  deriving DecidableEq

def TooManyDigits.message (e : TooManyDigits) : String :=
  s!"Exceeds the limit ({maxDecimalDigits} digits) for integer string conversion: value has " ++
    s!"{e.count} digits; use sys.set_int_max_str_digits() to increase the limit"

def ofDecimalDigits (digits : List Nat) : Except TooManyDigits Nat :=
  if digits.length ≤ maxDecimalDigits then .ok (ofDigits 10 digits)
  else .error ⟨digits.length⟩

end UsedSelectors
