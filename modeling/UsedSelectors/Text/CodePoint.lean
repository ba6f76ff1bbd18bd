/-!
# Code points and texts

A `Text` is a sequence of Unicode code points, surrogates included. Attribute values read from
script literals can hold a surrogate that has no partner, so they are `Text` and not `String`;
`Text.toString?` gives the string when there is no such surrogate.
-/

namespace UsedSelectors

/-- The small form of an ASCII letter, and of the Kelvin sign, which has one in ASCII too. -/
def lowerAsciiCode (n : Nat) : Nat :=
  if n == 0x212A then 0x6B else if 0x41 ≤ n && n ≤ 0x5A then n + 32 else n

theorem lowerAsciiCode_le (n : Nat) : lowerAsciiCode n ≤ max n 0x7A := by
  unfold lowerAsciiCode
  split
  · omega
  · split
    · rename_i capital
      rw [Bool.and_eq_true, decide_eq_true_iff, decide_eq_true_iff] at capital
      omega
    · omega

/-- A number in the Unicode code space, surrogates included. -/
structure CodePoint where
  val : Nat
  isLt : val < 0x110000
  deriving DecidableEq, Hashable

namespace CodePoint

instance : Inhabited CodePoint := ⟨⟨0, by decide⟩⟩

instance : BEq CodePoint := ⟨fun a b => a.val == b.val⟩

instance : LawfulBEq CodePoint where
  rfl {a} := beq_self_eq_true a.val
  eq_of_beq {a b} h := by
    have same : a.val = b.val := eq_of_beq h
    cases a
    cases b
    cases same
    rfl

instance : LT CodePoint := ⟨fun a b => a.val < b.val⟩

instance : DecidableLT CodePoint := fun a b => inferInstanceAs (Decidable (a.val < b.val))

def ofChar (c : Char) : CodePoint :=
  ⟨c.toNat, by
    have h : c.toNat.isValidChar := c.valid
    rcases h with h | ⟨_, h⟩ <;> omega⟩

def ofNat? (n : Nat) : Option CodePoint :=
  if h : n < 0x110000 then some ⟨n, h⟩ else none

def isHighSurrogate (c : CodePoint) : Bool :=
  0xD800 ≤ c.val && c.val < 0xDC00

def isLowSurrogate (c : CodePoint) : Bool :=
  0xDC00 ≤ c.val && c.val < 0xE000

/-- Surrogates are no characters. -/
def isSurrogate (c : CodePoint) : Bool :=
  0xD800 ≤ c.val && c.val < 0xE000

def toChar? (c : CodePoint) : Option Char :=
  if h : c.val.isValidChar then some (Char.ofNatAux c.val h) else none

/-- Surrogates that stand for the bytes from 0x80 on in names of files that are not UTF-8. -/
def isEscapedByte (c : CodePoint) : Bool := 0xDC80 ≤ c.val && c.val ≤ 0xDCFF

/-- How many bytes a code point takes in the name of a file. -/
def byteCount (c : CodePoint) : Nat :=
  if c.val < 0x80 || c.isEscapedByte then 1
  else if c.val < 0x800 then 2
  else if c.val < 0x10000 then 3
  else 4

def lowerAscii (c : CodePoint) : CodePoint :=
  ⟨lowerAsciiCode c.val, Nat.lt_of_le_of_lt (lowerAsciiCode_le c.val) (by have := c.isLt; omega)⟩

def zero : CodePoint := ofChar '\x00'

def slash : CodePoint := ofChar '/'

def dot : CodePoint := ofChar '.'

end CodePoint

abbrev Text := List CodePoint

namespace Text

def ofChars (cs : List Char) : Text := cs.map CodePoint.ofChar

def ofString (s : String) : Text := ofChars s.toList

instance : Coe String Text := ⟨ofString⟩

def toChars? (t : Text) : Option (List Char) := t.mapM CodePoint.toChar?

def toString? (t : Text) : Option String := t.toChars?.map String.ofList

/-- A text is sound when it can be written as UTF-8: it has no surrogate. -/
def IsScalar (t : Text) : Prop := ∀ c ∈ t, c.isSurrogate = false

instance (t : Text) : Decidable t.IsScalar :=
  inferInstanceAs (Decidable (∀ c ∈ t, c.isSurrogate = false))

def byteCount (t : Text) : Nat := t.foldl (fun count c => count + c.byteCount) 0

end Text

end UsedSelectors
