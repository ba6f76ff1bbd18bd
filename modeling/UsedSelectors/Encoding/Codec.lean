import UsedSelectors.Text.CodePoint
import UsedSelectors.Text.Digits

/-!
# Codecs

A codec reads one character at a time from the front of a sequence of bytes, or says why there is
none. Strict decoding stops at the first range of bytes that means nothing and reports it; lossy
decoding puts U+FFFD in its place and goes on after it.

A text can be written as UTF-8 unless a surrogate without a partner is in it. The first run of
such surrogates is reported. In the name of a file some surrogates stand for single bytes, and only
the others cannot be written. What a stream takes is up to the stream.
-/

namespace UsedSelectors.Encoding

inductive FaultReason where
  | invalidStart
  | invalidContinuation
  | unexpectedEnd
  | truncated
  | illegalEncoding
  /-- The first half of a surrogate pair is not followed by a second half. -/
  | illegalSurrogate
  | outOfRange
  | undefined
  deriving DecidableEq

def FaultReason.message : FaultReason → String
  | invalidStart => "invalid start byte"
  | invalidContinuation => "invalid continuation byte"
  | unexpectedEnd => "unexpected end of data"
  | truncated => "truncated data"
  | illegalEncoding => "illegal encoding"
  | illegalSurrogate => "illegal UTF-16 surrogate"
  | outOfRange => "ordinal not in range(128)"
  | undefined => "character maps to <undefined>"

structure DecodeError where
  codec : String
  reason : FaultReason
  start : Nat
  extra : Nat
  byte : UInt8
  deriving DecidableEq

/-- A single byte is shown, a longer range is given by its ends. -/
def DecodeError.message (e : DecodeError) : String :=
  let range :=
    if e.extra = 0 then
      s!"byte 0x{String.ofList (hexDigits 2 e.byte.toNat)} in position {e.start}"
    else s!"bytes in position {e.start}-{e.start + e.extra}"
  s!"'{e.codec}' codec can't decode {range}: {e.reason.message}"

inductive Reading where
  /-- A character, and how many bytes of it follow the first one. -/
  | char (c : Char) (extra : Nat)
  /-- Nothing that can be read, and how many bytes of it follow the first one. -/
  | fault (reason : FaultReason) (extra : Nat)
  deriving DecidableEq

structure Codec where
  name : String
  read : UInt8 → List UInt8 → Reading

namespace Codec

variable (codec : Codec)

/-- Decodes bytes that begin at a position, after the characters that were read before them, last
one first. -/
def decodeFrom (position : Nat) (before : List Char) : List UInt8 → Except DecodeError (List Char)
  | [] => .ok before.reverse
  | byte :: rest =>
    match codec.read byte rest with
    | .char c extra => decodeFrom (position + extra + 1) (c :: before) (rest.drop extra)
    | .fault reason extra => .error ⟨codec.name, reason, position, extra, byte⟩
termination_by bytes => bytes.length
decreasing_by simp only [List.length_drop, List.length_cons]; omega

def decode (bytes : List UInt8) : Except DecodeError (List Char) := codec.decodeFrom 0 [] bytes

def decodeLossyFrom (before : List Char) : List UInt8 → List Char
  | [] => before.reverse
  | byte :: rest =>
    match codec.read byte rest with
    | .char c extra => decodeLossyFrom (c :: before) (rest.drop extra)
    | .fault _ extra => decodeLossyFrom ('\uFFFD' :: before) (rest.drop extra)
termination_by bytes => bytes.length
decreasing_by all_goals simp only [List.length_drop, List.length_cons]; omega

def decodeLossy (bytes : List UInt8) : List Char := codec.decodeLossyFrom [] bytes

end Codec

/-! ## UTF-8

A character takes one to four bytes. Overlong forms, surrogates and numbers beyond U+10FFFF are
excluded by narrowing what may follow the first byte, so a fault always covers the longest run of
bytes that could still have been the beginning of a character.
-/

namespace Utf8

structure Lead where
  count : Nat
  /-- The bits of the number that the first byte holds. -/
  bits : Nat
  low : Nat
  high : Nat

def lead? (byte : Nat) : Option Lead :=
  if byte < 0xC2 then none
  else if byte < 0xE0 then some ⟨1, byte - 0xC0, 0x80, 0xBF⟩
  else if byte < 0xF0 then
    some ⟨2, byte - 0xE0, if byte = 0xE0 then 0xA0 else 0x80, if byte = 0xED then 0x9F else 0xBF⟩
  else if byte < 0xF5 then
    some ⟨3, byte - 0xF0, if byte = 0xF0 then 0x90 else 0x80, if byte = 0xF4 then 0x8F else 0xBF⟩
  else none

/-- Reads `count` more bytes, the first of them between `low` and `high`, after `extra` bytes have
been read that make `value`. -/
def readTail : (count low high value extra : Nat) → List UInt8 → Reading
  | 0, _, _, value, extra, _ => .char (Char.ofNat value) extra
  | _ + 1, _, _, _, extra, [] => .fault .unexpectedEnd extra
  | count + 1, low, high, value, extra, byte :: rest =>
    if low ≤ byte.toNat ∧ byte.toNat ≤ high then
      readTail count 0x80 0xBF (value * 64 + byte.toNat % 64) (extra + 1) rest
    else .fault .invalidContinuation extra

def read (byte : UInt8) (rest : List UInt8) : Reading :=
  if byte.toNat < 0x80 then .char (Char.ofNat byte.toNat) 0
  else match lead? byte.toNat with
    | none => .fault .invalidStart 0
    | some lead => readTail lead.count lead.low lead.high lead.bits 0 rest

def codec : Codec := ⟨"utf-8", read⟩

end Utf8

/-! ## UTF-16

Units of two bytes, in either byte order. A character beyond U+FFFF takes two units, the halves of
a surrogate pair.
-/

namespace Utf16

inductive ByteOrder where
  | little
  | big
  deriving DecidableEq

def ByteOrder.unit : ByteOrder → UInt8 → UInt8 → Nat
  | little, first, second => second.toNat * 256 + first.toNat
  | big, first, second => first.toNat * 256 + second.toNat

def isHigh (unit : Nat) : Bool := 0xD800 ≤ unit && unit < 0xDC00

def isLow (unit : Nat) : Bool := 0xDC00 ≤ unit && unit < 0xE000

def pairValue (high low : Nat) : Nat := 0x10000 + (high - 0xD800) * 0x400 + (low - 0xDC00)

def read (order : ByteOrder) (byte : UInt8) : List UInt8 → Reading
  | [] => .fault .truncated 0
  | second :: rest =>
    let unit := order.unit byte second
    if isLow unit then .fault .illegalEncoding 1
    else if isHigh unit then
      match rest with
      | third :: fourth :: _ =>
        let low := order.unit third fourth
        if isLow low then .char (Char.ofNat (pairValue unit low)) 3
        else .fault .illegalSurrogate 1
      | _ => .fault .unexpectedEnd (1 + rest.length)
    else .char (Char.ofNat unit) 1

def codec : ByteOrder → Codec
  | .little => ⟨"utf-16-le", read .little⟩
  | .big => ⟨"utf-16-be", read .big⟩

end Utf16

/-! ## Encodings of one byte a character

Latin-1 gives every byte the code point of its number; Windows-1252 differs from it between 0x80
and 0x9F, where five bytes have no character.
-/

namespace SingleByte

def windowsC1 : List (Option Char) :=
  [some '\u20AC', none, some '\u201A', some '\u0192', some '\u201E', some '\u2026', some '\u2020',
    some '\u2021', some '\u02C6', some '\u2030', some '\u0160', some '\u2039', some '\u0152', none,
    some '\u017D', none, none, some '\u2018', some '\u2019', some '\u201C', some '\u201D',
    some '\u2022', some '\u2013', some '\u2014', some '\u02DC', some '\u2122', some '\u0161',
    some '\u203A', some '\u0153', none, some '\u017E', some '\u0178']

def windowsChar? (byte : Nat) : Option Char :=
  if 0x80 ≤ byte ∧ byte < 0xA0 then (windowsC1[byte - 0x80]?).join
  else some (Char.ofNat byte)

def ascii : Codec where
  name := "ascii"
  read byte _ :=
    if byte.toNat < 0x80 then .char (Char.ofNat byte.toNat) 0 else .fault .outOfRange 0

def latin1 : Codec where
  name := "latin-1"
  read byte _ := .char (Char.ofNat byte.toNat) 0

def windows1252 : Codec where
  name := "charmap"
  read byte _ :=
    match windowsChar? byte.toNat with
    | some c => .char c 0
    | none => .fault .undefined 0

end SingleByte

/-! ## Texts that cannot be written -/

structure EncodeError where
  codec : String
  reason : String
  start : Nat
  /-- How many code points follow the first one in the run. -/
  extra : Nat
  first : CodePoint
  deriving DecidableEq

namespace EncodeError

def shown (e : EncodeError) : String :=
  let n := e.first.val
  if n < 0x100 then "\\x" ++ String.ofList (hexDigits 2 n)
  else if n < 0x10000 then "\\u" ++ String.ofList (hexDigits 4 n)
  else "\\U" ++ String.ofList (hexDigits 8 n)

def message (e : EncodeError) : String :=
  let range :=
    if e.extra = 0 then s!"character '{e.shown}' in position {e.start}"
    else s!"characters in position {e.start}-{e.start + e.extra}"
  s!"'{e.codec}' codec can't encode {range}: {e.reason}"

/-- A run that UTF-8 has no bytes for. -/
def surrogates (start extra : Nat) (first : CodePoint) : EncodeError :=
  ⟨"utf-8", "surrogates not allowed", start, extra, first⟩

end EncodeError

/-- The first run of surrogates in a text that begins at a position. Where bytes may be escaped, it
begins with a surrogate that is no escaped byte. -/
def surrogateFrom? (escapes : Bool) (position : Nat) : Text → Option EncodeError
  | [] => none
  | c :: rest =>
    if c.isSurrogate && !(escapes && c.isEscapedByte) then
      some (.surrogates position (rest.takeWhile CodePoint.isSurrogate).length c)
    else surrogateFrom? escapes (position + 1) rest

def writable (t : Text) : Except EncodeError String :=
  match surrogateFrom? false 0 t with
  | some e => .error e
  | none => .ok (String.ofList (t.filterMap CodePoint.toChar?))

/-- What takes the output of a run. A text is taken as a whole or not at all. -/
abbrev Stream := Text → Except EncodeError Unit

def Stream.utf8 : Stream := fun t => (writable t).map fun _ => ()

/-- A stream in memory takes every text. -/
def Stream.inMemory : Stream := fun _ => .ok ()

end UsedSelectors.Encoding
