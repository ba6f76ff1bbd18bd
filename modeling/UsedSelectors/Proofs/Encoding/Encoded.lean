import UsedSelectors.Encoding.Charset
import UsedSelectors.Proofs.Attempts
import UsedSelectors.Proofs.Encoding.Utf8
import UsedSelectors.Proofs.Script.Units

/-!
# Encoding and decoding

The bytes of a text in an encoding are the mark of the encoding, if it writes one, and the bytes of
the characters one after the other. A text can be encoded when each of its characters can. What has
been encoded is decoded again, in whichever byte order a marked UTF-16 is written.
-/

namespace UsedSelectors.Encoding

open Attempts

def SingleByte.windowsByte? (c : Char) : Option UInt8 :=
  if c.toNat < 0x80 ∨ 0xA0 ≤ c.toNat ∧ c.toNat < 0x100 then some (.ofNat c.toNat)
  else (windowsC1.findIdx? (· = some c)).map fun index => .ofNat (0x80 + index)

namespace Utf16

def ByteOrder.bytes : ByteOrder → CodeUnit → List UInt8
  | little, unit => [.ofNat (unit.val % 256), .ofNat (unit.val / 256)]
  | big, unit => [.ofNat (unit.val / 256), .ofNat (unit.val % 256)]

/-- The mark that tells a byte order is U+FEFF, written in that order. -/
def ByteOrder.mark (order : ByteOrder) : List UInt8 := order.bytes ⟨0xFEFF, by decide⟩

def charBytes (order : ByteOrder) (c : Char) : List UInt8 :=
  (CodePoint.ofChar c).units.flatMap order.bytes

end Utf16

namespace Charset

open Utf16 (ByteOrder)

/-- The bytes of a character. Marked UTF-16 is written in a byte order that the writer chooses. -/
def charBytes? (native : ByteOrder) (charset : Charset) (c : Char) : Option (List UInt8) :=
  match charset with
  | utf8 | utf8Signed => some (String.utf8EncodeChar c)
  | ascii => if c.toNat < 0x80 then some [.ofNat c.toNat] else none
  | latin1 => if c.toNat < 0x100 then some [.ofNat c.toNat] else none
  | windows1252 => (SingleByte.windowsByte? c).map fun byte => [byte]
  | utf16 => some (Utf16.charBytes native c)
  | utf16Little => some (Utf16.charBytes .little c)
  | utf16Big => some (Utf16.charBytes .big c)

def mark (native : ByteOrder) : Charset → List UInt8
  | utf8Signed => utf8Mark
  | utf16 => native.mark
  | _ => []

/-- The bytes of a text, if all its characters are in the encoding. -/
def encode? (native : ByteOrder) (charset : Charset) (cs : List Char) : Option (List UInt8) :=
  (cs.mapM (charset.charBytes? native)).map fun parts => charset.mark native ++ parts.flatten

end Charset

/-! ## Reading one character -/

theorem reads_ascii {c : Char} (inside : c.toNat < 0x80) :
    SingleByte.ascii.Reads c [.ofNat c.toNat] := by
  refine .of_byte fun rest => ?_
  have byte : (UInt8.ofNat c.toNat).toNat = c.toNat := Utf8.toNat_ofNat_of_lt (by omega)
  change (if _ then _ else _) = _
  rw [byte, if_pos inside, Char.ofNat_toNat]

theorem reads_latin1 {c : Char} (inside : c.toNat < 0x100) :
    SingleByte.latin1.Reads c [.ofNat c.toNat] := by
  refine .of_byte fun rest => ?_
  have byte : (UInt8.ofNat c.toNat).toNat = c.toNat := Utf8.toNat_ofNat_of_lt inside
  change Reading.char (Char.ofNat (UInt8.ofNat c.toNat).toNat) 0 = _
  rw [byte, Char.ofNat_toNat]

theorem windowsByte?_of_windowsChar? {c : Char} {byte : UInt8}
    (found : SingleByte.windowsChar? byte.toNat = some c) :
    SingleByte.windowsByte? c = some byte := by
  have all : ∀ n : Fin 256, (SingleByte.windowsChar? n).all
      (SingleByte.windowsByte? · = some (.ofNat n)) = true := by decide +kernel
  have here := all ⟨byte.toNat, byte.toNat_lt⟩
  rw [found, Option.all_some, decide_eq_true_iff, UInt8.ofNat_toNat] at here
  exact here

theorem windowsByte?_eq_some_iff {c : Char} {byte : UInt8} :
    SingleByte.windowsByte? c = some byte ↔ SingleByte.windowsChar? byte.toNat = some c := by
  refine ⟨fun found => ?_, windowsByte?_of_windowsChar?⟩
  rw [SingleByte.windowsByte?] at found
  split at found
  · rename_i inside
    cases found
    rw [Utf8.toNat_ofNat_of_lt (by omega), SingleByte.windowsChar?, if_neg (by omega),
      Char.ofNat_toNat]
  · obtain ⟨index, isThere, rfl⟩ := Option.map_eq_some_iff.mp found
    obtain ⟨small, same, _⟩ := List.findIdx?_eq_some_iff_getElem.mp isThere
    have short : index < 32 := small
    rw [Utf8.toNat_ofNat_of_lt (by omega), SingleByte.windowsChar?, if_pos (by omega),
      Nat.add_sub_cancel_left, List.getElem?_eq_getElem small]
    simpa using same

theorem reads_windows1252 {c : Char} {byte : UInt8}
    (found : SingleByte.windowsByte? c = some byte) : SingleByte.windows1252.Reads c [byte] := by
  refine .of_byte fun rest => ?_
  simp only [SingleByte.windows1252, windowsByte?_eq_some_iff.mp found]

namespace Utf16

theorem ByteOrder.exists_bytes (order : ByteOrder) (u : CodeUnit) :
    ∃ first second, order.bytes u = [first, second] ∧ order.unit first second = u.val := by
  have small := u.isLt
  cases order with
  | little =>
      refine ⟨_, _, rfl, ?_⟩
      rw [unit, Utf8.toNat_ofNat_of_lt (by omega), Utf8.toNat_ofNat_of_lt (by omega)]
      omega
  | big =>
      refine ⟨_, _, rfl, ?_⟩
      rw [unit, Utf8.toNat_ofNat_of_lt (by omega), Utf8.toNat_ofNat_of_lt (by omega)]
      omega

theorem read_codec (order : ByteOrder) : (codec order).read = read order := by
  cases order <;> rfl

theorem reads_charBytes (order : ByteOrder) (c : Char) :
    (codec order).Reads c (charBytes order c) := by
  have valid : c.toNat < 0xD800 ∨ 0xDFFF < c.toNat ∧ c.toNat < 0x110000 := Utf8.toNat_of_char c
  have char : Char.ofNat c.toNat = c := Char.ofNat_toNat c
  rw [Codec.Reads, read_codec]
  by_cases small : (CodePoint.ofChar c).val < 0x10000
  · obtain ⟨first, second, bytes, unit⟩ := order.exists_bytes ⟨c.toNat, small⟩
    refine ⟨first, [second], ?_, fun rest => ?_⟩
    · rw [charBytes, CodePoint.units_of_small small, List.flatMap_singleton]
      exact bytes
    · have notLow : isLow c.toNat = false := by simp [isLow]; omega
      have notHigh : isHigh c.toNat = false := by simp [isHigh]; omega
      unfold read
      simp only [List.singleton_append, unit, notLow, notHigh, Bool.false_eq_true, if_false, char,
        List.length_singleton]
  · obtain ⟨high, low, units, highHalf, lowHalf, value⟩ := CodePoint.exists_units_of_big small
    obtain ⟨first, second, highBytes, highUnit⟩ := order.exists_bytes high
    obtain ⟨third, fourth, lowBytes, lowUnit⟩ := order.exists_bytes low
    rw [CodePoint.isHighSurrogate_iff] at highHalf
    rw [CodePoint.isLowSurrogate_iff] at lowHalf
    dsimp only [CodePoint.ofUnit] at highHalf lowHalf
    refine ⟨first, [second, third, fourth], ?_, fun rest => ?_⟩
    · rw [charBytes, units, List.flatMap_cons, List.flatMap_singleton, highBytes, lowBytes]
      rfl
    · have notLow : isLow high.val = false := by simp [isLow]; omega
      have isHigh : isHigh high.val = true := by simp [isHigh]; omega
      have isLow : isLow low.val = true := by simp [isLow]; omega
      have joined : pairValue high.val low.val = c.toNat := value.symm
      unfold read
      simp only [List.cons_append, List.nil_append, highUnit, lowUnit, notLow, isHigh, isLow,
        Bool.false_eq_true, if_false, if_true, joined, char, List.length_cons, List.length_nil]

end Utf16

/-! ## Decoding what has been encoded -/

namespace Charset

open Utf16 (ByteOrder)

variable {charset : Charset} {native : ByteOrder} {cs : List Char} {c : Char} {bytes : List UInt8}

theorem encode?_eq_some_iff : charset.encode? native cs = some bytes ↔
    ∃ parts, List.Forall₂ (fun c part => charset.charBytes? native c = some part) cs parts ∧
      charset.mark native ++ parts.flatten = bytes := by
  rw [encode?, Option.map_eq_some_iff]
  simp only [mapM_eq_some_iff]

/-- A character is read back by the codec of its encoding; marked UTF-16 has that of the byte order
in which it was written. -/
def codec (native : ByteOrder) : Charset → Codec
  | utf8 | utf8Signed => Utf8.codec
  | ascii => SingleByte.ascii
  | latin1 => SingleByte.latin1
  | windows1252 => SingleByte.windows1252
  | utf16 => Utf16.codec native
  | utf16Little => Utf16.codec .little
  | utf16Big => Utf16.codec .big

theorem reads_of_charBytes? (found : charset.charBytes? native c = some bytes) :
    (charset.codec native).Reads c bytes := by
  cases charset with
  | utf8 =>
      cases found
      exact Utf8.read_utf8EncodeChar c
  | utf8Signed =>
      cases found
      exact Utf8.read_utf8EncodeChar c
  | ascii =>
      obtain ⟨inside, same⟩ := Option.ite_none_right_eq_some.mp found
      cases same
      exact reads_ascii inside
  | latin1 =>
      obtain ⟨inside, same⟩ := Option.ite_none_right_eq_some.mp found
      cases same
      exact reads_latin1 inside
  | windows1252 =>
      obtain ⟨byte, inTable, rfl⟩ := Option.map_eq_some_iff.mp found
      exact reads_windows1252 inTable
  | utf16 =>
      cases found
      exact Utf16.reads_charBytes native c
  | utf16Little =>
      cases found
      exact Utf16.reads_charBytes .little c
  | utf16Big =>
      cases found
      exact Utf16.reads_charBytes .big c

theorem decodeUtf8Signed_mark_append (bytes : List UInt8) :
    decodeUtf8Signed (utf8Mark ++ bytes) = Utf8.codec.decode bytes := by
  have long : ¬ (utf8Mark ++ bytes).length < 3 := by simp [utf8Mark]
  have marked : utf8Mark.isPrefixOf (utf8Mark ++ bytes) = true :=
    List.isPrefixOf_iff_prefix.mpr (List.prefix_append _ _)
  rw [decodeUtf8Signed, marked, decide_eq_false long, Bool.false_and, if_neg Bool.false_ne_true,
    if_pos rfl]
  rfl

theorem decodeUtf16_mark_append (order : ByteOrder) (bytes : List UInt8) :
    decodeUtf16 (order.mark ++ bytes) =
      ((Utf16.codec order).decodeFrom 2 [] bytes).mapError .undecodable := by
  cases order <;> rfl

/-- A text is decoded from its bytes in the encoding. -/
theorem decode_of_encode? (encoded : charset.encode? native cs = some bytes) :
    charset.decode bytes = .ok cs := by
  obtain ⟨parts, each, rfl⟩ := encode?_eq_some_iff.mp encoded
  have reads := each.imp fun _ _ found => reads_of_charBytes? found
  -- Where the codec begins to read depends on the mark, which only shows in errors.
  have decoded (position : Nat) :
      ((charset.codec native).decodeFrom position [] parts.flatten).mapError
        DecodeFailure.undecodable = .ok cs :=
    congrArg (·.mapError DecodeFailure.undecodable) (Codec.decodeFrom_flatten reads position [])
  cases charset with
  | utf8Signed =>
      change (decodeUtf8Signed (utf8Mark ++ _)).mapError _ = _
      rw [decodeUtf8Signed_mark_append]
      exact decoded 0
  | utf16 => exact (decodeUtf16_mark_append native _).trans (decoded 2)
  | _ => exact decoded 0

end Charset

end UsedSelectors.Encoding
