import Mathlib.Data.List.Forall2
import UsedSelectors.Component.Failure
import UsedSelectors.Encoding.Codec

/-!
# Reading back UTF-8

Where a codec reads each character of a text from its bytes, whatever comes after them, it decodes
the bytes of the characters one after the other as the text. UTF-8 does, so a range of bytes that
begins and ends at characters of a text can always be decoded.
-/

/-! ## Characters one after the other -/

namespace UsedSelectors.Encoding.Codec

/-- A codec reads a character from its bytes, whatever comes after them. -/
def Reads (codec : Codec) (c : Char) (bytes : List UInt8) : Prop :=
  ∃ byte more, bytes = byte :: more ∧ ∀ rest, codec.read byte (more ++ rest) = .char c more.length

variable {codec : Codec}

theorem Reads.of_byte {c : Char} {byte : UInt8}
    (reads : ∀ rest, codec.read byte rest = .char c 0) : codec.Reads c [byte] :=
  ⟨byte, [], rfl, reads⟩

theorem decodeFrom_flatten {cs : List Char} {parts : List (List UInt8)}
    (reads : List.Forall₂ codec.Reads cs parts) (position : Nat) (before : List Char) :
    codec.decodeFrom position before parts.flatten = .ok (before.reverse ++ cs) := by
  induction reads generalizing position before with
  | nil => rw [List.flatten_nil, decodeFrom, List.append_nil]
  | @cons c bytes cs parts first _ ih =>
      obtain ⟨byte, more, rfl, read⟩ := first
      rw [List.flatten_cons, List.cons_append, decodeFrom, read]
      dsimp only
      rw [List.drop_left, ih, List.reverse_cons, List.append_assoc]
      rfl

end UsedSelectors.Encoding.Codec

/-! ## UTF-8 -/

namespace UsedSelectors.Encoding.Utf8

theorem toNat_of_char (c : Char) :
    c.val.toNat < 0xD800 ∨ 0xDFFF < c.val.toNat ∧ c.val.toNat < 0x110000 := by
  obtain below | ⟨above, inside⟩ := c.valid
  · exact .inl below
  · exact .inr ⟨above, inside⟩

theorem toNat_ofNat_of_lt {n : Nat} (h : n < 256) : (UInt8.ofNat n).toNat = n := by
  simpa using Nat.mod_eq_of_lt h

theorem readTail_succ {count low high value extra n : Nat} {rest : List UInt8} (byte : n < 256)
    (isLow : low ≤ n) (isHigh : n ≤ high) :
    readTail (count + 1) low high value extra (UInt8.ofNat n :: rest) =
      readTail count 0x80 0xBF (value * 64 + n % 64) (extra + 1) rest := by
  rw [readTail, toNat_ofNat_of_lt byte, if_pos ⟨isLow, isHigh⟩]

theorem readTail_zero {low high value extra : Nat} {rest : List UInt8} {c : Char}
    (h : value = c.val.toNat) : readTail 0 low high value extra rest = .char c extra := by
  rw [readTail, h]
  exact congrArg (Reading.char · extra) (Char.ofNat_toNat c)

theorem read_of_lead {n : Nat} {lead : Lead} {rest : List UInt8} (high : 0x80 ≤ n) (byte : n < 256)
    (announced : lead? n = some lead) :
    read (UInt8.ofNat n) rest = readTail lead.count lead.low lead.high lead.bits 0 rest := by
  rw [read, toNat_ofNat_of_lt byte, if_neg (by omega), announced]

/-- The bytes of a character are read as that character, whatever comes after them. -/
theorem read_utf8EncodeChar (c : Char) :
    ∃ byte more, String.utf8EncodeChar c = byte :: more ∧
      ∀ rest, read byte (more ++ rest) = .char c more.length := by
  have valid := toNat_of_char c
  have char : Char.ofNat c.val.toNat = c := Char.ofNat_toNat c
  unfold String.utf8EncodeChar
  dsimp only
  generalize hn : c.val.toNat = n at valid char
  split
  · refine ⟨_, _, rfl, fun rest => ?_⟩
    rw [read, toNat_ofNat_of_lt (by omega), if_pos (by omega), char]
    rfl
  split
  · refine ⟨_, _, rfl, fun rest => ?_⟩
    have announced : lead? (n / 64 % 0x20 + 0xC0) =
        some ⟨1, n / 64 % 0x20 + 0xC0 - 0xC0, 0x80, 0xBF⟩ := by
      rw [lead?, if_neg (by omega), if_pos (by omega)]
    rw [read_of_lead (by omega) (by omega) announced]
    simp only [List.cons_append, List.nil_append]
    rw [readTail_succ (by omega) (by omega) (by omega), readTail_zero (c := c) (by omega)]
    rfl
  split
  · refine ⟨_, _, rfl, fun rest => ?_⟩
    have announced : lead? (n / 4096 % 0x10 + 0xE0) =
        some ⟨2, n / 4096 % 0x10 + 0xE0 - 0xE0,
          if n / 4096 % 0x10 + 0xE0 = 0xE0 then 0xA0 else 0x80,
          if n / 4096 % 0x10 + 0xE0 = 0xED then 0x9F else 0xBF⟩ := by
      rw [lead?, if_neg (by omega), if_neg (by omega), if_pos (by omega)]
    rw [read_of_lead (by omega) (by omega) announced]
    -- No shorter form and no surrogate has passed for a character here.
    have isLow : (if n / 4096 % 0x10 + 0xE0 = 0xE0 then 0xA0 else 0x80) ≤ n / 64 % 0x40 + 0x80 := by
      split <;> omega
    have isHigh : n / 64 % 0x40 + 0x80 ≤ if n / 4096 % 0x10 + 0xE0 = 0xED then 0x9F else 0xBF := by
      split <;> omega
    simp only [List.cons_append, List.nil_append]
    rw [readTail_succ (by omega) isLow isHigh, readTail_succ (by omega) (by omega) (by omega),
      readTail_zero (c := c) (by omega)]
    rfl
  · refine ⟨_, _, rfl, fun rest => ?_⟩
    have announced : lead? (n / 262144 % 0x08 + 0xF0) =
        some ⟨3, n / 262144 % 0x08 + 0xF0 - 0xF0,
          if n / 262144 % 0x08 + 0xF0 = 0xF0 then 0x90 else 0x80,
          if n / 262144 % 0x08 + 0xF0 = 0xF4 then 0x8F else 0xBF⟩ := by
      rw [lead?, if_neg (by omega), if_neg (by omega), if_neg (by omega), if_pos (by omega)]
    rw [read_of_lead (by omega) (by omega) announced]
    -- No shorter form has passed for a character here, and no number beyond the code space.
    have isLow : (if n / 262144 % 0x08 + 0xF0 = 0xF0 then 0x90 else 0x80) ≤
        n / 4096 % 0x40 + 0x80 := by
      split <;> omega
    have isHigh : n / 4096 % 0x40 + 0x80 ≤
        if n / 262144 % 0x08 + 0xF0 = 0xF4 then 0x8F else 0xBF := by
      split <;> omega
    simp only [List.cons_append, List.nil_append]
    rw [readTail_succ (by omega) isLow isHigh, readTail_succ (by omega) (by omega) (by omega),
      readTail_succ (by omega) (by omega) (by omega), readTail_zero (c := c) (by omega)]
    rfl

theorem decodeFrom_flatMap_utf8EncodeChar (cs : List Char) (position : Nat) (before : List Char) :
    codec.decodeFrom position before (cs.flatMap String.utf8EncodeChar) =
      .ok (before.reverse ++ cs) := by
  rw [List.flatMap_def]
  refine Codec.decodeFrom_flatten ?_ position before
  rw [List.forall₂_map_right_iff, List.forall₂_same]
  exact fun c _ => read_utf8EncodeChar c

theorem decode_flatMap_utf8EncodeChar (cs : List Char) :
    codec.decode (cs.flatMap String.utf8EncodeChar) = .ok cs :=
  decodeFrom_flatMap_utf8EncodeChar cs 0 []

end UsedSelectors.Encoding.Utf8
