import UsedSelectors.Proofs.Encoding.Utf8

/-!
# Decoding a text that is cut off

A text may be cut off inside a character. Lossy decoding reads the characters before the cut, and
makes one more of the bytes that are left of the last one.
-/

namespace UsedSelectors.Encoding.Utf8

theorem readTail_take {count low high value extra n : Nat} {rest : List UInt8} {c : Char}
    (found : readTail count low high value extra rest = .char c n) :
    n = extra + count ∧ ∀ k < count,
      readTail count low high value extra (rest.take k) = .fault .unexpectedEnd (extra + k) := by
  induction count generalizing low high value extra rest with
  | zero =>
      rw [readTail] at found
      cases found
      exact ⟨rfl, fun k impossible => absurd impossible (Nat.not_lt_zero k)⟩
  | succ count ih =>
      cases rest with
      | nil => cases found
      | cons byte rest =>
          rw [readTail] at found
          by_cases inRange : low ≤ byte.toNat ∧ byte.toNat ≤ high
          · rw [if_pos inRange] at found
            obtain ⟨length, cut⟩ := ih found
            refine ⟨by omega, fun k shorter => ?_⟩
            cases k with
            | zero => rfl
            | succ k =>
                rw [List.take_succ_cons, readTail, if_pos inRange, cut k (by omega), Nat.add_assoc,
                  Nat.add_comm 1 k]
          · rw [if_neg inRange] at found
            cases found

theorem read_take {byte : UInt8} {rest : List UInt8} {c : Char} {n k : Nat}
    (found : read byte rest = .char c n) (shorter : k < n) :
    read byte (rest.take k) = .fault .unexpectedEnd k := by
  unfold read at found ⊢
  by_cases single : byte.toNat < 0x80
  · rw [if_pos single] at found
    cases found
    exact absurd shorter (Nat.not_lt_zero k)
  · rw [if_neg single] at found ⊢
    cases announced : lead? byte.toNat with
    | none =>
        rw [announced] at found
        cases found
    | some lead =>
        rw [announced] at found
        obtain ⟨length, cut⟩ := readTail_take found
        have fault := cut k (by omega)
        rw [Nat.zero_add] at fault
        exact fault

/-- Characters are read one by one, whatever bytes come after them. -/
theorem decodeLossyFrom_append (cs : List Char) (before : List Char) (rest : List UInt8) :
    codec.decodeLossyFrom before (cs.flatMap String.utf8EncodeChar ++ rest) =
      codec.decodeLossyFrom (cs.reverse ++ before) rest := by
  induction cs generalizing before with
  | nil => rfl
  | cons c cs ih =>
      obtain ⟨byte, more, bytes, reads⟩ := read_utf8EncodeChar c
      have first : codec.read byte (more ++ (cs.flatMap String.utf8EncodeChar ++ rest)) =
          .char c more.length := reads _
      rw [List.flatMap_cons, bytes, List.cons_append, List.cons_append, List.append_assoc,
        Codec.decodeLossyFrom, first]
      simp only [List.drop_left]
      rw [ih, List.reverse_cons, List.append_assoc, List.singleton_append]

/-- The bytes at the front of a character make one character. -/
theorem decodeLossyFrom_take {c : Char} {k : Nat} (begun : 0 < k)
    (shorter : k < (String.utf8EncodeChar c).length) (before : List Char) :
    codec.decodeLossyFrom before ((String.utf8EncodeChar c).take k) =
      before.reverse ++ ['\uFFFD'] := by
  obtain ⟨byte, more, bytes, reads⟩ := read_utf8EncodeChar c
  obtain ⟨k, rfl⟩ := Nat.exists_eq_add_one.mpr begun
  rw [bytes, List.length_cons] at shorter
  have whole := reads []
  rw [List.append_nil] at whole
  have fault : codec.read byte (more.take k) = .fault .unexpectedEnd k :=
    read_take whole (by omega)
  rw [bytes, List.take_succ_cons, Codec.decodeLossyFrom, fault]
  dsimp only
  rw [List.drop_eq_nil_of_le (List.length_take_le k more), Codec.decodeLossyFrom,
    List.reverse_cons]

theorem decodeLossy_flatMap_utf8EncodeChar (cs : List Char) :
    codec.decodeLossy (cs.flatMap String.utf8EncodeChar) = cs := by
  have all := decodeLossyFrom_append cs [] []
  rw [List.append_nil, List.append_nil, Codec.decodeLossyFrom, List.reverse_reverse] at all
  exact all

theorem decodeLossy_append_take (cs : List Char) {c : Char} {k : Nat} (begun : 0 < k)
    (shorter : k < (String.utf8EncodeChar c).length) :
    codec.decodeLossy (cs.flatMap String.utf8EncodeChar ++ (String.utf8EncodeChar c).take k) =
      cs ++ ['\uFFFD'] := by
  have all := decodeLossyFrom_append cs [] ((String.utf8EncodeChar c).take k)
  rw [List.append_nil, decodeLossyFrom_take begun shorter, List.reverse_reverse] at all
  exact all

theorem ofNat_ne_lineFeed {n : Nat} (byte : n < 256) (other : n ≠ 0x0A) :
    lineFeed ≠ UInt8.ofNat n := by
  intro same
  have number := congrArg UInt8.toNat same
  rw [toNat_ofNat_of_lt byte] at number
  exact other number.symm

theorem lineFeed_notMem_utf8EncodeChar {c : Char} (other : c ≠ '\n') :
    lineFeed ∉ String.utf8EncodeChar c := by
  have valid := toNat_of_char c
  have number : c.val.toNat ≠ 0x0A := by
    intro same
    exact other (Char.ext (UInt32.toNat_inj.mp same))
  unfold String.utf8EncodeChar
  dsimp only
  generalize c.val.toNat = n at valid number
  split
  · rw [List.mem_singleton]
    exact ofNat_ne_lineFeed (by omega) number
  · -- All bytes of a longer character are beyond the seven-bit range.
    split
    · simp only [List.mem_cons, List.not_mem_nil, or_false, not_or]
      exact ⟨ofNat_ne_lineFeed (by omega) (by omega), ofNat_ne_lineFeed (by omega) (by omega)⟩
    split
    · simp only [List.mem_cons, List.not_mem_nil, or_false, not_or]
      exact ⟨ofNat_ne_lineFeed (by omega) (by omega), ofNat_ne_lineFeed (by omega) (by omega),
        ofNat_ne_lineFeed (by omega) (by omega)⟩
    · simp only [List.mem_cons, List.not_mem_nil, or_false, not_or]
      exact ⟨ofNat_ne_lineFeed (by omega) (by omega), ofNat_ne_lineFeed (by omega) (by omega),
        ofNat_ne_lineFeed (by omega) (by omega), ofNat_ne_lineFeed (by omega) (by omega)⟩

end UsedSelectors.Encoding.Utf8
