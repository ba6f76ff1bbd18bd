import UsedSelectors.Proofs.Script.Units
import UsedSelectors.Proofs.Text.HexDigits

/-!
# The value of a literal

The inside of a string or template is a sequence of pieces: characters that stand for themselves,
and escapes. Each piece has units of UTF-16 of its own, and the value of the literal is the text
with the units of all pieces, one after the other.

The characters of a module are read from UTF-8, so the halves of surrogate pairs come from escapes
alone.
-/

namespace UsedSelectors.Script.Escape

/-- The letters that escape a control character, with the character. -/
def controls : List (Char × Char) :=
  [('n', '\n'), ('t', '\t'), ('r', '\r'), ('b', '\x08'), ('f', '\x0c'), ('v', '\x0b'), ('0', '\x00')]

def lineEnds : List (List Char) :=
  [['\n'], ['\r', '\n'], ['\r'], ['\u2028'], ['\u2029']]

/-- The characters that begin an escape with a number, and the digits that begin none. -/
def numerals : List Char := ['u', 'x', '1', '2', '3', '4', '5', '6', '7', '8', '9']

/-- A piece of the inside of a literal. -/
inductive Piece where
  | plain (c : Char) (notEscape : c ≠ '\\')
  | byte (a b : HexDigit)
  | unit (a b c d : HexDigit)
  | braced (first : HexDigit) (more : List HexDigit)
      (inside : HexDigit.number (first :: more) < 0x110000)
  | control (letter value : Char) (known : (letter, value) ∈ controls)
  | continued (lineEnd : List Char) (known : lineEnd ∈ lineEnds)
  | itself (c : Char) (notNumeral : c ∉ numerals) (notControl : c ∉ controls.map Prod.fst)
      (notLineEnd : [c] ∉ lineEnds)

namespace Piece

def written : Piece → List Char
  | plain c _ => [c]
  | byte a b => ['\\', 'x', a.char, b.char]
  | unit a b c d => ['\\', 'u', a.char, b.char, c.char, d.char]
  | braced first more _ => ['\\', 'u', '\x7b'] ++ (first :: more).map HexDigit.char ++ ['\x7d']
  | control letter _ _ => ['\\', letter]
  | continued lineEnd _ => '\\' :: lineEnd
  | itself c _ _ _ => ['\\', c]

def points : Piece → Text
  | plain c _ => [.ofChar c]
  | byte a b => [.ofUnit ⟨HexDigit.number [a, b], HexDigit.number_lt_of_length_le (by simp)⟩]
  | unit a b c d =>
    [.ofUnit ⟨HexDigit.number [a, b, c, d], HexDigit.number_lt_of_length_le (by simp)⟩]
  | braced first more inside => [⟨HexDigit.number (first :: more), inside⟩]
  | control _ value _ => [.ofChar value]
  | continued _ _ => []
  | itself c _ _ _ => [.ofChar c]

def units (p : Piece) : List CodeUnit := Text.units p.points

end Piece

/-- No carriage return that a line is continued after is directly followed by a line feed. -/
def Separated (pieces : List Piece) : Prop :=
  pieces.IsChain fun p q => p.written = ['\\', '\r'] → q.written.head? ≠ some '\n'

instance (pieces : List Piece) : Decidable (Separated pieces) := by
  unfold Separated; infer_instance

/-! ## One escape -/

theorem replace_plain {c : Char} (notEscape : c ≠ '\\') (rest : List Char) :
    replace (c :: rest) = .ofChar c :: replace rest := by
  cases rest with
  | nil => rw [replace, replace]
  | cons d rest => rw [replace, if_neg (by simpa using notEscape)]

theorem replace_of_read {d : Char} (inside : List Char) {rest : List Char} {points : Text}
    (found : read d (inside ++ rest) = (points, inside.length)) :
    replace ('\\' :: d :: (inside ++ rest)) = points ++ replace rest := by
  rw [replace, if_pos (by decide), found]
  dsimp only
  rw [List.drop_left]

theorem fixedHex?_char (ds : List HexDigit) (rest : List Char) :
    fixedHex? ds.length (ds.map HexDigit.char ++ rest) = some (HexDigit.number ds) := by
  have digits : (ds.map HexDigit.char ++ rest).take ds.length = ds.map HexDigit.char :=
    List.take_left' (List.length_map _)
  rw [fixedHex?, digits, HexDigit.filterMap_char, HexDigit.ofDigits_eq]
  exact if_pos (List.length_map _)

theorem bracedDigits?_char (first : HexDigit) (more : List HexDigit) (rest : List Char) :
    bracedDigits? ('\x7b' :: ((first :: more).map HexDigit.char ++ '\x7d' :: rest)) =
      some ((first :: more).map HexDigit.char) := by
  have digits : ((first :: more).map HexDigit.char ++ '\x7d' :: rest).takeWhile isHexDigit =
      (first :: more).map HexDigit.char := by
    rw [List.takeWhile_append_of_pos]
    · rw [List.takeWhile_cons_of_neg (by decide), List.append_nil]
    · intro c member
      obtain ⟨d, _, rfl⟩ := List.mem_map.mp member
      exact HexDigit.isHexDigit_char d
  rw [bracedDigits?, digits, List.drop_left]
  rfl

theorem bracedDigits?_of_ne {cs : List Char} (noBrace : cs.head? ≠ some '\x7b') :
    bracedDigits? cs = none := by
  unfold bracedDigits?
  split
  · exact absurd rfl noBrace
  · rfl

theorem ofUnit_eq {n : Nat} (small : n < 0x10000) : ofUnit n = [.ofUnit ⟨n, small⟩] := by
  rw [ofUnit, CodePoint.ofNat?, dif_pos (by omega)]
  rfl

theorem read_byte (a b : HexDigit) (rest : List Char) :
    read 'x' (a.char :: b.char :: rest) = ((Piece.byte a b).points, 2) := by
  have found : fixedHex? 2 (a.char :: b.char :: rest) = _ := fixedHex?_char [a, b] rest
  have small : HexDigit.number [a, b] < 0x10000 := HexDigit.number_lt_of_length_le (by simp)
  simp only [read, found, ofUnit_eq small]
  rfl

theorem read_unit (a b c d : HexDigit) (rest : List Char) :
    read 'u' (a.char :: b.char :: c.char :: d.char :: rest) =
      ((Piece.unit a b c d).points, 4) := by
  have found : fixedHex? 4 (a.char :: b.char :: c.char :: d.char :: rest) = _ :=
    fixedHex?_char [a, b, c, d] rest
  have noBrace : (a.char :: b.char :: c.char :: d.char :: rest).head? ≠ some '\x7b' := by
    intro brace
    have digit := HexDigit.isHexDigit_char a
    rw [Option.some.inj brace] at digit
    exact absurd digit (by decide)
  have small : HexDigit.number [a, b, c, d] < 0x10000 := HexDigit.number_lt_of_length_le (by simp)
  simp only [read, bracedDigits?_of_ne noBrace, found, ofUnit_eq small]
  rfl

theorem read_braced (first : HexDigit) (more : List HexDigit)
    (inside : HexDigit.number (first :: more) < 0x110000) (rest : List Char) :
    read 'u' ('\x7b' :: ((first :: more).map HexDigit.char ++ '\x7d' :: rest)) =
      ((Piece.braced first more inside).points, (first :: more).length + 2) := by
  simp only [read, bracedDigits?_char, ofBraced, HexDigit.filterMap_char, HexDigit.ofDigits_eq,
    CodePoint.ofNat?, dif_pos inside, List.length_map]
  rfl

theorem read_ofSingle {c : Char} (notNumeral : c ∉ numerals) (notReturn : c ≠ '\r')
    (rest : List Char) : read c rest = (ofSingle c, 0) := by
  unfold read
  split
  · exact absurd (by decide) notNumeral
  · exact absurd (by decide) notNumeral
  · exact absurd rfl notReturn
  · rfl

theorem read_control {letter value : Char} (known : (letter, value) ∈ controls)
    (rest : List Char) : read letter rest = ([.ofChar value], 0) := by
  have all : ∀ entry ∈ controls, entry.1 ∉ numerals ∧ entry.1 ≠ '\r' ∧
      ofSingle entry.1 = [.ofChar entry.2] := by decide
  obtain ⟨notNumeral, notReturn, found⟩ := all _ known
  rw [read_ofSingle notNumeral notReturn, found]

theorem ofSingle_itself {c : Char} (notControl : c ∉ controls.map Prod.fst)
    (notLineEnd : [c] ∉ lineEnds) : ofSingle c = [.ofChar c] := by
  have keeps : isContinuation c = false := by
    simpa [isContinuation, lineEnds, and_assoc] using notLineEnd
  have noLetter : control? c = none := by
    simp only [controls, List.map_cons, List.map_nil, List.mem_cons, List.not_mem_nil, or_false,
      not_or] at notControl
    unfold control?
    split <;> simp_all
  rw [ofSingle, keeps, noLetter]
  rfl

theorem replace_continued {lineEnd : List Char} (known : lineEnd ∈ lineEnds) {rest : List Char}
    (separated : lineEnd = ['\r'] → rest.head? ≠ some '\n') :
    replace ('\\' :: (lineEnd ++ rest)) = replace rest := by
  have alone {c : Char} (notNumeral : c ∉ numerals) (notReturn : c ≠ '\r')
      (nothing : ofSingle c = []) : replace ('\\' :: c :: rest) = replace rest := by
    have found := read_ofSingle notNumeral notReturn rest
    rw [nothing] at found
    exact replace_of_read [] found
  simp only [lineEnds, List.mem_cons, List.not_mem_nil, or_false] at known
  rcases known with rfl | rfl | rfl | rfl | rfl
  · exact alone (by decide) (by decide) rfl
  · have found : read '\r' ('\n' :: rest) = ([], 1) := rfl
    exact replace_of_read ['\n'] found
  · have found : read '\r' rest = ([], 0) := by
      simp only [read, if_neg (separated rfl)]
      rfl
    exact replace_of_read [] found
  · exact alone (by decide) (by decide) rfl
  · exact alone (by decide) (by decide) rfl

/-! ## Pieces one after the other -/

theorem replace_written (p : Piece) {rest : List Char}
    (separated : p.written = ['\\', '\r'] → rest.head? ≠ some '\n') :
    replace (p.written ++ rest) = p.points ++ replace rest := by
  cases p with
  | plain c notEscape => exact replace_plain notEscape rest
  | byte a b => exact replace_of_read [a.char, b.char] (read_byte a b rest)
  | unit a b c d =>
      exact replace_of_read [a.char, b.char, c.char, d.char] (read_unit a b c d rest)
  | braced first more inside =>
      have found : read 'u' ('\x7b' :: ((first :: more).map HexDigit.char ++ ['\x7d']) ++ rest) =
          ((Piece.braced first more inside).points,
            ('\x7b' :: ((first :: more).map HexDigit.char ++ ['\x7d'])).length) := by
        simpa using read_braced first more inside rest
      simpa [Piece.written] using replace_of_read _ found
  | control letter value known =>
      exact replace_of_read [] (read_control known rest)
  | continued lineEnd known =>
      exact replace_continued known fun isReturn => separated (by rw [Piece.written, isReturn])
  | itself c notNumeral notControl notLineEnd =>
      have notReturn : c ≠ '\r' := by
        rintro rfl
        exact notLineEnd (by decide)
      have found := read_ofSingle notNumeral notReturn rest
      rw [ofSingle_itself notControl notLineEnd] at found
      exact replace_of_read [] found

theorem exists_written (p : Piece) : ∃ c cs, p.written = c :: cs := by
  cases p <;> exact ⟨_, _, rfl⟩

theorem replace_pieces {pieces : List Piece} (separated : Separated pieces) :
    replace (pieces.flatMap Piece.written) = pieces.flatMap Piece.points := by
  induction pieces with
  | nil => rw [List.flatMap_nil, List.flatMap_nil, replace]
  | cons p rest ih =>
      obtain ⟨next, separated⟩ := List.isChain_cons.mp separated
      rw [List.flatMap_cons, List.flatMap_cons, replace_written, ih separated]
      intro isReturn
      cases rest with
      | nil => simp
      | cons q more =>
          obtain ⟨c, cs, written⟩ := exists_written q
          have notFeed := next q rfl isReturn
          rw [written] at notFeed
          rw [List.flatMap_cons, written]
          exact notFeed

theorem replace_of_notMem {cs : List Char} (noEscape : '\\' ∉ cs) : replace cs = .ofChars cs := by
  induction cs with
  | nil => rw [replace, Text.ofChars, List.map_nil]
  | cons c cs ih =>
      obtain ⟨first, rest⟩ := not_or.mp (mt List.mem_cons.mpr noEscape)
      rw [replace_plain (Ne.symm first), ih rest, Text.ofChars, Text.ofChars, List.map_cons]

/-- The value of a literal is the one text with the units of its pieces in which no two halves of a
surrogate pair are left side by side. Without a backslash the characters are the value. -/
theorem decode_pieces :
    (∀ (pieces : List Piece) (t : Text), Separated pieces →
      (decode (pieces.flatMap Piece.written) = t ↔
        t.IsJoined ∧ t.units = pieces.flatMap Piece.units)) ∧
    (∀ cs : List Char, '\\' ∉ cs → decode cs = .ofChars cs) ∧
    ∀ cs : List Char, (decode cs).IsJoined := by
  refine ⟨fun pieces t separated => ?_, fun cs noEscape => ?_, fun cs => isJoined_joinPairs _⟩
  · have points : (pieces.flatMap Piece.points).flatMap CodePoint.units =
        pieces.flatMap Piece.units := List.flatMap_assoc
    rw [decode, replace_pieces separated, joinPairs_eq_iff, Text.units, Text.units, points]
  · rw [decode, replace_of_notMem noEscape]
    exact joinPairs_of_isScalar (Text.isScalar_ofChars cs)

/-- The halves of pairs in different escapes, in front of one another and alone. -/
def halves : List Piece :=
  [.plain '\uFEFF' (by decide), .unit ⟨13, true⟩ ⟨8, false⟩ ⟨3, false⟩ ⟨13, false⟩,
    .continued ['\r'] (by decide),
    .braced ⟨0, false⟩ [⟨13, false⟩, ⟨14, false⟩, ⟨0, false⟩, ⟨0, false⟩] (by decide),
    .itself '\\' (by decide) (by decide) (by decide), .plain 'x' (by decide),
    .byte ⟨4, false⟩ ⟨1, false⟩, .control '0' '\x00' (by decide),
    .unit ⟨13, true⟩ ⟨8, false⟩ ⟨3, false⟩ ⟨13, false⟩]

theorem decode_halves :
    Separated halves ∧ '\\' ∉ ['\uFEFF', 'u'] ∧
      (decode (halves.flatMap Piece.written)).map CodePoint.val =
        [0xFEFF, 0x1F600, 0x5C, 0x78, 0x41, 0, 0xD83D] ∧
      decode ['\uFEFF', 'u'] = .ofChars ['\uFEFF', 'u'] := by
  have separated : Separated halves := by decide
  refine ⟨separated, by decide, ?_, decode_pieces.2.1 _ (by decide)⟩
  have value := (decode_pieces.1 halves [.ofChar '\uFEFF', ⟨0x1F600, by decide⟩, .ofChar '\\',
    .ofChar 'x', .ofChar 'A', .ofChar '\x00', ⟨0xD83D, by decide⟩] separated).mpr
      ⟨by decide, by decide⟩
  rw [value]
  rfl

end UsedSelectors.Script.Escape
