import Mathlib.Data.List.TakeWhile
import UsedSelectors.Markup.CharacterReference
import UsedSelectors.Proofs.Text.HexDigits

/-!
# Reading back what was escaped

A text is escaped when every ampersand is written as a reference that a semicolon ends; any other
character may be written as a reference too. Each reference is read on its own, whatever stands
beside it, so decoding gives back the characters one by one, also where they look like references
themselves.
-/

namespace UsedSelectors.Markup.CharacterReference

def basicNames : List (List Char × Char) :=
  [(['a', 'm', 'p'], '&'), (['l', 't'], '<'), (['g', 't'], '>'), (['q', 'u', 'o', 't'], '"'),
    (['a', 'p', 'o', 's'], '\'')]

/-- A character that a reference to its number denotes: not the zero character, no control character
but white space, and no noncharacter. -/
structure IsDenotable (c : Char) : Prop where
  notZero : c.toNat ≠ 0
  notControl : ¬ (0x01 ≤ c.toNat ∧ c.toNat ≤ 0x08 ∨ c.toNat = 0x0B ∨
    0x0E ≤ c.toNat ∧ c.toNat ≤ 0x1F ∨ 0x7F ≤ c.toNat ∧ c.toNat ≤ 0x9F)
  notNoncharacter : ¬ (0xFDD0 ≤ c.toNat ∧ c.toNat ≤ 0xFDEF ∨ 0xFFFE ≤ c.toNat % 0x10000)

def decimalChar (d : Fin 10) : Char := Nat.digitChar d

/-- The number that decimal digits stand for, the first one weighing most. -/
def decimalNumber (ds : List (Fin 10)) : Nat := Nat.ofDigits 10 (ds.map Fin.val).reverse

inductive Piece where
  | plain (c : Char) (notAmpersand : c ≠ '&')
  | named (name : List Char) (c : Char) (known : (name, c) ∈ basicNames)
  | decimal (ds : List (Fin 10)) (c : Char) (isNumber : decimalNumber ds = c.toNat)
      (short : ds.length ≤ maxDecimalDigits) (denotable : IsDenotable c)
  | hexadecimal (x : Char) (ds : List HexDigit) (c : Char) (isMark : x = 'x' ∨ x = 'X')
      (isNumber : HexDigit.number ds = c.toNat) (denotable : IsDenotable c)

namespace Piece

def char : Piece → Char
  | plain c _ => c
  | named _ c _ => c
  | decimal _ c _ _ _ => c
  | hexadecimal _ _ c _ _ _ => c

def written : Piece → List Char
  | plain c _ => [c]
  | named name _ _ => '&' :: (name ++ [';'])
  | decimal ds _ _ _ _ => '&' :: '#' :: (ds.map decimalChar ++ [';'])
  | hexadecimal x ds _ _ _ _ => '&' :: '#' :: x :: (ds.map HexDigit.char ++ [';'])

/-- The shortest way to write a character in which quotes and ampersands have names. -/
def ofChar (c : Char) : Piece :=
  if isAmpersand : c = '&' then named ['a', 'm', 'p'] '&' (by decide)
  else if c = '"' then named ['q', 'u', 'o', 't'] '"' (by decide)
  else if c = '\'' then named ['a', 'p', 'o', 's'] '\'' (by decide)
  else plain c isAmpersand

theorem char_ofChar (c : Char) : (ofChar c).char = c := by
  unfold ofChar
  split_ifs with ampersand double single
  · exact ampersand.symm
  · exact double.symm
  · exact single.symm
  · rfl

theorem quote_notMem_written_ofChar {quote : Char} (isQuote : quote = '"' ∨ quote = '\'')
    (c : Char) : quote ∉ (ofChar c).written := by
  unfold ofChar
  split_ifs with ampersand double single
  · rcases isQuote with rfl | rfl <;> decide
  · rcases isQuote with rfl | rfl <;> decide
  · rcases isQuote with rfl | rfl <;> decide
  · rw [written, List.mem_singleton]
    rintro rfl
    rcases isQuote with isDouble | isSingle
    · exact double isDouble
    · exact single isSingle

end Piece

/-! ## One reference -/

theorem ofNumber_toNat {c : Char} (denotable : IsDenotable c) : ofNumber c.toNat = [c] := by
  obtain ⟨notZero, notControl, notNoncharacter⟩ := denotable
  have inside : ¬ ((0xD800 ≤ c.toNat ∧ c.toNat < 0xE000) ∨ 0x110000 ≤ c.toNat) := by
    have valid : c.toNat < 0xD800 ∨ 0xDFFF < c.toNat ∧ c.toNat < 0x110000 := c.valid
    omega
  have denotesIt : denotesNothing c.toNat = false := by
    simp only [denotesNothing, Bool.or_eq_false_iff, Bool.and_eq_false_iff, decide_eq_false_iff_not,
      beq_eq_false_iff_ne]
    omega
  rw [ofNumber, if_neg notZero, if_neg (by omega), if_neg inside, denotesIt,
    if_neg Bool.false_ne_true, Char.ofNat_toNat]

theorem takeWhile_append_semicolon {sort : Char → Bool} {word : List Char}
    (ofSort : ∀ c ∈ word, sort c = true) (other : sort ';' = false) (rest : List Char) :
    (word ++ ';' :: rest).takeWhile sort = word := by
  rw [List.takeWhile_append_of_pos ofSort, List.takeWhile_cons_of_neg (by simp [other]),
    List.append_nil]

theorem hexadecimal?_char {ds : List HexDigit} (notEmpty : ds ≠ []) (rest : List Char) :
    hexadecimal? (ds.map HexDigit.char ++ ';' :: rest) =
      some (ofNumber (HexDigit.number ds), ds.length + 1) := by
  have digits : (ds.map HexDigit.char ++ ';' :: rest).takeWhile isHexDigit =
      ds.map HexDigit.char :=
    takeWhile_append_semicolon (List.forall_mem_map.mpr fun d _ => d.isHexDigit_char) rfl rest
  rw [hexadecimal?, digits, if_neg (by simpa using notEmpty), List.drop_left,
    HexDigit.filterMap_char, HexDigit.ofDigits_eq, List.length_map]
  rfl

theorem decimalDigit_char (d : Fin 10) :
    isDecimalDigit (decimalChar d) = true ∧ hexValue? (decimalChar d) = some d.val := by
  revert d
  decide

theorem decimalChar_ne_mark (d : Fin 10) :
    (decimalChar d == 'x' || decimalChar d == 'X') = false := by
  revert d
  decide

theorem decimal?_char {ds : List (Fin 10)} (notEmpty : ds ≠ [])
    (short : ds.length ≤ maxDecimalDigits) (rest : List Char) :
    decimal? (ds.map decimalChar ++ ';' :: rest) =
      some (.ok (ofNumber (decimalNumber ds)), ds.length + 1) := by
  have digits : (ds.map decimalChar ++ ';' :: rest).takeWhile isDecimalDigit =
      ds.map decimalChar :=
    takeWhile_append_semicolon (List.forall_mem_map.mpr fun d _ => (decimalDigit_char d).1) rfl rest
  have values : (ds.map decimalChar).filterMap hexValue? = ds.map Fin.val := by
    rw [List.filterMap_map, ← List.filterMap_eq_map]
    exact List.filterMap_congr fun d _ => (decimalDigit_char d).2
  have number : ofDecimalDigits (ds.map Fin.val) = .ok (decimalNumber ds) := by
    rw [ofDecimalDigits, List.length_map, if_pos short, ofDigits_eq_ofDigits_reverse]
    rfl
  rw [decimal?, digits, if_neg (by simpa using notEmpty), List.drop_left, values, number,
    List.length_map]
  rfl

theorem ofName_basic {name : List Char} {c : Char} (known : (name, c) ∈ basicNames) :
    ofName name true = [c] := by
  have all : ∀ entry ∈ basicNames,
      (CharacterNames.find? entry.1).map String.toList = some [entry.2] := by decide +kernel
  obtain ⟨chars, found, isChar⟩ := Option.map_eq_some_iff.mp (all _ known)
  unfold ofName
  rw [if_pos rfl, found]
  exact isChar

theorem named?_basic {name : List Char} {c : Char} (known : (name, c) ∈ basicNames)
    (rest : List Char) : named? (name ++ ';' :: rest) = some ([c], name.length + 1) := by
  have all : ∀ entry ∈ basicNames, entry.1.all isNameChar = true ∧
      entry.1 ≠ [] ∧ entry.1.length < maxNameLength := by decide
  obtain ⟨ofName, notEmpty, short⟩ := all _ known
  -- The semicolon is still among the characters that are looked at, so it ends the word.
  have word : ((name ++ ';' :: rest).take maxNameLength).takeWhile isNameChar = name := by
    obtain ⟨more, length⟩ := Nat.exists_eq_add_of_lt short
    rw [length, Nat.add_assoc, List.take_length_add_append, List.take_succ_cons]
    exact takeWhile_append_semicolon (List.all_eq_true.mp ofName) rfl _
  rw [named?, word, if_neg (by simpa using notEmpty), List.drop_left]
  dsimp only
  rw [semicolonLength, beq_self_eq_true, ofName_basic known]

theorem read?_hexadecimal {x : Char} (isMark : x = 'x' ∨ x = 'X') {ds : List HexDigit}
    (notEmpty : ds ≠ []) (rest : List Char) :
    read? ('#' :: x :: (ds.map HexDigit.char ++ ';' :: rest)) =
      some (.ok (ofNumber (HexDigit.number ds)), ds.length + 3) := by
  have found := hexadecimal?_char notEmpty rest
  rcases isMark with rfl | rfl
  · rw [read?, if_pos (by decide), found]
    rfl
  · rw [read?, if_pos (by decide), found]
    rfl

theorem read?_decimal {ds : List (Fin 10)} (notEmpty : ds ≠ [])
    (short : ds.length ≤ maxDecimalDigits) (rest : List Char) :
    read? ('#' :: (ds.map decimalChar ++ ';' :: rest)) =
      some (.ok (ofNumber (decimalNumber ds)), ds.length + 2) := by
  have found := decimal?_char notEmpty short rest
  cases ds with
  | nil => exact absurd rfl notEmpty
  | cons d ds =>
      rw [List.map_cons, List.cons_append] at found ⊢
      rw [read?, decimalChar_ne_mark, if_neg Bool.false_ne_true, found]
      rfl

theorem read?_of_head? {cs : List Char} (notNumber : cs.head? ≠ some '#') :
    read? cs = (named? cs).map fun found => (.ok found.1, found.2) := by
  unfold read?
  split
  · exact absurd rfl notNumber
  · rfl

theorem read?_named {name : List Char} {c : Char} (known : (name, c) ∈ basicNames)
    (rest : List Char) : read? (name ++ ';' :: rest) = some (.ok [c], name.length + 1) := by
  have all : ∀ entry ∈ basicNames, entry.1 ≠ [] ∧ entry.1.head? ≠ some '#' := by decide
  obtain ⟨notEmpty, notNumber⟩ := all _ known
  rw [read?_of_head? (by rwa [List.head?_append_of_ne_nil name notEmpty]), named?_basic known]
  rfl

/-! ## Pieces one after the other -/

theorem decode_of_read? (reference : List Char) {c : Char} {rest : List Char}
    (read : read? (reference ++ rest) = some (.ok [c], reference.length)) :
    decode ('&' :: (reference ++ rest)) = (decode rest).map (c :: ·) := by
  rw [decode, if_pos (by decide), read]
  dsimp only
  rw [List.drop_left]
  rfl

theorem decode_written (p : Piece) (rest : List Char) :
    decode (p.written ++ rest) = (decode rest).map (p.char :: ·) := by
  cases p with
  | plain c notAmpersand =>
      change decode (c :: rest) = _
      rw [decode, if_neg (by simpa using notAmpersand)]
      rfl
  | named name c known =>
      apply decode_of_read? (name ++ [';'])
      rw [List.append_assoc, List.length_append]
      exact read?_named known rest
  | decimal ds c isNumber short denotable =>
      have notEmpty : ds ≠ [] := by
        rintro rfl
        exact denotable.notZero isNumber.symm
      have found := read?_decimal notEmpty short rest
      rw [isNumber, ofNumber_toNat denotable] at found
      apply decode_of_read? ('#' :: (ds.map decimalChar ++ [';']))
      simpa [Piece.char] using found
  | hexadecimal x ds c isMark isNumber denotable =>
      have notEmpty : ds ≠ [] := by
        rintro rfl
        exact denotable.notZero isNumber.symm
      have found := read?_hexadecimal isMark notEmpty rest
      rw [isNumber, ofNumber_toNat denotable] at found
      apply decode_of_read? ('#' :: x :: (ds.map HexDigit.char ++ [';']))
      simpa [Piece.char] using found

theorem decode_flatMap_written (pieces : List Piece) :
    decode (pieces.flatMap Piece.written) = .ok (pieces.map Piece.char) := by
  induction pieces with
  | nil => rw [List.flatMap_nil, decode, List.map_nil]
  | cons p pieces ih =>
      rw [List.flatMap_cons, decode_written, ih]
      rfl

end UsedSelectors.Markup.CharacterReference
