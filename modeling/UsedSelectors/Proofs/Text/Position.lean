import Mathlib.Data.Prod.Lex
import Mathlib.Order.Interval.Finset.Nat
import UsedSelectors.Proofs.Encoding.Lossy
import UsedSelectors.Proofs.Parsing.NodeText
import UsedSelectors.Proofs.Text.Pieces

/-!
# From a position back to its offset

The line and the column of an offset are found in the bytes in front of it. Counted in the lines and
the characters of the text, they lead back to the offset, if it is not inside a character.
-/

namespace UsedSelectors

open Encoding Parsing

/-- The line that an offset is on. -/
def lineAt (source : ByteArray) (offset : Nat) : Nat :=
  (bytesBetween source 0 offset).count lineFeed + 1

def byteOffset (cs : List Char) (i : Nat) : Nat := (encoded (cs.take i)).length

/-- The characters that begin from one offset on, before another one. -/
def charsBegun (cs : List Char) (start stop : Nat) : Finset Nat :=
  (Finset.range cs.length).filter fun i => start ≤ byteOffset cs i ∧ byteOffset cs i < stop

/-- Where the line of an offset begins: just after the last line feed, or with the text. -/
structure IsLineStart (source : ByteArray) (offset start : Nat) : Prop where
  le : start ≤ offset
  after : start = 0 ∨ bytesBetween source (start - 1) start = [lineFeed]
  clean : lineFeed ∉ bytesBetween source start offset

/-- The offset after so many of the characters of a line. -/
def offsetAt (cs : List Char) (line column : Nat) : Option Nat :=
  (pieces '\n' cs)[line - 1]?.map fun found =>
    (encoded (((pieces '\n' cs).take (line - 1)).flatMap (· ++ ['\n']) ++
      found.take (column - 1))).length

def place (source : ByteArray) (offset : Nat) : Nat ×ₗ Nat :=
  toLex (lineAt source offset, columnAt source offset)

/-! ## Bytes of lines -/

theorem bytesBetween_toUTF8 (text : String) (start stop : Nat) :
    bytesBetween text.toUTF8 start stop = ((encoded text.toList).take stop).drop start := by
  rw [bytesBetween, ByteArray.data_extract, Array.toList_extract, toList_toUTF8,
    List.extract_eq_take_drop, ← List.drop_take]

theorem encoded_cons (c : Char) (cs : List Char) :
    encoded (c :: cs) = String.utf8EncodeChar c ++ encoded cs :=
  List.flatMap_cons

theorem encoded_singleton (c : Char) : encoded [c] = String.utf8EncodeChar c :=
  List.flatMap_singleton ..

theorem count_lineFeed_encoded (cs : List Char) :
    (encoded cs).count lineFeed = cs.count '\n' := by
  induction cs with
  | nil => rfl
  | cons c cs ih =>
      rw [encoded_cons, List.count_append, ih, List.count_cons, Nat.add_comm]
      by_cases feed : c = '\n'
      · subst feed
        rfl
      · rw [List.count_eq_zero.mpr (Utf8.lineFeed_notMem_utf8EncodeChar feed),
          if_neg (by simpa using feed)]

theorem lineFeed_notMem_encoded {cs : List Char} (clean : '\n' ∉ cs) :
    lineFeed ∉ encoded cs := by
  rw [← List.count_eq_zero, count_lineFeed_encoded]
  exact List.count_eq_zero.mpr clean

theorem encoded_lines (lines : List (List Char)) :
    encoded (lines.flatMap (· ++ ['\n'])) = [] ∨
      ∃ bytes, encoded (lines.flatMap (· ++ ['\n'])) = bytes ++ [lineFeed] := by
  rcases List.eq_nil_or_concat lines with rfl | ⟨lines, line, rfl⟩
  · exact .inl rfl
  · refine .inr ⟨encoded (lines.flatMap (· ++ ['\n']) ++ line), ?_⟩
    rw [List.concat_eq_append, List.flatMap_append, List.flatMap_singleton, ← List.append_assoc,
      encoded_append]
    rfl

/-! ## The place of an offset -/

section AfterLines

variable {text : String} {n : Nat} {lines : List (List Char)} {tail : List UInt8}
  (bytes : (encoded text.toList).take n = encoded (lines.flatMap (· ++ ['\n'])) ++ tail)
  (clean : lineFeed ∉ tail)

include bytes clean

theorem columnAt_of_take :
    columnAt text.toUTF8 n = (Utf8.codec.decodeLossy tail).length + 1 := by
  have onLine : ((bytesBetween text.toUTF8 0 n).reverse.takeWhile (· != lineFeed)).reverse =
      tail := by
    have others : ∀ byte ∈ tail.reverse, (byte != lineFeed) = true := by
      intro byte member
      rw [bne_iff_ne]
      rintro rfl
      exact clean (List.mem_reverse.mp member)
    have ends : (encoded (lines.flatMap (· ++ ['\n']))).reverse.takeWhile (· != lineFeed) = [] := by
      rcases encoded_lines lines with none | ⟨before, feed⟩
      · rw [none]
        rfl
      · rw [feed, List.reverse_append]
        exact List.takeWhile_cons_of_neg (by decide)
    rw [bytesBetween_toUTF8, List.drop_zero, bytes, List.reverse_append,
      List.takeWhile_append_of_pos others, ends, List.append_nil, List.reverse_reverse]
  unfold columnAt
  dsimp only
  rw [onLine]

theorem isLineStart_of_take :
    IsLineStart text.toUTF8 n (encoded (lines.flatMap (· ++ ['\n']))).length := by
  have le : (encoded (lines.flatMap (· ++ ['\n']))).length ≤ n := by
    have length := congrArg List.length bytes
    rw [List.length_append, List.length_take] at length
    omega
  refine ⟨le, ?_, ?_⟩
  · rcases encoded_lines lines with none | ⟨before, feed⟩
    · rw [none]
      exact .inl rfl
    · right
      have front : (encoded text.toList).take (encoded (lines.flatMap (· ++ ['\n']))).length =
          encoded (lines.flatMap (· ++ ['\n'])) := by
        rw [← Nat.min_eq_left le, ← List.take_take, bytes, List.take_left]
      rw [bytesBetween_toUTF8, front, feed, List.length_append, List.length_singleton,
        Nat.add_sub_cancel, List.drop_left]
  · rw [bytesBetween_toUTF8, bytes, List.drop_left]
    exact clean

theorem lineAt_of_take (cleanLines : ∀ line ∈ lines, '\n' ∉ line) :
    lineAt text.toUTF8 n = lines.length + 1 := by
  rw [lineAt, bytesBetween_toUTF8, List.drop_zero, bytes, List.count_append,
    count_lineFeed_encoded, count_flatMap cleanLines, List.count_eq_zero.mpr clean, Nat.add_zero]

end AfterLines

theorem place_of_prefix {text : String} {lines : List (List Char)} {last : List Char}
    (isPrefix : lines.flatMap (· ++ ['\n']) ++ last <+: text.toList)
    (cleanLines : ∀ line ∈ lines, '\n' ∉ line) (clean : '\n' ∉ last) :
    lineAt text.toUTF8 (encoded (lines.flatMap (· ++ ['\n']) ++ last)).length = lines.length + 1 ∧
      columnAt text.toUTF8 (encoded (lines.flatMap (· ++ ['\n']) ++ last)).length =
        last.length + 1 ∧
      IsLineStart text.toUTF8 (encoded (lines.flatMap (· ++ ['\n']) ++ last)).length
        (encoded (lines.flatMap (· ++ ['\n']))).length := by
  obtain ⟨rest, whole⟩ := isPrefix
  have bytes : (encoded text.toList).take (encoded (lines.flatMap (· ++ ['\n']) ++ last)).length =
      encoded (lines.flatMap (· ++ ['\n'])) ++ encoded last := by
    rw [← whole, encoded_append _ rest, List.take_left, encoded_append]
  have noFeed := lineFeed_notMem_encoded clean
  have decoded : Utf8.codec.decodeLossy (encoded last) = last :=
    Utf8.decodeLossy_flatMap_utf8EncodeChar last
  have column := columnAt_of_take bytes noFeed
  rw [decoded] at column
  exact ⟨lineAt_of_take bytes noFeed cleanLines, column, isLineStart_of_take bytes noFeed⟩

theorem place_of_inside {text : String} {lines : List (List Char)} {last : List Char} {c : Char}
    {k : Nat} (isPrefix : lines.flatMap (· ++ ['\n']) ++ last ++ [c] <+: text.toList)
    (clean : '\n' ∉ last) (begun : 0 < k) (shorter : k < (String.utf8EncodeChar c).length) :
    columnAt text.toUTF8 ((encoded (lines.flatMap (· ++ ['\n']) ++ last)).length + k) =
        last.length + 1 + 1 ∧
      IsLineStart text.toUTF8 ((encoded (lines.flatMap (· ++ ['\n']) ++ last)).length + k)
        (encoded (lines.flatMap (· ++ ['\n']))).length := by
  obtain ⟨rest, whole⟩ := isPrefix
  have bytes : (encoded text.toList).take
      ((encoded (lines.flatMap (· ++ ['\n']) ++ last)).length + k) =
        encoded (lines.flatMap (· ++ ['\n'])) ++
          (encoded last ++ (String.utf8EncodeChar c).take k) := by
    rw [← whole, List.append_assoc, encoded_append _ ([c] ++ rest), List.take_length_add_append,
      List.singleton_append, encoded_cons, List.take_append_of_le_length shorter.le,
      encoded_append, List.append_assoc]
  have other : c ≠ '\n' := by
    rintro rfl
    have single : (String.utf8EncodeChar '\n').length = 1 := rfl
    omega
  have noFeed : lineFeed ∉ encoded last ++ (String.utf8EncodeChar c).take k := by
    rw [List.mem_append]
    rintro (feed | feed)
    · exact lineFeed_notMem_encoded clean feed
    · exact Utf8.lineFeed_notMem_utf8EncodeChar other (List.mem_of_mem_take feed)
  have decoded : Utf8.codec.decodeLossy (encoded last ++ (String.utf8EncodeChar c).take k) =
      last ++ ['\uFFFD'] := Utf8.decodeLossy_append_take last begun shorter
  have column := columnAt_of_take bytes noFeed
  rw [decoded, List.length_append, List.length_singleton] at column
  exact ⟨column, isLineStart_of_take bytes noFeed⟩

/-! ## Characters that begin before an offset -/

theorem length_le_encoded (cs : List Char) : cs.length ≤ (encoded cs).length := by
  induction cs with
  | nil => exact Nat.le_refl 0
  | cons c cs ih =>
      have positive : 0 < (String.utf8EncodeChar c).length := by
        rw [String.length_utf8EncodeChar]
        exact c.utf8Size_pos
      rw [encoded_cons, List.length_append, List.length_cons]
      omega

theorem strictMonoOn_byteOffset (cs : List Char) :
    StrictMonoOn (byteOffset cs) (Set.Iic cs.length) := by
  intro i _ j hj less
  rw [Set.mem_Iic] at hj
  obtain ⟨k, rfl⟩ := Nat.exists_eq_add_of_lt less
  have between := length_le_encoded ((cs.drop i).take (k + 1))
  rw [List.length_take, List.length_drop] at between
  rw [byteOffset, byteOffset, Nat.add_assoc, List.take_add, encoded_append, List.length_append]
  omega

theorem byteOffset_lt_iff {cs : List Char} {i j : Nat} (hi : i ≤ cs.length) (hj : j ≤ cs.length) :
    byteOffset cs i < byteOffset cs j ↔ i < j :=
  (strictMonoOn_byteOffset cs).lt_iff_lt hi hj

theorem byteOffset_le_iff {cs : List Char} {i j : Nat} (hi : i ≤ cs.length) (hj : j ≤ cs.length) :
    byteOffset cs i ≤ byteOffset cs j ↔ i ≤ j :=
  (strictMonoOn_byteOffset cs).le_iff_le hi hj

theorem byteOffset_of_prefix {cs before : List Char} (isPrefix : before <+: cs) :
    byteOffset cs before.length = (encoded before).length := by
  rw [byteOffset, ← List.prefix_iff_eq_take.mp isPrefix]

theorem byteOffset_lt_inside_iff {cs before : List Char} {c : Char} {i k : Nat}
    (isPrefix : before ++ [c] <+: cs) (begun : 0 < k)
    (shorter : k < (String.utf8EncodeChar c).length) (hi : i ≤ cs.length) :
    byteOffset cs i < (encoded before).length + k ↔ i < before.length + 1 := by
  have inside : before.length + 1 ≤ cs.length := by
    have := isPrefix.length_le
    rwa [List.length_append] at this
  have here := byteOffset_of_prefix ((List.prefix_append before [c]).trans isPrefix)
  have next : byteOffset cs (before.length + 1) =
      (encoded before).length + (String.utf8EncodeChar c).length := by
    have := byteOffset_of_prefix isPrefix
    rwa [List.length_append, encoded_append, List.length_append, encoded_singleton] at this
  constructor
  · intro less
    rw [← byteOffset_lt_iff hi inside]
    omega
  · intro less
    have notAfter : byteOffset cs i ≤ byteOffset cs before.length := by
      rw [byteOffset_le_iff hi (by omega)]
      omega
    omega

/-- Of the characters before the one numbered `q`, those from the one numbered `p` on are counted
when the offset is in front of no earlier one and beyond no later one. -/
theorem card_charsBegun {cs : List Char} {p q n : Nat} (order : p ≤ q) (inside : q ≤ cs.length)
    (stop : ∀ i < cs.length, byteOffset cs i < n ↔ i < q) :
    (charsBegun cs (byteOffset cs p) n).card = q - p := by
  have same : charsBegun cs (byteOffset cs p) n = Finset.Ico p q := by
    ext i
    rw [charsBegun, Finset.mem_filter, Finset.mem_range, Finset.mem_Ico]
    constructor
    · rintro ⟨hi, since, before⟩
      exact ⟨(byteOffset_le_iff (order.trans inside) hi.le).mp since, (stop i hi).mp before⟩
    · rintro ⟨since, before⟩
      have hi : i < cs.length := by omega
      exact ⟨hi, (byteOffset_le_iff (order.trans inside) hi.le).mpr since, (stop i hi).mpr before⟩
  rw [same, Nat.card_Ico]

/-- An offset is between two characters or at an end of a text, or else inside a character. -/
inductive Cut (cs : List Char) (n : Nat) : Prop where
  | between (before : List Char) (isPrefix : before <+: cs) (offset : n = (encoded before).length)
  | inside (before : List Char) (c : Char) (k : Nat) (isPrefix : before ++ [c] <+: cs)
      (begun : 0 < k) (shorter : k < (String.utf8EncodeChar c).length)
      (offset : n = (encoded before).length + k)

theorem cut {cs : List Char} {n : Nat} (inside : n ≤ (encoded cs).length) : Cut cs n := by
  induction cs generalizing n with
  | nil =>
      obtain rfl := Nat.le_zero.mp inside
      exact .between [] List.nil_prefix rfl
  | cons c cs ih =>
      rw [encoded_cons, List.length_append] at inside
      rcases Nat.lt_or_ge n (String.utf8EncodeChar c).length with shorter | whole
      · rcases Nat.eq_zero_or_pos n with rfl | begun
        · exact .between [] List.nil_prefix rfl
        · exact .inside [] c n ⟨cs, rfl⟩ begun shorter (Nat.zero_add n).symm
      · obtain ⟨m, rfl⟩ := Nat.exists_eq_add_of_le whole
        have longer (before : List Char) :
            (encoded (c :: before)).length =
              (String.utf8EncodeChar c).length + (encoded before).length := by
          rw [encoded_cons, List.length_append]
        cases ih (Nat.le_of_add_le_add_left inside) with
        | between before isPrefix offset =>
            refine .between (c :: before) (List.cons_prefix_cons.mpr ⟨rfl, isPrefix⟩) ?_
            rw [longer, offset]
        | inside before d k isPrefix begun shorter offset =>
            refine .inside (c :: before) d k (List.cons_prefix_cons.mpr ⟨rfl, isPrefix⟩)
              begun shorter ?_
            rw [longer, offset, Nat.add_assoc]

/-- The column of an offset counts the characters that begin on its line before it, the one that it
is inside of among them. -/
theorem exists_lineStart (text : String) {n : Nat} (inside : n ≤ text.toUTF8.size) :
    ∃ start, IsLineStart text.toUTF8 n start ∧
      columnAt text.toUTF8 n = (charsBegun text.toList start n).card + 1 := by
  have size : text.toUTF8.size = (encoded text.toList).length := by
    rw [← toList_toUTF8]
    rfl
  cases cut (size ▸ inside) with
  | between before isPrefix offset =>
      obtain ⟨lines, last, rfl, cleanLines, clean⟩ := exists_lines '\n' before
      subst offset
      obtain ⟨_, column, start⟩ := place_of_prefix isPrefix cleanLines clean
      refine ⟨_, start, ?_⟩
      have front := byteOffset_of_prefix ((List.prefix_append _ last).trans isPrefix)
      have count := card_charsBegun (List.prefix_append _ last).length_le isPrefix.length_le
        fun i hi => byteOffset_lt_iff hi.le isPrefix.length_le
      rw [front, byteOffset_of_prefix isPrefix, List.length_append] at count
      rw [column, count, Nat.add_sub_cancel_left]
  | inside before c k isPrefix begun shorter offset =>
      obtain ⟨lines, last, rfl, cleanLines, clean⟩ := exists_lines '\n' before
      subst offset
      obtain ⟨column, start⟩ := place_of_inside isPrefix clean begun shorter
      refine ⟨_, start, ?_⟩
      have upTo := (List.prefix_append _ [c]).trans isPrefix
      have next := isPrefix.length_le
      rw [List.length_append] at next
      have front := byteOffset_of_prefix ((List.prefix_append _ last).trans upTo)
      have count := card_charsBegun
        ((List.prefix_append _ last).length_le.trans (Nat.le_succ _)) next
        fun i hi => byteOffset_lt_inside_iff isPrefix begun shorter hi.le
      rw [front, Nat.succ_eq_add_one, List.length_append, Nat.add_assoc,
        Nat.add_sub_cancel_left] at count
      rw [column, count]

theorem offsetAt_place {text : String} {before : List Char} (isPrefix : before <+: text.toList) :
    lineAt text.toUTF8 (encoded before).length = before.count '\n' + 1 ∧
      ∃ line,
        (pieces '\n' text.toList)[lineAt text.toUTF8 (encoded before).length - 1]? = some line ∧
        1 ≤ columnAt text.toUTF8 (encoded before).length ∧
        columnAt text.toUTF8 (encoded before).length ≤ line.length + 1 ∧
        offsetAt text.toList (lineAt text.toUTF8 (encoded before).length)
          (columnAt text.toUTF8 (encoded before).length) = some (encoded before).length := by
  obtain ⟨lines, last, rfl, cleanLines, clean⟩ := exists_lines '\n' before
  obtain ⟨line, column, _⟩ := place_of_prefix isPrefix cleanLines clean
  obtain ⟨rest, whole⟩ := isPrefix
  obtain ⟨first, more, _, cut⟩ := exists_pieces_append clean rest
  have all : pieces '\n' text.toList = lines ++ (last ++ first) :: more := by
    rw [← whole, List.append_assoc, pieces_flatMap_append cleanLines, cut]
  have found : (lines ++ (last ++ first) :: more)[lines.length]? = some (last ++ first) := by
    rw [List.getElem?_append_right (Nat.le_refl _), Nat.sub_self]
    rfl
  have count : (lines.flatMap (· ++ ['\n']) ++ last).count '\n' = lines.length := by
    rw [List.count_append, count_flatMap cleanLines, List.count_eq_zero.mpr clean, Nat.add_zero]
  rw [line, column, count, all, Nat.add_sub_cancel, found]
  refine ⟨rfl, _, rfl, Nat.le_add_left 1 _, ?_, ?_⟩
  · rw [List.length_append]
    omega
  · rw [offsetAt, all, Nat.add_sub_cancel, Nat.add_sub_cancel, found, Option.map_some,
      List.take_left, List.take_left]

/-- Between characters, an offset that comes later has a later line, or a later column on the same
line. -/
theorem place_lt_place {text : String} {before between : List Char} (apart : between ≠ [])
    (isPrefix : before ++ between <+: text.toList) :
    place text.toUTF8 (encoded before).length <
      place text.toUTF8 (encoded (before ++ between)).length := by
  have shorter := (List.prefix_append before between).trans isPrefix
  rw [place, place, Prod.Lex.toLex_lt_toLex]
  by_cases feed : '\n' ∈ between
  · left
    have more := List.count_pos_iff.mpr feed
    rw [(offsetAt_place shorter).1, (offsetAt_place isPrefix).1, List.count_append]
    omega
  · right
    obtain ⟨lines, last, rfl, cleanLines, clean⟩ := exists_lines '\n' before
    have clean' : '\n' ∉ last ++ between := by
      rw [List.mem_append, not_or]
      exact ⟨clean, feed⟩
    have some := List.length_pos_iff.mpr apart
    rw [List.append_assoc] at isPrefix ⊢
    obtain ⟨line, column, _⟩ := place_of_prefix shorter cleanLines clean
    obtain ⟨line', column', _⟩ := place_of_prefix isPrefix cleanLines clean'
    rw [line, column, line', column', List.length_append]
    exact ⟨rfl, by omega⟩

theorem strictMonoOn_place (text : String) :
    StrictMonoOn (place text.toUTF8) {n | IsOffset text.toList n} := by
  rintro _ ⟨before, isPrefix, rfl⟩ _ ⟨before', isPrefix', rfl⟩ less
  rcases List.prefix_or_prefix_of_prefix isPrefix isPrefix' with ⟨between, rfl⟩ | ⟨between, rfl⟩
  · refine place_lt_place ?_ isPrefix'
    rintro rfl
    rw [List.append_nil] at less
    exact Nat.lt_irrefl _ less
  · rw [encoded_append, List.length_append] at less
    omega

end UsedSelectors
