import Mathlib.Data.List.Induction
import Mathlib.Data.List.TakeWhile
import UsedSelectors.Proofs.Text.HexDigits
import UsedSelectors.Proofs.Text.Pieces
import UsedSelectors.Text.Numeral

/-!
# Spellings of whole numbers

A whole number is spelled with digits of any scripts, single underscores between some of them, a
sign in front if one is wanted, and white space around it all. A text is read as a number exactly
if it is one of its spellings, so what no spelling has is never accepted.
-/

namespace UsedSelectors

variable {c : Char} {value : Nat}

/-! ## Digits -/

def IsDigit (c : Char) (value : Nat) : Prop :=
  ∃ start ∈ digitZeros, value < 10 ∧ c.toNat = start + value

/-- The digits of two scripts do not overlap. -/
theorem digitZero_unique {start other n : Nat} (listed : start ∈ digitZeros)
    (otherListed : other ∈ digitZeros) (here : start ≤ n ∧ n < start + 10)
    (there : other ≤ n ∧ n < other + 10) : start = other := by
  have apart : ∀ a ∈ digitZeros, ∀ b ∈ digitZeros, a < b + 10 → b < a + 10 → a = b := by
    decide +kernel
  exact apart start listed other otherListed (by omega) (by omega)

theorem digitValue?_eq_some_iff : digitValue? c = some value ↔ IsDigit c value := by
  rw [digitValue?, Option.map_eq_some_iff]
  constructor
  · rintro ⟨start, found, rfl⟩
    have inBlock := List.find?_some found
    simp only [Bool.and_eq_true, decide_eq_true_eq] at inBlock
    exact ⟨start, List.mem_of_find?_eq_some found, by omega, by omega⟩
  · rintro ⟨start, listed, small, same⟩
    cases found : digitZeros.find? fun start => start ≤ c.toNat && c.toNat < start + 10 with
    | none =>
        have outside := List.find?_eq_none.mp found start listed
        simp only [Bool.and_eq_true, decide_eq_true_eq] at outside
        omega
    | some other =>
        have inBlock := List.find?_some found
        simp only [Bool.and_eq_true, decide_eq_true_eq] at inBlock
        have only := digitZero_unique listed (List.mem_of_find?_eq_some found)
          (n := c.toNat) (by omega) inBlock
        exact ⟨other, rfl, by omega⟩

instance : DecidablePred fun c => ∃ value, IsDigit c value := fun c =>
  decidable_of_iff ((digitValue? c).isSome = true) (by
    simp only [Option.isSome_iff_exists, digitValue?_eq_some_iff])

namespace Numeral

/-- White space that may stand around a number: that of ASCII, and all that is not ASCII. -/
def IsSpace (c : Char) : Prop :=
  c ∈ [' ', '\t', '\n', '\x0b', '\x0c', '\r'] ∨ (0x80 ≤ c.toNat ∧ isBlankChar c = true)

/-- Digits and their values, with one underscore between some of them. -/
inductive SpelledDigits : List Char → List Nat → Prop where
  | last {c : Char} {value : Nat} (digit : IsDigit c value) : SpelledDigits [c] [value]
  | next {c : Char} {value : Nat} {cs : List Char} {values : List Nat} (digit : IsDigit c value)
      (rest : SpelledDigits cs values) : SpelledDigits (c :: cs) (value :: values)
  | nextGroup {c : Char} {value : Nat} {cs : List Char} {values : List Nat}
      (digit : IsDigit c value) (rest : SpelledDigits cs values) :
      SpelledDigits (c :: '_' :: cs) (value :: values)

/-- The number with some decimal digits, the first one weighing most. -/
def number (values : List Nat) : Nat := Nat.ofDigits 10 values.reverse

def signed (isNegative : Bool) (magnitude : Nat) : Int :=
  if isNegative then -magnitude else magnitude

inductive SpelledSign : List Char → Bool → Prop where
  | none : SpelledSign [] false
  | plus : SpelledSign ['+'] false
  | minus : SpelledSign ['-'] true

/-- A text is a spelling of a number. -/
def Spells (text : String) (n : Int) : Prop :=
  ∃ front sign digits back isNegative values,
    text.toList = front ++ (sign ++ (digits ++ back)) ∧ (∀ c ∈ front, IsSpace c) ∧
    SpelledSign sign isNegative ∧ SpelledDigits digits values ∧ values.length ≤ 4300 ∧
    (∀ c ∈ back, IsSpace c) ∧ signed isNegative (number values) = n

/-! ## Marks -/

/-- What a character is that has a mark. Nothing is known of stray ones. -/
def Mark.Means : Mark → Char → Prop
  | blank, c => IsSpace c
  | digit value, c => IsDigit c value
  | underscore, c => c = '_'
  | sign isNegative, c => c = if isNegative then '-' else '+'
  | stray, _ => True

theorem isSpace_of_isBlankChar (blank : isBlankChar c = true)
    (notSeparator : ¬(0x1C ≤ c.toNat && c.toNat ≤ 0x1F) = true) : IsSpace c := by
  have small : ∀ n < 0x80, isBlankCode n = true → ¬(0x1C ≤ n && n ≤ 0x1F) = true →
      Char.ofNat n ∈ [' ', '\t', '\n', '\x0b', '\x0c', '\r'] := by decide
  by_cases ascii : c.toNat < 0x80
  · have listed := small c.toNat ascii blank notSeparator
    rw [Char.ofNat_toNat] at listed
    exact .inl listed
  · exact .inr ⟨Nat.le_of_not_lt ascii, blank⟩

theorem Mark.means_ofChar (c : Char) : (Mark.ofChar c).Means c := by
  unfold Mark.ofChar
  split
  · exact trivial
  · rename_i notSeparator
    split
    · rename_i blank
      exact isSpace_of_isBlankChar blank notSeparator
    · split
      · rename_i value found
        exact digitValue?_eq_some_iff.mp found
      · split_ifs with underscore plus minus
        · exact beq_iff_eq.mp underscore
        · exact beq_iff_eq.mp plus
        · exact beq_iff_eq.mp minus
        · exact trivial

theorem Mark.ofChar_of_isSpace (space : IsSpace c) : Mark.ofChar c = .blank := by
  rcases space with listed | ⟨big, blank⟩
  · simp only [List.mem_cons, List.not_mem_nil, or_false] at listed
    rcases listed with rfl | rfl | rfl | rfl | rfl | rfl <;> decide
  · have notSeparator : ¬(0x1C ≤ c.toNat && c.toNat ≤ 0x1F) = true := by
      simp only [Bool.and_eq_true, decide_eq_true_eq]
      omega
    rw [Mark.ofChar, if_neg notSeparator, if_pos blank]

theorem Mark.ofChar_of_isDigit (digit : IsDigit c value) : Mark.ofChar c = .digit value := by
  have digits : ∀ start ∈ digitZeros, ∀ value < 10, isBlankCode (start + value) = false ∧
      ¬(0x1C ≤ start + value && start + value ≤ 0x1F) = true := by decide +kernel
  obtain ⟨start, listed, small, same⟩ := digit
  obtain ⟨notBlank, notSeparator⟩ := digits start listed value small
  rw [← same] at notBlank notSeparator
  rw [Mark.ofChar, if_neg notSeparator, isBlankChar, notBlank, if_neg Bool.false_ne_true,
    digitValue?_eq_some_iff.mpr ⟨start, listed, small, same⟩]

theorem Mark.ofChar_eq_iff {mark : Mark} (known : mark ≠ .stray) :
    Mark.ofChar c = mark ↔ mark.Means c := by
  constructor
  · rintro rfl
    exact means_ofChar c
  · intro means
    cases mark with
    | blank => exact ofChar_of_isSpace means
    | digit value => exact ofChar_of_isDigit means
    | underscore =>
        obtain rfl := means
        decide
    | sign isNegative =>
        obtain rfl := means
        cases isNegative <;> decide
    | stray => exact absurd rfl known

/-! ## Groups of digits -/

/-- There is something before, between and after the underscores. -/
def IsGrouped (marks : List Mark) : Prop := ∀ group ∈ pieces .underscore marks, group ≠ []

variable {mark next : Mark} {marks : List Mark}

theorem not_isGrouped_nil : ¬IsGrouped [] := fun grouped =>
  grouped [] List.mem_cons_self rfl

theorem not_isGrouped_underscore (marks : List Mark) : ¬IsGrouped (.underscore :: marks) := by
  intro grouped
  rw [IsGrouped, pieces, if_pos (beq_self_eq_true _)] at grouped
  exact grouped [] List.mem_cons_self rfl

theorem isGrouped_singleton (other : .underscore ≠ mark) : IsGrouped [mark] := by
  rw [IsGrouped, pieces_cons_of_ne other rfl, List.forall_mem_singleton]
  exact List.cons_ne_nil _ _

theorem isGrouped_cons_underscore_iff (other : .underscore ≠ mark) :
    IsGrouped (mark :: .underscore :: marks) ↔ IsGrouped marks := by
  have cut : pieces .underscore (.underscore :: marks) = [] :: pieces .underscore marks := by
    rw [pieces, if_pos (beq_self_eq_true _)]
  rw [IsGrouped, pieces_cons_of_ne other cut, List.forall_mem_cons]
  exact and_iff_right (List.cons_ne_nil _ _)

theorem isGrouped_cons_cons_iff (other : .underscore ≠ mark) (nextOther : .underscore ≠ next) :
    IsGrouped (mark :: next :: marks) ↔ IsGrouped (next :: marks) := by
  obtain ⟨group, more, found⟩ : ∃ group more, pieces .underscore marks = group :: more :=
    List.exists_cons_of_ne_nil (pieces_ne_nil _ _)
  have inner := pieces_cons_of_ne nextOther found
  rw [IsGrouped, IsGrouped, pieces_cons_of_ne other inner, inner, List.forall_mem_cons,
    List.forall_mem_cons]
  exact and_congr_left' (iff_of_true (List.cons_ne_nil _ _) (List.cons_ne_nil _ _))

theorem ofChar_underscore : Mark.ofChar '_' = .underscore := by decide

theorem Mark.cases_of_isInGroups (inGroups : (Mark.ofChar c).isInGroups = true) :
    (∃ value, IsDigit c value) ∨ c = '_' := by
  have means := Mark.means_ofChar c
  cases mark : Mark.ofChar c with
  | digit value =>
      rw [mark] at means
      exact .inl ⟨value, means⟩
  | underscore =>
      rw [mark] at means
      exact .inr means
  | blank => simp [mark, Mark.isInGroups] at inGroups
  | sign isNegative => simp [mark, Mark.isInGroups] at inGroups
  | stray => simp [mark, Mark.isInGroups] at inGroups

variable {cs : List Char} {values : List Nat}

theorem SpelledDigits.isInGroups (digits : SpelledDigits cs values) :
    ∀ c ∈ cs, (Mark.ofChar c).isInGroups = true := by
  induction digits with
  | last digit =>
      rw [List.forall_mem_singleton, Mark.ofChar_of_isDigit digit]
      rfl
  | next digit rest ih =>
      rw [List.forall_mem_cons, Mark.ofChar_of_isDigit digit]
      exact ⟨rfl, ih⟩
  | nextGroup digit rest ih =>
      rw [List.forall_mem_cons, List.forall_mem_cons, Mark.ofChar_of_isDigit digit,
        ofChar_underscore]
      exact ⟨rfl, rfl, ih⟩

theorem SpelledDigits.isGrouped (digits : SpelledDigits cs values) :
    IsGrouped (cs.map Mark.ofChar) := by
  induction digits with
  | last digit =>
      rw [List.map_singleton, Mark.ofChar_of_isDigit digit]
      exact isGrouped_singleton (by simp)
  | @next c value cs values digit rest ih =>
      cases rest with
      | last nextDigit | next nextDigit _ | nextGroup nextDigit _ =>
          rw [List.map_cons, Mark.ofChar_of_isDigit nextDigit] at ih
          rw [List.map_cons, List.map_cons, Mark.ofChar_of_isDigit digit,
            Mark.ofChar_of_isDigit nextDigit, isGrouped_cons_cons_iff (by simp) (by simp)]
          exact ih
  | nextGroup digit rest ih =>
      rw [List.map_cons, List.map_cons, Mark.ofChar_of_isDigit digit, ofChar_underscore,
        isGrouped_cons_underscore_iff (by simp)]
      exact ih

theorem SpelledDigits.values_eq (digits : SpelledDigits cs values) :
    (cs.map Mark.ofChar).filterMap Mark.value? = values := by
  induction digits with
  | last digit =>
      rw [List.map_singleton, Mark.ofChar_of_isDigit digit]
      rfl
  | next digit rest ih =>
      rw [List.map_cons, Mark.ofChar_of_isDigit digit, ← ih]
      rfl
  | nextGroup digit rest ih =>
      rw [List.map_cons, List.map_cons, Mark.ofChar_of_isDigit digit, ofChar_underscore, ← ih]
      rfl

theorem spelledDigits_of_isGrouped (inGroups : ∀ c ∈ cs, (Mark.ofChar c).isInGroups = true)
    (grouped : IsGrouped (cs.map Mark.ofChar)) :
    SpelledDigits cs ((cs.map Mark.ofChar).filterMap Mark.value?) := by
  induction cs using List.twoStepInduction with
  | nil => exact absurd grouped not_isGrouped_nil
  | singleton c =>
      rcases Mark.cases_of_isInGroups (inGroups c List.mem_cons_self) with ⟨value, digit⟩ | rfl
      · rw [List.map_singleton, Mark.ofChar_of_isDigit digit]
        exact .last digit
      · exact absurd grouped (not_isGrouped_underscore _)
  | cons_cons c d cs ih ihNext =>
      obtain ⟨first, inGroups⟩ := List.forall_mem_cons.mp inGroups
      rw [List.map_cons, List.map_cons] at grouped ⊢
      rcases Mark.cases_of_isInGroups first with ⟨value, digit⟩ | rfl
      · rw [Mark.ofChar_of_isDigit digit] at grouped ⊢
        obtain ⟨second, rest⟩ := List.forall_mem_cons.mp inGroups
        rcases Mark.cases_of_isInGroups second with ⟨nextValue, nextDigit⟩ | rfl
        · rw [Mark.ofChar_of_isDigit nextDigit, isGrouped_cons_cons_iff (by simp) (by simp),
            ← Mark.ofChar_of_isDigit nextDigit] at grouped
          exact .next digit (ihNext d inGroups grouped)
        · rw [ofChar_underscore, isGrouped_cons_underscore_iff (by simp)] at grouped
          exact .nextGroup digit (ih rest grouped)
      · exact absurd grouped (not_isGrouped_underscore _)

/-! ## Reading -/

variable {text : String} {n : Int}

theorem filterMap_flatten_pieces (marks : List Mark) :
    (pieces .underscore marks).flatten.filterMap Mark.value? = marks.filterMap Mark.value? := by
  rw [flatten_pieces, List.filterMap_filter]
  refine List.filterMap_congr fun mark _ => ?_
  cases mark <;> rfl

theorem ofDecimalDigits_eq (values : List Nat) : ofDecimalDigits values =
    if values.length ≤ 4300 then .ok (number values) else .error ⟨values.length⟩ := by
  rw [ofDecimalDigits, ofDigits_eq_ofDigits_reverse]
  rfl

/-- What is read of marks: the digits after the sign, when white space alone follows them. -/
theorem read_eq_ok_iff_of_splitSign {isNegative : Bool} {unsigned : List Mark}
    (split : splitSign ((text.toList.map Mark.ofChar).dropWhile (· == .blank)) =
      (isNegative, unsigned)) :
    read text = .ok n ↔
      IsGrouped (unsigned.takeWhile Mark.isInGroups) ∧
      ((unsigned.takeWhile Mark.isInGroups).filterMap Mark.value?).length ≤ 4300 ∧
      (∀ mark ∈ unsigned.dropWhile Mark.isInGroups, mark = .blank) ∧
      signed isNegative
        (number ((unsigned.takeWhile Mark.isInGroups).filterMap Mark.value?)) = n := by
  have grouped_iff : ((pieces .underscore (unsigned.takeWhile Mark.isInGroups)).any
      List.isEmpty = true) ↔ ¬IsGrouped (unsigned.takeWhile Mark.isInGroups) := by
    simp [IsGrouped]
  have blank_iff : ((unsigned.dropWhile Mark.isInGroups).all (· == .blank) = true) ↔
      ∀ mark ∈ unsigned.dropWhile Mark.isInGroups, mark = .blank := by
    simp only [List.all_eq_true, beq_iff_eq]
  rw [read, split]
  dsimp only
  rw [filterMap_flatten_pieces, ofDecimalDigits_eq]
  by_cases grouped : IsGrouped (unsigned.takeWhile Mark.isInGroups)
  · rw [if_neg (mt grouped_iff.mp (not_not.mpr grouped)), and_iff_right grouped]
    by_cases few : ((unsigned.takeWhile Mark.isInGroups).filterMap Mark.value?).length ≤ 4300
    · rw [if_pos few, and_iff_right few]
      dsimp only
      by_cases blank : ∀ mark ∈ unsigned.dropWhile Mark.isInGroups, mark = .blank
      · rw [if_pos (blank_iff.mpr blank), and_iff_right blank, Except.ok.injEq]
        rfl
      · rw [if_neg (mt blank_iff.mp blank)]
        exact iff_of_false nofun fun both => blank both.1
    · rw [if_neg few]
      exact iff_of_false nofun fun both => few both.1
  · rw [if_pos (grouped_iff.mpr grouped)]
    exact iff_of_false nofun fun both => grouped both.1

theorem map_ofChar_eq_blank {space : List Char} (spaces : ∀ c ∈ space, IsSpace c) :
    ∀ mark ∈ space.map Mark.ofChar, mark = .blank :=
  List.forall_mem_map.mpr fun c member => Mark.ofChar_of_isSpace (spaces c member)

theorem splitSign_of_spelled {sign : List Char} {isNegative : Bool}
    (spelled : SpelledSign sign isNegative) (digits : SpelledDigits cs values)
    (marks : List Mark) :
    splitSign ((sign.map Mark.ofChar ++ (cs.map Mark.ofChar ++ marks)).dropWhile (· == .blank)) =
      (isNegative, cs.map Mark.ofChar ++ marks) := by
  have plus : Mark.ofChar '+' = .sign false := by decide
  have minus : Mark.ofChar '-' = .sign true := by decide
  cases spelled with
  | none =>
      cases digits with
      | last digit | next digit _ | nextGroup digit _ =>
          rw [List.map_cons, Mark.ofChar_of_isDigit digit]
          rfl
  | plus =>
      rw [List.map_singleton, plus]
      rfl
  | minus =>
      rw [List.map_singleton, minus]
      rfl

theorem read_of_spells (spells : Spells text n) : read text = .ok n := by
  obtain ⟨front, sign, digits, back, isNegative, values, cut, frontSpace, spelledSign,
    spelledDigits, few, backSpace, rfl⟩ := spells
  have backBlank := map_ofChar_eq_blank backSpace
  have split : splitSign ((text.toList.map Mark.ofChar).dropWhile (· == .blank)) =
      (isNegative, digits.map Mark.ofChar ++ back.map Mark.ofChar) := by
    rw [cut, List.map_append, List.map_append, List.map_append,
      List.dropWhile_append_of_pos fun mark member =>
        beq_iff_eq.mpr (map_ofChar_eq_blank frontSpace mark member)]
    exact splitSign_of_spelled spelledSign spelledDigits _
  have inGroups : ∀ mark ∈ digits.map Mark.ofChar, mark.isInGroups = true :=
    List.forall_mem_map.mpr spelledDigits.isInGroups
  have stops (hl : 0 < (back.map Mark.ofChar).length) :
      ¬(back.map Mark.ofChar)[0].isInGroups = true := by
    rw [backBlank _ (List.getElem_mem hl)]
    exact Bool.false_ne_true
  rw [read_eq_ok_iff_of_splitSign split, List.takeWhile_append_of_pos inGroups,
    List.dropWhile_append_of_pos inGroups, List.takeWhile_eq_nil_iff.mpr stops,
    List.dropWhile_eq_self_iff.mpr stops, List.append_nil, spelledDigits.values_eq]
  exact ⟨spelledDigits.isGrouped, few, backBlank, rfl⟩

theorem exists_splitSign (cs : List Char) : ∃ sign isNegative rest, cs = sign ++ rest ∧
    SpelledSign sign isNegative ∧
    splitSign (cs.map Mark.ofChar) = (isNegative, rest.map Mark.ofChar) := by
  cases cs with
  | nil => exact ⟨[], false, [], rfl, .none, rfl⟩
  | cons c cs =>
      have means := Mark.means_ofChar c
      rw [List.map_cons]
      cases mark : Mark.ofChar c with
      | sign isNegative =>
          rw [mark] at means
          obtain rfl := means
          cases isNegative with
          | false => exact ⟨['+'], false, cs, rfl, .plus, rfl⟩
          | true => exact ⟨['-'], true, cs, rfl, .minus, rfl⟩
      | blank | digit _ | underscore | stray =>
          refine ⟨[], false, c :: cs, rfl, .none, ?_⟩
          rw [List.map_cons, mark]
          rfl

theorem spells_of_read (found : read text = .ok n) : Spells text n := by
  obtain ⟨sign, isNegative, rest, body, spelledSign, split⟩ :=
    exists_splitSign (text.toList.dropWhile ((· == .blank) ∘ Mark.ofChar))
  rw [← List.dropWhile_map] at split
  obtain ⟨grouped, few, blank, rfl⟩ := (read_eq_ok_iff_of_splitSign split).mp found
  rw [List.takeWhile_map] at grouped few ⊢
  rw [List.dropWhile_map, List.forall_mem_map] at blank
  have inGroups : ∀ c ∈ rest.takeWhile (Mark.isInGroups ∘ Mark.ofChar),
      (Mark.isInGroups ∘ Mark.ofChar) c = true := fun _ => List.mem_takeWhile_imp
  refine ⟨text.toList.takeWhile ((· == .blank) ∘ Mark.ofChar), sign,
    rest.takeWhile (Mark.isInGroups ∘ Mark.ofChar),
    rest.dropWhile (Mark.isInGroups ∘ Mark.ofChar), isNegative, _, ?_, ?_, spelledSign,
    spelledDigits_of_isGrouped inGroups grouped, few, ?_, rfl⟩
  · rw [List.takeWhile_append_dropWhile, ← body, List.takeWhile_append_dropWhile]
  · intro c member
    have isBlank : ((· == .blank) ∘ Mark.ofChar) c = true := List.mem_takeWhile_imp member
    exact (Mark.ofChar_eq_iff (by simp)).mp (beq_iff_eq.mp isBlank)
  · intro c member
    exact (Mark.ofChar_eq_iff (by simp)).mp (blank c member)

/-- Exactly the spellings of a number are read as this number. -/
theorem read_eq_ok_iff_spells : read text = .ok n ↔ Spells text n :=
  ⟨spells_of_read, read_of_spells⟩

/-! ## What no spelling has -/

def HoldsDigit (c : Option Char) : Prop := ∃ d ∈ c, ∃ value, IsDigit d value

def UnderscoresInside (cs : List Char) : Prop :=
  ∀ before after, cs = before ++ '_' :: after →
    HoldsDigit before.getLast? ∧ HoldsDigit after.head?

/-- No digit, an underscore that is not between two digits, a second sign or too many digits. -/
inductive IsRuledOut (text : String) : Prop where
  | noDigit (none : ∀ c ∈ text.toList, ¬∃ value, IsDigit c value)
  | looseUnderscore (before after : List Char) (cut : text.toList = before ++ '_' :: after)
      (loose : ¬HoldsDigit before.getLast? ∨ ¬HoldsDigit after.head?)
  | secondSign (more : 1 < text.toList.countP fun c => c = '+' ∨ c = '-')
  | tooManyDigits (more : 4300 < text.toList.countP fun c => ∃ value, IsDigit c value)

theorem IsSpace.not_means (space : IsSpace c) (mark : Mark) (known : mark ≠ .stray)
    (other : mark ≠ .blank) : ¬mark.Means c := by
  intro means
  have same := (Mark.ofChar_eq_iff known).mpr means
  rw [Mark.ofChar_of_isSpace space] at same
  exact other same.symm

theorem not_isDigit_underscore (value : Nat) : ¬IsDigit '_' value := by
  intro digit
  have mark := Mark.ofChar_of_isDigit digit
  rw [ofChar_underscore] at mark
  cases mark

theorem SpelledDigits.exists_cons (digits : SpelledDigits cs values) :
    ∃ c rest value, cs = c :: rest ∧ IsDigit c value := by
  cases digits with
  | last digit | next digit _ | nextGroup digit _ => exact ⟨_, _, _, rfl, digit⟩

theorem SpelledDigits.countP_isDigit (digits : SpelledDigits cs values) :
    cs.countP (fun c => ∃ value, IsDigit c value) = values.length := by
  induction digits with
  | last digit => rw [List.countP_cons_of_pos (by simpa using ⟨_, digit⟩)]; rfl
  | next digit rest ih =>
      rw [List.countP_cons_of_pos (by simpa using ⟨_, digit⟩), ih]
      rfl
  | nextGroup digit rest ih =>
      rw [List.countP_cons_of_pos (by simpa using ⟨_, digit⟩),
        List.countP_cons_of_neg (by simpa using not_isDigit_underscore), ih]
      rfl

theorem UnderscoresInside.cons (inside : UnderscoresInside cs) (other : c ≠ '_') :
    UnderscoresInside (c :: cs) := by
  intro before after cut
  cases before with
  | nil => exact absurd (List.cons.inj cut).1 other
  | cons b before =>
      obtain ⟨⟨d, last, digit⟩, first⟩ := inside before after (List.cons.inj cut).2
      refine ⟨⟨d, ?_, digit⟩, first⟩
      rw [List.getLast?_cons, Option.mem_def.mp last]
      rfl

theorem UnderscoresInside.append_left {front : List Char} (inside : UnderscoresInside cs)
    (clean : ∀ c ∈ front, c ≠ '_') : UnderscoresInside (front ++ cs) := by
  induction front with
  | nil => exact inside
  | cons c front ih =>
      obtain ⟨other, clean⟩ := List.forall_mem_cons.mp clean
      exact (ih clean).cons other

theorem UnderscoresInside.append_right {back : List Char} (inside : UnderscoresInside cs)
    (clean : ∀ c ∈ back, c ≠ '_') : UnderscoresInside (cs ++ back) := by
  have absent : '_' ∉ back := fun member => clean '_' member rfl
  intro before after cut
  rcases List.append_eq_append_iff.mp cut with ⟨more, rfl, rfl⟩ | ⟨rest, rfl, split⟩
  · exact absurd (List.mem_append_right _ List.mem_cons_self) absent
  · cases rest with
    | nil =>
        rw [List.nil_append] at split
        exact absurd (split ▸ List.mem_cons_self) absent
    | cons c rest =>
        rw [List.cons_append, List.cons.injEq] at split
        obtain ⟨rfl, rfl⟩ := split
        obtain ⟨last, d, first, digit⟩ := inside before rest rfl
        refine ⟨last, d, ?_, digit⟩
        rw [List.head?_append, Option.mem_def.mp first]
        rfl

theorem SpelledDigits.underscoresInside (digits : SpelledDigits cs values) :
    UnderscoresInside cs := by
  have notUnderscore {c : Char} {value : Nat} (digit : IsDigit c value) : c ≠ '_' := by
    rintro rfl
    exact not_isDigit_underscore value digit
  induction digits with
  | last digit =>
      have none : UnderscoresInside [] := fun before after cut => by simp at cut
      exact none.cons (notUnderscore digit)
  | next digit rest ih => exact ih.cons (notUnderscore digit)
  | @nextGroup c value cs values digit rest ih =>
      intro before after cut
      rcases before with _ | ⟨b, _ | ⟨d, before⟩⟩
      · exact absurd (List.cons.inj cut).1 (notUnderscore digit)
      · simp only [List.cons_append, List.nil_append, List.cons.injEq, true_and] at cut
        obtain ⟨rfl, rfl⟩ := cut
        obtain ⟨d, rest, nextValue, rfl, nextDigit⟩ := rest.exists_cons
        exact ⟨⟨c, rfl, value, digit⟩, d, rfl, nextValue, nextDigit⟩
      · simp only [List.cons_append, List.cons.injEq] at cut
        obtain ⟨rfl, rfl, rfl⟩ := cut
        obtain ⟨⟨e, last, lastDigit⟩, first⟩ := ih before after rfl
        refine ⟨⟨e, ?_, lastDigit⟩, first⟩
        rw [List.getLast?_cons, List.getLast?_cons, Option.mem_def.mp last]
        rfl

theorem IsSpace.ne_underscore (space : IsSpace c) : c ≠ '_' :=
  space.not_means .underscore (by simp) (by simp)

theorem IsSpace.not_isDigit (space : IsSpace c) : ¬∃ value, IsDigit c value := by
  rintro ⟨value, digit⟩
  exact space.not_means (.digit value) (by simp) (by simp) digit

theorem IsSpace.not_sign (space : IsSpace c) : ¬(c = '+' ∨ c = '-') := by
  rintro (plus | minus)
  · exact space.not_means (.sign false) (by simp) (by simp) plus
  · exact space.not_means (.sign true) (by simp) (by simp) minus

theorem countP_eq_zero_of_forall {p : Char → Prop} [DecidablePred p]
    (none : ∀ c ∈ cs, ¬p c) : cs.countP p = 0 :=
  List.countP_eq_zero.mpr fun c member holds => none c member (of_decide_eq_true holds)

theorem Spells.exists_digit (spells : Spells text n) :
    ∃ c ∈ text.toList, ∃ value, IsDigit c value := by
  obtain ⟨front, sign, digits, back, _, _, cut, _, _, spelledDigits, _⟩ := spells
  obtain ⟨c, rest, value, rfl, digit⟩ := spelledDigits.exists_cons
  exact ⟨c, by simp [cut], value, digit⟩

theorem Spells.underscoresInside (spells : Spells text n) : UnderscoresInside text.toList := by
  obtain ⟨front, sign, digits, back, _, _, cut, frontSpace, spelledSign, spelledDigits, _,
    backSpace, _⟩ := spells
  have clean : ∀ c ∈ sign, c ≠ '_' := by
    cases spelledSign with
    | none => exact List.forall_mem_nil _
    | plus => exact List.forall_mem_singleton.mpr (by decide)
    | minus => exact List.forall_mem_singleton.mpr (by decide)
  rw [cut]
  exact ((spelledDigits.underscoresInside.append_right fun c member =>
    (backSpace c member).ne_underscore).append_left clean).append_left fun c member =>
      (frontSpace c member).ne_underscore

theorem Spells.countP_sign_le (spells : Spells text n) :
    text.toList.countP (fun c => c = '+' ∨ c = '-') ≤ 1 := by
  obtain ⟨front, sign, digits, back, _, _, cut, frontSpace, spelledSign, spelledDigits, _,
    backSpace, _⟩ := spells
  have inDigits : ∀ c ∈ digits, ¬(c = '+' ∨ c = '-') := by
    intro c member isSign
    have inGroups := spelledDigits.isInGroups c member
    rcases isSign with rfl | rfl <;> exact absurd inGroups (by decide)
  have atMost : sign.countP (fun c => c = '+' ∨ c = '-') ≤ 1 := by
    cases spelledSign <;> decide
  rw [cut, List.countP_append, List.countP_append, List.countP_append,
    countP_eq_zero_of_forall fun c member => (frontSpace c member).not_sign,
    countP_eq_zero_of_forall fun c member => (backSpace c member).not_sign,
    countP_eq_zero_of_forall inDigits, Nat.zero_add]
  exact atMost

theorem Spells.countP_isDigit_le (spells : Spells text n) :
    text.toList.countP (fun c => ∃ value, IsDigit c value) ≤ 4300 := by
  obtain ⟨front, sign, digits, back, _, values, cut, frontSpace, spelledSign, spelledDigits, few,
    backSpace, _⟩ := spells
  have inSign : ∀ c ∈ sign, ¬∃ value, IsDigit c value := by
    cases spelledSign with
    | none => exact List.forall_mem_nil _
    | plus => exact List.forall_mem_singleton.mpr (by decide)
    | minus => exact List.forall_mem_singleton.mpr (by decide)
  rw [cut, List.countP_append, List.countP_append, List.countP_append,
    countP_eq_zero_of_forall fun c member => (frontSpace c member).not_isDigit,
    countP_eq_zero_of_forall fun c member => (backSpace c member).not_isDigit,
    countP_eq_zero_of_forall inSign, spelledDigits.countP_isDigit, Nat.zero_add, Nat.zero_add]
  exact few

theorem Spells.not_isRuledOut (spells : Spells text n) : ¬IsRuledOut text := by
  rintro (none | ⟨before, after, cut, loose⟩ | more | more)
  · obtain ⟨c, member, digit⟩ := spells.exists_digit
    exact none c member digit
  · obtain ⟨last, first⟩ := spells.underscoresInside before after cut
    exact loose.elim (· last) (· first)
  · exact Nat.not_lt.mpr spells.countP_sign_le more
  · exact Nat.not_lt.mpr spells.countP_isDigit_le more

end Numeral

end UsedSelectors
