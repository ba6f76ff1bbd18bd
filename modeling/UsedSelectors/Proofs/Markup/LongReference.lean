import Mathlib.Data.List.TakeWhile
import UsedSelectors.Markup.CharacterReference

/-!
# References with too many digits

Decoding character references can fail in one way only: an ampersand and a number sign are followed
by more decimal digits than a number may have. No reference takes an ampersand along, so every
ampersand of the text is looked at, and the text fails exactly if it has such a place anywhere.
-/

namespace UsedSelectors.Markup.CharacterReference

/-- After an ampersand there are a number sign and too many decimal digits. -/
def IsLong (rest : List Char) : Prop :=
  ∃ digits after, rest = '#' :: (digits ++ after) ∧
    (∀ d ∈ digits, isDecimalDigit d = true) ∧ maxDecimalDigits < digits.length

/-- Somewhere in a text there is a reference with too many digits. -/
def HasLongReference (cs : List Char) : Prop :=
  ∃ before rest, cs = before ++ '&' :: rest ∧ IsLong rest

theorem not_hasLongReference_nil : ¬ HasLongReference [] := by
  rintro ⟨before, rest, h, _⟩
  cases before <;> cases h

theorem hasLongReference_cons_iff {c : Char} {cs : List Char} :
    HasLongReference (c :: cs) ↔ (c = '&' ∧ IsLong cs) ∨ HasLongReference cs := by
  constructor
  · rintro ⟨before, rest, h, isLong⟩
    cases before with
    | nil =>
        obtain ⟨rfl, rfl⟩ := List.cons.inj h
        exact .inl ⟨rfl, isLong⟩
    | cons b before =>
        obtain ⟨_, rfl⟩ := List.cons.inj h
        exact .inr ⟨before, rest, rfl, isLong⟩
  · rintro (⟨rfl, isLong⟩ | ⟨before, rest, rfl, isLong⟩)
    · exact ⟨[], cs, rfl, isLong⟩
    · exact ⟨c :: before, rest, rfl, isLong⟩

theorem hasLongReference_append_iff {skipped rest : List Char} (clear : '&' ∉ skipped) :
    HasLongReference (skipped ++ rest) ↔ HasLongReference rest := by
  induction skipped with
  | nil => exact Iff.rfl
  | cons c skipped ih =>
      rw [List.mem_cons, not_or] at clear
      rw [List.cons_append, hasLongReference_cons_iff, ih clear.2]
      constructor
      · rintro (⟨rfl, _⟩ | later)
        · exact (clear.1 rfl).elim
        · exact later
      · exact .inr

theorem hasLongReference_drop_iff {cs : List Char} {length : Nat} (clear : '&' ∉ cs.take length) :
    HasLongReference (cs.drop length) ↔ HasLongReference cs := by
  rw [← hasLongReference_append_iff clear, List.take_append_drop]

/-! ## What a reference takes -/

theorem not_mem_take {word cs : List Char} (front : word <+: cs) (clear : '&' ∉ word) :
    '&' ∉ cs.take (word.length + semicolonLength (cs.drop word.length)) := by
  obtain ⟨rest, rfl⟩ := front
  rw [List.drop_left, List.take_length_add_append, List.mem_append, not_or]
  refine ⟨clear, ?_⟩
  unfold semicolonLength
  split <;> simp

theorem not_mem_takeWhile {sort : Char → Bool} (cs : List Char) (other : sort '&' = false) :
    '&' ∉ cs.takeWhile sort := by
  intro h
  have ofSort := List.mem_takeWhile_imp h
  rw [other] at ofSort
  cases ofSort

theorem not_mem_take_of_hexadecimal? {cs chars : List Char} {length : Nat}
    (read : hexadecimal? cs = some (chars, length)) : '&' ∉ cs.take length := by
  unfold hexadecimal? at read
  dsimp only at read
  split at read
  · cases read
  · cases read
    exact not_mem_take (List.takeWhile_prefix _) (not_mem_takeWhile cs rfl)

theorem not_mem_take_of_decimal? {cs : List Char} {denoted : Except TooManyDigits (List Char)}
    {length : Nat} (read : decimal? cs = some (denoted, length)) : '&' ∉ cs.take length := by
  unfold decimal? at read
  dsimp only at read
  split at read
  · cases read
  · cases read
    exact not_mem_take (List.takeWhile_prefix _) (not_mem_takeWhile cs rfl)

theorem not_mem_take_of_named? {cs chars : List Char} {length : Nat}
    (read : named? cs = some (chars, length)) : '&' ∉ cs.take length := by
  unfold named? at read
  dsimp only at read
  split at read
  · cases read
  · cases read
    exact not_mem_take ((List.takeWhile_prefix _).trans (List.take_prefix _ _))
      (not_mem_takeWhile _ rfl)

/-! ## Failing -/

theorem length_filterMap_hexValue? {digits : List Char}
    (decimal : ∀ d ∈ digits, isDecimalDigit d = true) :
    (digits.filterMap hexValue?).length = digits.length := by
  rw [List.filterMap_length_eq_length]
  intro d hd
  obtain ⟨low, high⟩ := Bool.and_eq_true_iff.mp (decimal d hd)
  have low : 0x30 ≤ d.toNat := UInt32.le_iff_toNat_le.mp (of_decide_eq_true low)
  have high : d.toNat ≤ 0x39 := UInt32.le_iff_toNat_le.mp (of_decide_eq_true high)
  simp [hexValue?, low, high]

theorem exists_decimal?_eq_error_iff {cs : List Char} :
    (∃ e length, decimal? cs = some (.error e, length)) ↔
      maxDecimalDigits < (cs.takeWhile isDecimalDigit).length := by
  have count := length_filterMap_hexValue? fun d (hd : d ∈ cs.takeWhile isDecimalDigit) =>
    List.mem_takeWhile_imp hd
  unfold decimal? ofDecimalDigits
  dsimp only
  rw [count]
  by_cases few : (cs.takeWhile isDecimalDigit).length ≤ maxDecimalDigits
  · rw [if_pos few]
    constructor
    · rintro ⟨e, length, h⟩
      split at h <;> cases h
    · intro many
      omega
  · rw [if_neg few, if_neg]
    · simp [Except.map]
      omega
    · intro none
      rw [List.isEmpty_iff.mp none] at few
      exact few (Nat.zero_le _)

theorem isLong_iff {cs : List Char} :
    IsLong ('#' :: cs) ↔ maxDecimalDigits < (cs.takeWhile isDecimalDigit).length := by
  constructor
  · rintro ⟨digits, after, h, decimal, many⟩
    obtain ⟨_, rfl⟩ := List.cons.inj h
    rw [List.takeWhile_append_of_pos decimal, List.length_append]
    omega
  · intro many
    exact ⟨cs.takeWhile isDecimalDigit, cs.dropWhile isDecimalDigit, by
      rw [List.takeWhile_append_dropWhile], fun d hd => List.mem_takeWhile_imp hd, many⟩

/-- A reference fails exactly if it has too many digits. -/
theorem exists_read?_eq_error_iff {cs : List Char} :
    (∃ e length, read? cs = some (.error e, length)) ↔ IsLong cs := by
  unfold read?
  split
  · rename_i x rest
    split
    · rename_i hexadecimal
      -- An x is no decimal digit.
      have none : (x :: rest).takeWhile isDecimalDigit = [] := by
        obtain rfl | rfl : x = 'x' ∨ x = 'X' := by simpa using hexadecimal
        · rfl
        · rfl
      rw [isLong_iff, none]
      simp
    · rw [isLong_iff, ← exists_decimal?_eq_error_iff]
      simp only [Option.map_eq_some_iff, Prod.mk.injEq, Prod.exists]
      constructor
      · rintro ⟨e, _, _, length, read, rfl, _⟩
        exact ⟨e, length, read⟩
      · rintro ⟨e, length, read⟩
        exact ⟨e, length + 1, _, length, read, rfl, rfl⟩
  · rename_i noNumber
    constructor
    · rintro ⟨e, length, h⟩
      simp at h
    · rintro ⟨digits, after, rfl, _, many⟩
      cases digits with
      | nil => cases many
      | cons d digits => exact (noNumber d (digits ++ after) rfl).elim

theorem not_mem_take_of_read? {cs : List Char} {denoted : Except TooManyDigits (List Char)}
    {length : Nat} (read : read? cs = some (denoted, length)) : '&' ∉ cs.take length := by
  unfold read? at read
  split at read
  · rename_i x rest
    split at read
    · rename_i hexadecimal
      obtain ⟨⟨chars, taken⟩, found, same⟩ := Option.map_eq_some_iff.mp read
      cases same
      have clear := not_mem_take_of_hexadecimal? found
      have other : x ≠ '&' := by
        rintro rfl
        simp at hexadecimal
      simpa [List.take_succ_cons, Ne.symm other] using clear
    · obtain ⟨⟨denoted, taken⟩, found, same⟩ := Option.map_eq_some_iff.mp read
      cases same
      have clear := not_mem_take_of_decimal? found
      simpa [List.take_succ_cons] using clear
  · obtain ⟨⟨chars, taken⟩, found, same⟩ := Option.map_eq_some_iff.mp read
    cases same
    exact not_mem_take_of_named? found

/-- Decoding fails exactly for texts in which a reference has too many digits. -/
theorem exists_decode_eq_error_iff (cs : List Char) :
    (∃ e, decode cs = .error e) ↔ HasLongReference cs := by
  induction cs using decode.induct with
  | case1 =>
      rw [decode]
      simp [not_hasLongReference_nil]
  | case2 c rest isAmpersand absent ih =>
      have short : ¬ IsLong rest := by
        rw [← exists_read?_eq_error_iff, absent]
        simp
      rw [decode, if_pos isAmpersand, absent, hasLongReference_cons_iff, ← ih]
      cases decode rest <;> simp [Except.map, short]
  | case3 c rest isAmpersand length e read =>
      have isLong : IsLong rest := exists_read?_eq_error_iff.mp ⟨e, length, read⟩
      rw [decode, if_pos isAmpersand, read, hasLongReference_cons_iff]
      simp [isLong, beq_iff_eq.mp isAmpersand]
  | case4 c rest isAmpersand length chars read ih =>
      have short : ¬ IsLong rest := by
        rw [← exists_read?_eq_error_iff, read]
        simp
      rw [hasLongReference_drop_iff (not_mem_take_of_read? read)] at ih
      rw [decode, if_pos isAmpersand, read, hasLongReference_cons_iff, ← ih]
      dsimp only
      cases decode (rest.drop length) <;> simp [Except.map, short]
  | case5 c rest notAmpersand ih =>
      rw [decode, if_neg notAmpersand, hasLongReference_cons_iff, ← ih]
      have other : c ≠ '&' := by simpa using notAmpersand
      cases decode rest <;> simp [Except.map, other]

end UsedSelectors.Markup.CharacterReference
