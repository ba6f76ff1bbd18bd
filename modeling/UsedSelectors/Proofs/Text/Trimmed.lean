import Mathlib.Data.List.DropRight
import UsedSelectors.Text.Lines

/-!
# Trimmed texts and first lines

A trimmed text is what is left between the white space at the two ends of a text. The first line of
a text is what comes before the first of its line ends. Every line end is white space, so the first
line of a trimmed text is empty only if there is nothing but white space.
-/

namespace UsedSelectors

/-- What a text has between the white space at its two ends. -/
structure IsTrimmed (cs inside : List Char) : Prop where
  cut : ∃ front back, cs = front ++ inside ++ back ∧ (∀ c ∈ front, isBlankChar c = true) ∧
    ∀ c ∈ back, isBlankChar c = true
  start : ∀ c ∈ inside.head?, isBlankChar c = false
  stop : ∀ c ∈ inside.getLast?, isBlankChar c = false

structure IsFirstLine (cs line : List Char) : Prop where
  oneLine : ∀ c ∈ line, isLineEnd c = false
  cut : ∃ rest, cs = line ++ rest ∧ ∀ c ∈ rest.head?, isLineEnd c = true

variable {cs inside line : List Char} {c : Char}

/-! ## Trimming -/

theorem trimChars_eq (cs : List Char) :
    trimChars cs = (cs.dropWhile isBlankChar).rdropWhile isBlankChar := rfl

theorem exists_rdropWhile_append {α : Type} (p : α → Bool) (items : List α) :
    ∃ back, items = items.rdropWhile p ++ back ∧ ∀ a ∈ back, p a = true := by
  refine ⟨items.rtakeWhile p, ?_, fun a => List.mem_rtakeWhile_imp⟩
  rw [List.rdropWhile, List.rtakeWhile, ← List.reverse_append, List.takeWhile_append_dropWhile,
    List.reverse_reverse]

theorem isTrimmed_trimChars (cs : List Char) : IsTrimmed cs (trimChars cs) := by
  obtain ⟨back, cut, blanks⟩ := exists_rdropWhile_append isBlankChar (cs.dropWhile isBlankChar)
  rw [← trimChars_eq] at cut
  constructor
  · refine ⟨cs.takeWhile isBlankChar, back, ?_, fun c => List.mem_takeWhile_imp, blanks⟩
    rw [List.append_assoc, ← cut, List.takeWhile_append_dropWhile]
  · intro c first
    have begins := List.head?_dropWhile_not isBlankChar cs
    have same : (cs.dropWhile isBlankChar).head? = some c := by
      rw [cut, List.head?_append, Option.mem_def.mp first]
      rfl
    rw [same] at begins
    exact begins
  · intro c last
    have some : trimChars cs ≠ [] := by
      rintro none
      rw [none] at last
      cases last
    rw [List.getLast?_eq_some_getLast some, Option.mem_some_iff] at last
    have ends := List.rdropWhile_last_not isBlankChar _ some
    rw [← last]
    exact Bool.eq_false_iff.mpr ends

theorem IsTrimmed.eq_nil_iff (trimmed : IsTrimmed cs inside) :
    inside = [] ↔ ∀ c ∈ cs, isBlankChar c = true := by
  obtain ⟨⟨front, back, rfl, blankFront, blankBack⟩, start, _⟩ := trimmed
  constructor
  · rintro rfl c member
    rw [List.append_nil, List.mem_append] at member
    exact member.elim (blankFront c) (blankBack c)
  · intro blank
    cases inside with
    | nil => rfl
    | cons c inside =>
        have notBlank := start c rfl
        rw [blank c (by simp)] at notBlank
        cases notBlank

theorem IsTrimmed.ne_nil_iff (trimmed : IsTrimmed cs inside) :
    inside ≠ [] ↔ ∃ c ∈ cs, isBlankChar c = false := by
  rw [ne_eq, trimmed.eq_nil_iff]
  push Not
  simp only [Bool.not_eq_true]

theorem IsTrimmed.eq_trimChars (trimmed : IsTrimmed cs inside) : inside = trimChars cs := by
  cases inside with
  | nil => exact ((isTrimmed_trimChars cs).eq_nil_iff.mpr (trimmed.eq_nil_iff.mp rfl)).symm
  | cons c inside =>
      obtain ⟨⟨front, back, rfl, blankFront, blankBack⟩, start, stop⟩ := trimmed
      have notBlank : ¬ isBlankChar c = true := by simp [start c rfl]
      have dropped : (front ++ (c :: inside) ++ back).dropWhile isBlankChar =
          c :: inside ++ back := by
        rw [List.append_assoc, List.dropWhile_append_of_pos blankFront, List.cons_append,
          List.dropWhile_cons_of_neg notBlank]
      have ends : (c :: inside).rdropWhile isBlankChar = c :: inside := by
        rw [List.rdropWhile_eq_self_iff]
        intro some blank
        have := stop _ (List.getLast?_eq_some_getLast some)
        rw [blank] at this
        cases this
      rw [trimChars_eq, dropped, List.rdropWhile, List.reverse_append,
        List.dropWhile_append_of_pos (by simpa using blankBack)]
      exact ends.symm

/-! ## First lines -/

theorem isFirstLine_takeWhile (cs : List Char) :
    IsFirstLine cs (cs.takeWhile fun c => !isLineEnd c) := by
  constructor
  · intro c member
    have passes := List.mem_takeWhile_imp member
    rwa [Bool.not_eq_true'] at passes
  · refine ⟨cs.dropWhile fun c => !isLineEnd c, List.takeWhile_append_dropWhile.symm, ?_⟩
    intro c first
    have begins := List.head?_dropWhile_not (fun c => !isLineEnd c) cs
    rw [Option.mem_def.mp first] at begins
    simpa using begins

theorem IsFirstLine.eq_takeWhile (first : IsFirstLine cs line) :
    line = cs.takeWhile fun c => !isLineEnd c := by
  obtain ⟨oneLine, rest, rfl, ended⟩ := first
  have inside : ∀ c ∈ line, (!isLineEnd c) = true := by
    intro c member
    rw [oneLine c member]
    rfl
  have nothing : rest.takeWhile (fun c => !isLineEnd c) = [] := by
    cases rest with
    | nil => rfl
    | cons c rest => exact List.takeWhile_cons_of_neg (by simp [ended c rfl])
  rw [List.takeWhile_append_of_pos inside, nothing, List.append_nil]

/-- There is a first line, and only one, as soon as there is a character. -/
theorem firstLine?_eq_some_iff : firstLine? cs = some line ↔ cs ≠ [] ∧ IsFirstLine cs line := by
  cases cs with
  | nil => simp [firstLine?]
  | cons c cs =>
      rw [firstLine?, Option.some_inj]
      constructor
      · rintro rfl
        exact ⟨List.cons_ne_nil c cs, isFirstLine_takeWhile _⟩
      · rintro ⟨_, first⟩
        exact first.eq_takeWhile.symm
      · rintro ⟨⟩

theorem isBlankChar_of_isLineEnd (ends : isLineEnd c = true) : isBlankChar c = true := by
  simp only [isLineEnd, isBlankChar, isBlankCode, Bool.or_eq_true, Bool.and_eq_true,
    decide_eq_true_eq, beq_iff_eq] at ends ⊢
  omega

/-- The first line of a text that does not begin with white space is empty only with the text. -/
theorem IsFirstLine.ne_nil (first : IsFirstLine cs line) (some : cs ≠ [])
    (start : ∀ c ∈ cs.head?, isBlankChar c = false) : line ≠ [] := by
  rintro rfl
  obtain ⟨_, _, rfl, ended⟩ := first
  cases cs with
  | nil => exact some rfl
  | cons c cs =>
      have blank := isBlankChar_of_isLineEnd (ended c rfl)
      rw [start c rfl] at blank
      cases blank

end UsedSelectors
