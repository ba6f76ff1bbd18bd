import Mathlib.Data.List.Basic
import UsedSelectors.Text.Lines

/-!
# Words

The words of a text are its maximal runs without white space. A text can be taken apart wherever
white space begins, and white space alone has no words, so it does not matter how much of it there
is between two words, or at the ends.
-/

namespace UsedSelectors.Text

def IsBlank (t : Text) : Prop := ∀ c ∈ t, c.isBlank = true

def IsSolid (t : Text) : Prop := ∀ c ∈ t, c.isBlank = false

instance (t : Text) : Decidable t.IsBlank := by unfold IsBlank; infer_instance

instance (t : Text) : Decidable t.IsSolid := by unfold IsSolid; infer_instance

/-- A text has ended, or goes on with white space. -/
def Ends (t : Text) : Prop := ∀ c ∈ t.head?, c.isBlank = true

/-- The runs of a text without white space. Each begins after white space, if there is any, and goes
on for as long as there is none. -/
inductive Runs : Text → List Text → Prop where
  | none {gap : Text} (blank : IsBlank gap) : Runs gap []
  | cons {gap word rest : Text} {words : List Text} (blank : IsBlank gap) (notEmpty : word ≠ [])
      (solid : IsSolid word) (maximal : Ends rest) (more : Runs rest words) :
      Runs (gap ++ word ++ rest) (word :: words)

variable {t gap word before rest : Text} {words : List Text} {c : CodePoint}

theorem isBlank_cons : IsBlank (c :: t) ↔ c.isBlank = true ∧ IsBlank t := List.forall_mem_cons

theorem isSolid_cons : IsSolid (c :: t) ↔ c.isBlank = false ∧ IsSolid t := List.forall_mem_cons

theorem IsBlank.ends_append (blank : IsBlank gap) (notEmpty : gap ≠ []) (rest : Text) :
    Ends (gap ++ rest) := by
  cases gap with
  | nil => exact absurd rfl notEmpty
  | cons c gap =>
      rintro _ ⟨⟩
      exact (isBlank_cons.mp blank).1

/-! ## Cutting at white space -/

/-- The pieces around single white space characters, which may be empty. -/
def cut (t : Text) : List Text := t.foldr wordsStep [[]]

theorem words_eq (t : Text) : t.words = t.cut.filter fun word => !word.isEmpty := rfl

theorem cut_cons_of_isBlank (blank : c.isBlank = true) (t : Text) :
    cut (c :: t) = [] :: cut t := by
  change wordsStep c (cut t) = _
  unfold wordsStep
  rw [if_pos blank]

theorem cut_cons_of_not_isBlank (solid : c.isBlank = false) {more : List Text}
    (rest : cut t = word :: more) : cut (c :: t) = (c :: word) :: more := by
  change wordsStep c (cut t) = _
  unfold wordsStep
  rw [solid, if_neg Bool.false_ne_true, rest]

theorem exists_cut_eq_cons (t : Text) : ∃ word more, cut t = word :: more := by
  induction t with
  | nil => exact ⟨[], [], rfl⟩
  | cons c t ih =>
      obtain ⟨word, more, first⟩ := ih
      cases blank : c.isBlank with
      | true => exact ⟨_, _, cut_cons_of_isBlank blank t⟩
      | false => exact ⟨_, _, cut_cons_of_not_isBlank blank first⟩

theorem cut_append {more : List Text} (after : cut rest = [] :: more) (t : Text) :
    cut (t ++ rest) = cut t ++ more := by
  induction t with
  | nil => exact after
  | cons c t ih =>
      cases blank : c.isBlank with
      | true =>
          rw [List.cons_append, cut_cons_of_isBlank blank, cut_cons_of_isBlank blank, ih]
          rfl
      | false =>
          obtain ⟨word, others, first⟩ := exists_cut_eq_cons t
          rw [first] at ih
          rw [List.cons_append, cut_cons_of_not_isBlank blank ih,
            cut_cons_of_not_isBlank blank first]
          rfl

theorem cut_of_isSolid (solid : IsSolid word) : cut word = [word] := by
  induction word with
  | nil => rfl
  | cons c word ih =>
      obtain ⟨first, solid⟩ := isSolid_cons.mp solid
      exact cut_cons_of_not_isBlank first (ih solid)

theorem exists_cut_of_ends (ends : Ends rest) : ∃ more, cut rest = [] :: more := by
  cases rest with
  | nil => exact ⟨[], rfl⟩
  | cons c rest => exact ⟨_, cut_cons_of_isBlank (ends c rfl) rest⟩

/-! ## Words of a text in parts -/

theorem words_append (t : Text) (ends : Ends rest) : (t ++ rest).words = t.words ++ rest.words := by
  obtain ⟨more, after⟩ := exists_cut_of_ends ends
  rw [words_eq, words_eq, words_eq, cut_append after, after, List.filter_append,
    List.filter_cons_of_neg (by simp)]

theorem words_of_isSolid (notEmpty : word ≠ []) (solid : IsSolid word) : word.words = [word] := by
  rw [words_eq, cut_of_isSolid solid, List.filter_cons_of_pos (by simpa using notEmpty),
    List.filter_nil]

theorem words_blank_append (blank : IsBlank gap) (t : Text) : (gap ++ t).words = t.words := by
  induction gap with
  | nil => rfl
  | cons c gap ih =>
      obtain ⟨first, blank⟩ := isBlank_cons.mp blank
      rw [List.cons_append, words_eq, cut_cons_of_isBlank first, List.filter_cons_of_neg (by simp)]
      exact ih blank

theorem words_of_isBlank (blank : IsBlank gap) : gap.words = [] := by
  have alone := words_blank_append blank []
  rwa [List.append_nil] at alone

theorem words_append_blank_append (before after : Text) (blank : IsBlank gap)
    (notEmpty : gap ≠ []) : (before ++ gap ++ after).words = before.words ++ after.words := by
  rw [List.append_assoc, words_append before (blank.ends_append notEmpty after),
    words_blank_append blank]

theorem words_append_blank (t : Text) (blank : IsBlank gap) : (t ++ gap).words = t.words := by
  have ends : Ends gap := fun c first => blank c (List.mem_of_mem_head? first)
  rw [words_append t ends, words_of_isBlank blank, List.append_nil]

/-! ## Words are maximal runs -/

theorem Runs.words_eq (runs : Runs t words) : t.words = words := by
  induction runs with
  | none blank => exact words_of_isBlank blank
  | cons blank notEmpty solid maximal _ ih =>
      rw [words_append _ maximal, words_blank_append blank, words_of_isSolid notEmpty solid, ih]
      rfl

theorem exists_runs (t : Text) : ∃ words, Runs t words := by
  induction t with
  | nil => exact ⟨[], .none (List.forall_mem_nil _)⟩
  | cons c t ih =>
      obtain ⟨words, runs⟩ := ih
      cases here : c.isBlank with
      | true =>
          cases runs with
          | none blank => exact ⟨[], .none (isBlank_cons.mpr ⟨here, blank⟩)⟩
          | @cons gap word rest words blank notEmpty solid maximal more =>
              exact ⟨word :: words,
                .cons (isBlank_cons.mpr ⟨here, blank⟩) notEmpty solid maximal more⟩
      | false =>
          have single : IsSolid [c] := isSolid_cons.mpr ⟨here, List.forall_mem_nil _⟩
          by_cases ends : Ends t
          · exact ⟨[c] :: words,
              .cons (List.forall_mem_nil _) (List.cons_ne_nil _ _) single ends runs⟩
          -- The text goes on without white space, so its first run begins at once.
          · cases runs with
            | none blank =>
                exact absurd (fun c first => blank c (List.mem_of_mem_head? first)) ends
            | @cons gap word rest words blank notEmpty solid maximal more =>
                cases gap with
                | nil =>
                    exact ⟨(c :: word) :: words, .cons (List.forall_mem_nil _)
                      (List.cons_ne_nil _ _) (isSolid_cons.mpr ⟨here, solid⟩) maximal more⟩
                | cons d gap =>
                    rw [List.append_assoc] at ends
                    exact absurd (blank.ends_append (List.cons_ne_nil _ _) _) ends

theorem runs_iff : Runs t words ↔ t.words = words := by
  constructor
  · exact Runs.words_eq
  · rintro rfl
    obtain ⟨words, runs⟩ := exists_runs t
    rwa [runs.words_eq]

theorem Runs.forall_mem (runs : Runs t words) : ∀ word ∈ words, word ≠ [] ∧ IsSolid word := by
  induction runs with
  | none => exact List.forall_mem_nil _
  | cons _ notEmpty solid _ _ ih => exact List.forall_mem_cons.mpr ⟨⟨notEmpty, solid⟩, ih⟩

theorem Runs.flatten_eq (runs : Runs t words) : words.flatten = t.filter fun c => !c.isBlank := by
  induction runs with
  | @none gap blank =>
      rw [List.flatten_nil, List.filter_eq_nil_iff.mpr]
      exact fun c member => by simp [blank c member]
  | @cons gap word rest words blank _ solid _ _ ih =>
      have noneOfGap : gap.filter (fun c => !c.isBlank) = [] :=
        List.filter_eq_nil_iff.mpr fun c member => by simp [blank c member]
      have allOfWord : word.filter (fun c => !c.isBlank) = word :=
        List.filter_eq_self.mpr fun c member => by simp [solid c member]
      rw [List.flatten_cons, ih, List.filter_append, List.filter_append, noneOfGap, allOfWord]
      rfl

theorem flatten_words (t : Text) : t.words.flatten = t.filter fun c => !c.isBlank :=
  (runs_iff.mpr rfl).flatten_eq

theorem words_eq_nil_iff : t.words = [] ↔ IsBlank t := by
  refine ⟨fun none c member => ?_, words_of_isBlank⟩
  have nothing := flatten_words t
  rw [none, List.flatten_nil, eq_comm, List.filter_eq_nil_iff] at nothing
  simpa using nothing c member

end UsedSelectors.Text
