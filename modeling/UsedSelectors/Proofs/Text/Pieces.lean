import UsedSelectors.Text.Lines
import Mathlib.Data.List.Basic

/-!
# Pieces between separators

A list has one piece more than it has separators. Putting lists together with a separator puts
their pieces one after the other, so items without separators are pieces of their own.
-/

namespace UsedSelectors

variable {α : Type}

theorem exists_lines (separator : α) (items : List α) :
    ∃ (lines : List (List α)) (last : List α), items = lines.flatMap (· ++ [separator]) ++ last ∧
      (∀ line ∈ lines, separator ∉ line) ∧ separator ∉ last := by
  induction items with
  | nil => exact ⟨[], [], rfl, List.forall_mem_nil _, List.not_mem_nil⟩
  | cons a rest ih =>
      obtain ⟨lines, last, rfl, clean, lastClean⟩ := ih
      by_cases same : separator = a
      · subst same
        refine ⟨[] :: lines, last, rfl, ?_, lastClean⟩
        exact List.forall_mem_cons.mpr ⟨List.not_mem_nil, clean⟩
      · have longer {items : List α} (clean : separator ∉ items) : separator ∉ a :: items :=
          mt List.mem_cons.mp (not_or.mpr ⟨same, clean⟩)
        cases lines with
        | nil => exact ⟨[], a :: last, rfl, clean, longer lastClean⟩
        | cons line lines =>
            obtain ⟨first, others⟩ := List.forall_mem_cons.mp clean
            refine ⟨(a :: line) :: lines, last, rfl, ?_, lastClean⟩
            exact List.forall_mem_cons.mpr ⟨longer first, others⟩

theorem exists_append_cons_not_mem {separator : α} {items : List α}
    (member : separator ∈ items) :
    ∃ front last, items = front ++ separator :: last ∧ separator ∉ last := by
  obtain ⟨last, front, reversed, clean⟩ := List.eq_append_cons_of_mem (List.mem_reverse.mpr member)
  refine ⟨front.reverse, last.reverse, ?_, by rwa [List.mem_reverse]⟩
  rw [← List.reverse_reverse items, reversed, List.reverse_append, List.reverse_cons,
    List.append_assoc, List.singleton_append]

variable [BEq α]

theorem pieces_ne_nil (separator : α) (items : List α) : pieces separator items ≠ [] := by
  cases items with
  | nil => exact List.cons_ne_nil _ _
  | cons a rest =>
      rw [pieces]
      split
      · exact List.cons_ne_nil _ _
      · split <;> exact List.cons_ne_nil _ _

theorem length_pieces (separator : α) (items : List α) :
    (pieces separator items).length = items.count separator + 1 := by
  induction items with
  | nil => rfl
  | cons a rest ih =>
      rw [pieces, List.count_cons]
      by_cases h : a == separator
      · rw [if_pos h, if_pos h, List.length_cons, ih]
      · rw [if_neg h, if_neg h, Nat.add_zero, ← ih]
        split
        · rename_i empty
          exact absurd empty (pieces_ne_nil separator rest)
        · rename_i piece more found
          rw [found, List.length_cons, List.length_cons]

/-- The pieces have all items but the separators. -/
theorem flatten_pieces (separator : α) (items : List α) :
    (pieces separator items).flatten = items.filter (· != separator) := by
  induction items with
  | nil => rfl
  | cons a rest ih =>
      rw [pieces, List.filter_cons, bne]
      cases a == separator with
      | true => exact ih
      | false =>
          rw [if_neg Bool.false_ne_true, Bool.not_false, if_pos rfl, ← ih]
          cases found : pieces separator rest with
          | nil => exact absurd found (pieces_ne_nil separator rest)
          | cons piece more => rfl

variable [LawfulBEq α] {separator : α}

theorem pieces_append (front rest : List α) :
    pieces separator (front ++ separator :: rest) =
      pieces separator front ++ pieces separator rest := by
  induction front with
  | nil => simp [pieces]
  | cons a front ih =>
      rw [List.cons_append, pieces, pieces, ih]
      by_cases h : a == separator
      · rw [if_pos h, if_pos h, List.cons_append]
      · rw [if_neg h, if_neg h]
        cases found : pieces separator front with
        | nil => exact absurd found (pieces_ne_nil separator front)
        | cons piece more => rfl

theorem pieces_cons_of_ne {a : α} {rest first : List α} {more : List (List α)}
    (other : separator ≠ a) (found : pieces separator rest = first :: more) :
    pieces separator (a :: rest) = (a :: first) :: more := by
  have differs : ¬(a == separator) = true := by
    intro same
    exact other (eq_of_beq same).symm
  rw [pieces, if_neg differs, found]

theorem pieces_append_cons {items : List α} (clean : separator ∉ items) (rest : List α) :
    pieces separator (items ++ separator :: rest) = items :: pieces separator rest := by
  induction items with
  | nil => rw [List.nil_append, pieces, if_pos (beq_self_eq_true separator)]
  | cons a items ih =>
      obtain ⟨other, clean⟩ := not_or.mp (mt List.mem_cons.mpr clean)
      exact pieces_cons_of_ne other (ih clean)

theorem pieces_of_not_mem {items : List α} (clean : separator ∉ items) :
    pieces separator items = [items] := by
  induction items with
  | nil => rfl
  | cons a items ih =>
      obtain ⟨other, clean⟩ := not_or.mp (mt List.mem_cons.mpr clean)
      exact pieces_cons_of_ne other (ih clean)

theorem pieces_eq_singleton_nil_iff {items : List α} :
    pieces separator items = [[]] ↔ items = [] := by
  constructor
  · intro single
    have clean : separator ∉ items := by
      have length := length_pieces separator items
      rw [single, List.length_singleton] at length
      exact List.count_eq_zero.mp (Nat.succ.inj length).symm
    rw [pieces_of_not_mem clean, List.cons.injEq] at single
    exact single.1
  · rintro rfl
    rfl

theorem pieces_flatMap_append {lines : List (List α)} (clean : ∀ line ∈ lines, separator ∉ line)
    (rest : List α) :
    pieces separator (lines.flatMap (· ++ [separator]) ++ rest) =
      lines ++ pieces separator rest := by
  induction lines with
  | nil => rfl
  | cons line lines ih =>
      obtain ⟨first, others⟩ := List.forall_mem_cons.mp clean
      rw [List.flatMap_cons, List.append_assoc, List.append_assoc, List.singleton_append,
        pieces_append_cons first, ih others, List.cons_append]

theorem pieces_flatMap {lines : List (List α)} (clean : ∀ line ∈ lines, separator ∉ line) :
    pieces separator (lines.flatMap (· ++ [separator])) = lines ++ [[]] := by
  have whole := pieces_flatMap_append clean []
  rwa [List.append_nil] at whole

theorem count_flatMap {lines : List (List α)} (clean : ∀ line ∈ lines, separator ∉ line) :
    (lines.flatMap (· ++ [separator])).count separator = lines.length := by
  have count := length_pieces separator (lines.flatMap (· ++ [separator]))
  rw [pieces_flatMap clean, List.length_append, List.length_singleton] at count
  exact (Nat.add_right_cancel count).symm

theorem exists_pieces_append {items : List α} (clean : separator ∉ items) (rest : List α) :
    ∃ first more, pieces separator rest = first :: more ∧
      pieces separator (items ++ rest) = (items ++ first) :: more := by
  induction items with
  | nil =>
      cases found : pieces separator rest with
      | nil => exact absurd found (pieces_ne_nil separator rest)
      | cons first more => exact ⟨first, more, rfl, found⟩
  | cons a items ih =>
      obtain ⟨other, clean⟩ := not_or.mp (mt List.mem_cons.mpr clean)
      obtain ⟨first, more, found, whole⟩ := ih clean
      exact ⟨first, more, found, pieces_cons_of_ne other whole⟩

end UsedSelectors
