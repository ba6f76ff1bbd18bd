import Mathlib.Data.List.Chain
import Mathlib.Data.List.Nodup
import UsedSelectors.Markup.Document

/-!
# Rows of linked nodes

Nodes that are linked to the ones beside them make a row. A node among its siblings shows where it
stands in such a row, and one step to either side shows where the link leads. So from any node of a
row, going back to the first one and then forward to the last comes by every node just once.
-/

namespace UsedSelectors.Markup

/-- The links of nodes to the ones in front of them and after them. -/
structure Links (α : Type) where
  previous? : α → Option α
  next? : α → Option α

namespace Links

variable {α : Type}

/-- The nodes that one link after the other leads to, up to one without a link. -/
inductive LeadsTo (step? : α → Option α) : α → List α → Prop where
  | stop {a : α} (last : step? a = none) : LeadsTo step? a []
  | more {a b : α} {nodes : List α} (linked : step? a = some b) (rest : LeadsTo step? b nodes) :
      LeadsTo step? a (b :: nodes)

/-- A whole row: each node is linked to the next one and back, and nothing is in front of the first
one or after the last one. -/
structure IsRow (links : Links α) (row : List α) : Prop where
  inverse : ∀ a b, links.next? a = some b ↔ links.previous? b = some a
  linked : row.IsChain fun a b => links.next? a = some b
  first : ∀ a ∈ row.head?, links.previous? a = none
  last : ∀ a ∈ row.getLast?, links.next? a = none

def flip (links : Links α) : Links α := ⟨links.next?, links.previous?⟩

variable {links : Links α} {step? : α → Option α} {row front back nodes others : List α} {a b : α}

/-! ## Where links lead -/

theorem LeadsTo.unique (leads : LeadsTo step? a nodes) (again : LeadsTo step? a others) :
    nodes = others := by
  induction leads generalizing others with
  | stop last =>
      cases again with
      | stop => rfl
      | more linked =>
          rw [last] at linked
          cases linked
  | more linked _ ih =>
      cases again with
      | stop last =>
          rw [last] at linked
          cases linked
      | more linked' rest' =>
          rw [linked, Option.some_inj] at linked'
          subst linked'
          rw [ih rest']

theorem LeadsTo.exists_of_mem (leads : LeadsTo step? a nodes) (member : b ∈ nodes) :
    ∃ front back, nodes = front ++ b :: back ∧ LeadsTo step? b back := by
  induction leads with
  | stop => cases member
  | @more a c nodes linked rest ih =>
      rcases List.mem_cons.mp member with rfl | later
      · exact ⟨[], nodes, rfl, rest⟩
      · obtain ⟨front, back, rfl, onward⟩ := ih later
        exact ⟨c :: front, back, rfl, onward⟩

theorem LeadsTo.nodup (leads : LeadsTo step? a nodes) : (a :: nodes).Nodup := by
  induction leads with
  | stop => exact List.nodup_singleton _
  | @more a b nodes linked rest ih =>
      refine List.nodup_cons.mpr ⟨fun member => ?_, ih⟩
      obtain ⟨front, back, same, onward⟩ := (LeadsTo.more linked rest).exists_of_mem member
      rw [onward.unique (.more linked rest)] at same
      have length := congrArg List.length same
      simp only [List.length_append, List.length_cons] at length
      omega

namespace IsRow

theorem reverse (isRow : links.IsRow row) : links.flip.IsRow row.reverse where
  inverse a b := (isRow.inverse b a).symm
  linked := by
    rw [List.isChain_reverse]
    exact isRow.linked.imp fun a b => (isRow.inverse a b).mp
  first := by
    rw [List.head?_reverse]
    exact isRow.last
  last := by
    rw [List.getLast?_reverse]
    exact isRow.first

theorem leadsTo_next (isRow : links.IsRow (front ++ a :: back)) : LeadsTo links.next? a back := by
  induction back generalizing front a with
  | nil =>
      apply LeadsTo.stop
      apply isRow.last
      rw [List.getLast?_concat]
      exact Option.mem_some_self a
  | cons b back ih =>
      have linked : links.next? a = some b := by
        have chain := (List.isChain_append.mp isRow.linked).2.1
        exact (List.isChain_cons_cons.mp chain).1
      have sameRow : links.IsRow (front ++ [a] ++ b :: back) := by
        rw [List.append_assoc, List.singleton_append]
        exact isRow
      exact .more linked (ih sameRow)

theorem leadsTo_previous (isRow : links.IsRow (front ++ a :: back)) :
    LeadsTo links.previous? a front.reverse := by
  have flipped := isRow.reverse
  rw [List.reverse_append, List.reverse_cons, List.append_assoc, List.singleton_append] at flipped
  exact flipped.leadsTo_next

theorem nodup (isRow : links.IsRow row) : row.Nodup := by
  cases row with
  | nil => exact List.nodup_nil
  | cons a row =>
      have whole : links.IsRow ([] ++ a :: row) := isRow
      exact whole.leadsTo_next.nodup

end IsRow

end Links

namespace Siblings

open Links

variable {α β : Type} {links : Links α} {label : α → β} {row front back : List α} {a : α}
  {s t : Siblings β}

/-- The node stands among its siblings as one does in a row, where each is known by a label. -/
structure Shows (links : Links α) (label : α → β) (s : Siblings β) (a : α) : Prop where
  here : s.here = label a
  before : ∃ nodes, LeadsTo links.previous? a nodes ∧ s.before = nodes.map label
  after : ∃ nodes, LeadsTo links.next? a nodes ∧ s.after = nodes.map label

def between (label : α → β) (front : List α) (a : α) (back : List α) : Siblings β :=
  ⟨front.reverse.map label, label a, back.map label⟩

theorem shows_between (isRow : links.IsRow (front ++ a :: back)) :
    (between label front a back).Shows links label a :=
  ⟨rfl, ⟨_, isRow.leadsTo_previous, rfl⟩, ⟨_, isRow.leadsTo_next, rfl⟩⟩

theorem Shows.eq_between (isRow : links.IsRow (front ++ a :: back))
    (shown : s.Shows links label a) : s = between label front a back := by
  obtain ⟨before, here, after⟩ := s
  obtain ⟨rfl, ⟨_, backward, rfl⟩, ⟨_, onward, rfl⟩⟩ := shown
  rw [between, backward.unique isRow.leadsTo_previous, onward.unique isRow.leadsTo_next]

/-! ## One step -/

theorem Shows.rel_previous? (inverse : ∀ a b, links.next? a = some b ↔ links.previous? b = some a)
    (shown : s.Shows links label a) :
    Option.Rel (Shows links label) s.previous? (links.previous? a) := by
  obtain ⟨before, here, after⟩ := s
  obtain ⟨rfl, ⟨_, backward, rfl⟩, ⟨nodes, onward, rfl⟩⟩ := shown
  cases backward with
  | stop last =>
      rw [last]
      exact .none
  | more linked rest =>
      rw [linked]
      have back := (inverse _ _).mpr linked
      exact .some ⟨rfl, ⟨_, rest, rfl⟩, ⟨a :: nodes, .more back onward, rfl⟩⟩

theorem Shows.rel_next? (inverse : ∀ a b, links.next? a = some b ↔ links.previous? b = some a)
    (shown : s.Shows links label a) :
    Option.Rel (Shows links label) s.next? (links.next? a) := by
  obtain ⟨before, here, after⟩ := s
  obtain ⟨rfl, ⟨nodes, backward, rfl⟩, ⟨_, onward, rfl⟩⟩ := shown
  cases onward with
  | stop last =>
      rw [last]
      exact .none
  | more linked rest =>
      rw [linked]
      have back := (inverse _ _).mp linked
      exact .some ⟨rfl, ⟨a :: nodes, .more back backward, rfl⟩, ⟨_, rest, rfl⟩⟩

theorem previous?_between_nil (label : α → β) (a : α) (back : List α) :
    (between label [] a back).previous? = none := rfl

theorem previous?_between_concat (label : α → β) (front : List α) (b a : α) (back : List α) :
    (between label (front ++ [b]) a back).previous? = some (between label front b (a :: back)) := by
  rw [between, List.reverse_append, List.reverse_singleton, List.singleton_append, List.map_cons]
  rfl

theorem next?_between_nil (label : α → β) (front : List α) (a : α) :
    (between label front a []).next? = none := rfl

theorem next?_between_cons (label : α → β) (front : List α) (a b : α) (back : List α) :
    (between label front a (b :: back)).next? = some (between label (front ++ [a]) b back) := by
  rw [between, between, List.reverse_append, List.reverse_singleton, List.singleton_append]
  rfl

/-! ## The way through a row -/

theorem exists_first_between (label : α → β) (front : List α) (a : α) (back : List α) :
    ∃ b rest, front ++ a :: back = b :: rest ∧
      (between label front a back).first = between label [] b rest := by
  induction front using List.reverseRecOn generalizing a back with
  | nil =>
      refine ⟨a, back, rfl, ?_⟩
      rw [first.eq_def, previous?_between_nil]
  | append_singleton front b ih =>
      obtain ⟨c, rest, same, found⟩ := ih b (a :: back)
      refine ⟨c, rest, ?_, ?_⟩
      · rw [List.append_assoc, List.singleton_append, same]
      · rw [first.eq_def, previous?_between_concat]
        exact found

theorem onward_between (label : α → β) (front : List α) (a : α) (back : List α) :
    (between label front a back).onward = (a :: back).map label := by
  induction back generalizing front a with
  | nil =>
      rw [onward.eq_def, next?_between_nil]
      rfl
  | cons b back ih =>
      rw [onward.eq_def, next?_between_cons]
      dsimp only
      rw [ih]
      rfl

/-- From any node of a row the whole row is found. -/
theorem all_of_shows (isRow : links.IsRow row) (member : a ∈ row)
    (shown : s.Shows links label a) : s.all = row.map label := by
  obtain ⟨front, back, rfl⟩ := List.append_of_mem member
  obtain ⟨b, rest, same, found⟩ := exists_first_between label front a back
  rw [shown.eq_between isRow, all, found, onward_between, same]

theorem exists_shows (isRow : links.IsRow row) (label : α → β) (member : a ∈ row) :
    ∃ s : Siblings β, s.Shows links label a := by
  obtain ⟨front, back, rfl⟩ := List.append_of_mem member
  exact ⟨_, shows_between isRow⟩

end Siblings

end UsedSelectors.Markup
