import Mathlib.Data.List.Induction
import Mathlib.Data.List.Nodup

/-!
# Lists

Named entries, of which looking up a name finds just the one that has it; last items; and lists from
which only the first item with each key is kept.
-/

namespace UsedSelectors

variable {α β : Type}

/-! ## Named entries -/

section Lookup

variable {κ : Type} [DecidableEq κ] [BEq κ] [LawfulBEq κ]

theorem lookup_cons (name other : κ) (value : β) (rest : List (κ × β)) :
    ((name, value) :: rest).lookup other =
      if other = name then some value else rest.lookup other := by
  rw [List.lookup_cons]
  by_cases same : other = name
  · rw [if_pos same, beq_iff_eq.mpr same]
  · rw [if_neg same, beq_eq_false_iff_ne.mpr same]

theorem mem_iff_lookup {entries : List (κ × β)} {name : κ}
    (nodup : (entries.map Prod.fst).Nodup) {value : β} :
    (name, value) ∈ entries ↔ entries.lookup name = some value := by
  induction entries with
  | nil => simp
  | cons first rest ih =>
      obtain ⟨present, old⟩ := first
      rw [List.map_cons, List.nodup_cons] at nodup
      obtain ⟨new, nodup⟩ := nodup
      rw [List.mem_cons, lookup_cons, ih nodup]
      by_cases h : name = present
      · subst h
        rw [if_pos rfl, Prod.mk.injEq]
        constructor
        · rintro (⟨_, rfl⟩ | found)
          · rfl
          · exact (new (List.mem_map.mpr ⟨_, (ih nodup).mpr found, rfl⟩)).elim
        · intro same
          exact .inl ⟨rfl, (Option.some.inj same).symm⟩
      · rw [if_neg h, Prod.mk.injEq]
        exact or_iff_right (fun both => h both.1)

end Lookup

/-! ## Last items -/

theorem concat_eq_append_cons_iff {front before after : List α} {last given : α} :
    front ++ [last] = before ++ given :: after ↔
      (after = [] ∧ front = before ∧ last = given) ∨
        ∃ more, after = more ++ [last] ∧ front = before ++ given :: more := by
  constructor
  · intro same
    rcases List.eq_nil_or_concat' after with rfl | ⟨more, end', rfl⟩
    · obtain ⟨sameFront, sameLast⟩ := List.append_inj' same rfl
      exact .inl ⟨rfl, sameFront, List.singleton_inj.mp sameLast⟩
    · rw [← List.cons_append, ← List.append_assoc] at same
      obtain ⟨sameFront, sameLast⟩ := List.append_inj' same rfl
      exact .inr ⟨more, by rw [List.singleton_inj.mp sameLast], sameFront⟩
  · rintro (⟨rfl, rfl, rfl⟩ | ⟨more, rfl, rfl⟩)
    · rfl
    · simp

/-! ## First occurrences -/

structure KeepsFirsts (key : α → β) (items kept : List α) : Prop where
  first : ∀ before a after, kept = before ++ a :: after →
    ∃ earlier later, items = earlier ++ a :: later ∧ key a ∉ earlier.map key ∧
      ∀ k, k ∈ earlier.map key ↔ k ∈ before.map key
  complete : ∀ a ∈ items, key a ∈ kept.map key

namespace KeepsFirsts

variable {key : α → β} {items kept : List α} {a : α}

theorem nil : KeepsFirsts key [] [] where
  first before a after same := by simp at same
  complete := List.forall_mem_nil _

theorem mem (keeps : KeepsFirsts key items kept) (member : a ∈ kept) : a ∈ items := by
  obtain ⟨before, after, same⟩ := List.append_of_mem member
  obtain ⟨earlier, later, rfl, _⟩ := keeps.first before a after same
  exact List.mem_append_right _ List.mem_cons_self

theorem mem_map_iff (keeps : KeepsFirsts key items kept) (k : β) :
    k ∈ items.map key ↔ k ∈ kept.map key := by
  constructor
  · intro member
    obtain ⟨a, inItems, rfl⟩ := List.mem_map.mp member
    exact keeps.complete a inItems
  · intro member
    obtain ⟨a, inKept, rfl⟩ := List.mem_map.mp member
    exact List.mem_map_of_mem (keeps.mem inKept)

theorem again (keeps : KeepsFirsts key items kept) (old : key a ∈ kept.map key) :
    KeepsFirsts key (items ++ [a]) kept where
  first before b after same := by
    obtain ⟨earlier, later, rfl, new, keys⟩ := keeps.first before b after same
    exact ⟨earlier, later ++ [a], by simp, new, keys⟩
  complete := by
    rw [List.forall_mem_append, List.forall_mem_singleton]
    exact ⟨keeps.complete, old⟩

theorem fresh (keeps : KeepsFirsts key items kept) (new : key a ∉ kept.map key) :
    KeepsFirsts key (items ++ [a]) (kept ++ [a]) where
  first before b after same := by
    rcases concat_eq_append_cons_iff.mp same with ⟨rfl, rfl, rfl⟩ | ⟨more, rfl, sameFront⟩
    · exact ⟨items, [], rfl, mt (keeps.mem_map_iff _).mp new, keeps.mem_map_iff⟩
    · obtain ⟨earlier, later, rfl, new, keys⟩ := keeps.first before b more sameFront
      exact ⟨earlier, later ++ [a], by simp, new, keys⟩
  complete := by
    rw [List.forall_mem_append, List.forall_mem_singleton, List.map_append]
    refine ⟨fun b member => List.mem_append_left _ (keeps.complete b member), ?_⟩
    exact List.mem_append_right _ List.mem_cons_self

theorem nodup (keeps : KeepsFirsts key items kept) : (kept.map key).Nodup := by
  have cut : ∀ before after, kept = before ++ after → (before.map key).Nodup := by
    intro before
    induction before using List.reverseRecOn with
    | nil => intros; exact List.nodup_nil
    | append_singleton before a ih =>
        intro after same
        rw [List.append_assoc] at same
        obtain ⟨earlier, later, _, new, keys⟩ := keeps.first before a after same
        rw [List.map_append, List.nodup_append']
        refine ⟨ih _ same, List.nodup_singleton _, ?_⟩
        rw [List.map_singleton, List.disjoint_singleton, ← keys]
        exact new
  exact cut kept [] (List.append_nil kept).symm

end KeepsFirsts

end UsedSelectors
