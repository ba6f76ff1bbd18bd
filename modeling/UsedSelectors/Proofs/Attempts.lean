import Mathlib.Data.List.Forall2

/-!
# Attempts that may fail

What is known of a step that may fail when it follows another one, and of a list whose items are
tried one after the other: it succeeds exactly when every item does, and it fails with the error of
one of the items.
-/

namespace UsedSelectors.Attempts

variable {α β ε ζ : Type}

theorem bind_eq_ok_iff {first : Except ε α} {next : α → Except ε β} {b : β} :
    first >>= next = .ok b ↔ ∃ a, first = .ok a ∧ next a = .ok b := by
  cases first <;> simp [bind, Except.bind]

theorem bind_eq_error_iff {first : Except ε α} {next : α → Except ε β} {e : ε} :
    first >>= next = .error e ↔ first = .error e ∨ ∃ a, first = .ok a ∧ next a = .error e := by
  cases first <;> simp [bind, Except.bind]

theorem map_eq_ok_iff {first : Except ε α} {f : α → β} {b : β} :
    first.map f = .ok b ↔ ∃ a, first = .ok a ∧ f a = b := by
  cases first <;> simp [Except.map]

theorem map_eq_error_iff {first : Except ε α} {f : α → β} {e : ε} :
    first.map f = .error e ↔ first = .error e := by
  cases first <;> simp [Except.map]

theorem mapError_eq_ok_iff {first : Except ε α} {f : ε → ζ} {a : α} :
    first.mapError f = .ok a ↔ first = .ok a := by
  cases first <;> simp [Except.mapError]

theorem mapError_eq_error_iff {first : Except ε α} {f : ε → ζ} {e : ζ} :
    first.mapError f = .error e ↔ ∃ d, first = .error d ∧ f d = e := by
  cases first <;> simp [Except.mapError]

/-- A list is tried with success exactly when its items are, one by one. -/
theorem mapM_eq_ok_iff {f : α → Except ε β} {items : List α} {results : List β} :
    items.mapM f = .ok results ↔ List.Forall₂ (fun a b => f a = .ok b) items results := by
  induction items generalizing results with
  | nil => cases results <;> simp [pure, Except.pure]
  | cons item items ih =>
      rw [List.mapM_cons, bind_eq_ok_iff]
      constructor
      · rintro ⟨result, found, rest⟩
        obtain ⟨others, hothers, hresults⟩ := bind_eq_ok_iff.mp rest
        cases hresults
        exact .cons found (ih.mp hothers)
      · rintro (_ | ⟨found, others⟩)
        exact ⟨_, found, bind_eq_ok_iff.mpr ⟨_, ih.mpr others, rfl⟩⟩

theorem mapM_cons_eq_ok_iff {f : α → Except ε β} {item : α} {items : List α} {results : List β} :
    (item :: items).mapM f = .ok results ↔
      ∃ first others, f item = .ok first ∧ items.mapM f = .ok others ∧
        results = first :: others := by
  simp only [mapM_eq_ok_iff, List.forall₂_cons_left_iff]

theorem exists_mem_of_forall₂ {R : α → β → Prop} {items : List α} {results : List β}
    (each : List.Forall₂ R items results) {b : β} (hb : b ∈ results) : ∃ a ∈ items, R a b := by
  induction each with
  | nil => cases hb
  | @cons a first _ _ found _ ih =>
      rcases List.mem_cons.mp hb with rfl | later
      · exact ⟨a, List.mem_cons_self, found⟩
      · obtain ⟨a, ha, found⟩ := ih later
        exact ⟨a, List.mem_cons_of_mem _ ha, found⟩

/-- The items of a list have partners, one by one, exactly when each of them has one. -/
theorem exists_forall₂_iff {R : α → β → Prop} {items : List α} :
    (∃ results, List.Forall₂ R items results) ↔ ∀ a ∈ items, ∃ b, R a b := by
  induction items with
  | nil => simp
  | cons item items ih =>
      rw [List.forall_mem_cons, ← ih]
      constructor
      · rintro ⟨results, _ | ⟨found, others⟩⟩
        exact ⟨⟨_, found⟩, _, others⟩
      · rintro ⟨⟨result, found⟩, results, others⟩
        exact ⟨result :: results, .cons found others⟩

/-- A list can be tried with success exactly when each of its items can. -/
theorem exists_mapM_eq_ok_iff {f : α → Except ε β} {items : List α} :
    (∃ results, items.mapM f = .ok results) ↔ ∀ a ∈ items, ∃ b, f a = .ok b := by
  simp only [mapM_eq_ok_iff, exists_forall₂_iff]

theorem mapM_eq_some_iff {f : α → Option β} {items : List α} {results : List β} :
    items.mapM f = some results ↔ List.Forall₂ (fun a b => f a = some b) items results := by
  induction items generalizing results with
  | nil => cases results <;> simp
  | cons item items ih =>
      rw [List.mapM_cons, Option.bind_eq_bind, Option.bind_eq_some_iff]
      constructor
      · rintro ⟨result, found, rest⟩
        obtain ⟨others, hothers, hresults⟩ := Option.bind_eq_some_iff.mp rest
        cases hresults
        exact .cons found (ih.mp hothers)
      · rintro (_ | ⟨found, others⟩)
        exact ⟨_, found, Option.bind_eq_some_iff.mpr ⟨_, ih.mpr others, rfl⟩⟩

theorem forall₂_filterMap (f : α → Option β) (items : List α) :
    List.Forall₂ (fun a b => f a = some b) (items.filter fun a => (f a).isSome)
      (items.filterMap f) := by
  induction items with
  | nil => exact .nil
  | cons a items ih =>
      rw [List.filter_cons, List.filterMap_cons]
      cases given : f a with
      | none => exact ih
      | some b => exact .cons given ih

theorem mapM_eq_some_of_forall₂ {f : α → Option β} {results : List β} {given : List α}
    (each : List.Forall₂ (fun b a => f a = some b) results given) :
    given.mapM f = some results :=
  mapM_eq_some_iff.mpr each.flip

theorem exists_mem_of_mapM_eq_error {f : α → Except ε β} {items : List α} {e : ε}
    (failed : items.mapM f = .error e) : ∃ a ∈ items, f a = .error e := by
  induction items with
  | nil => cases failed
  | cons item items ih =>
      rw [List.mapM_cons, bind_eq_error_iff] at failed
      obtain here | ⟨result, _, rest⟩ := failed
      · exact ⟨item, List.mem_cons_self, here⟩
      · rw [bind_eq_error_iff] at rest
        obtain later | ⟨_, _, impossible⟩ := rest
        · obtain ⟨a, ha, hfa⟩ := ih later
          exact ⟨a, List.mem_cons_of_mem _ ha, hfa⟩
        · cases impossible

/-- Where the items of a list are tried in several ways, and each fails alike in all of them or has
results that belong together, so does the list. -/
theorem mapM_family {γ : Type} {f : γ → α → Except ε β} {p : (γ → β) → Prop} {items : List α}
    (each : ∀ a ∈ items, (∃ b, p b ∧ ∀ c, f c a = .ok (b c)) ∨ ∃ e, ∀ c, f c a = .error e) :
    (∃ results : List (γ → β), (∀ b ∈ results, p b) ∧
      ∀ c, items.mapM (f c) = .ok (results.map fun b => b c)) ∨
    ∃ e, ∀ c, items.mapM (f c) = .error e := by
  induction items with
  | nil => exact .inl ⟨[], by simp, fun _ => rfl⟩
  | cons item items ih =>
      obtain ⟨first, others⟩ := List.forall_mem_cons.mp each
      rcases first with ⟨b, holds, found⟩ | ⟨e, failed⟩
      · rcases ih others with ⟨results, all, later⟩ | ⟨e, failed⟩
        · refine .inl ⟨b :: results, List.forall_mem_cons.mpr ⟨holds, all⟩, fun c => ?_⟩
          exact mapM_cons_eq_ok_iff.mpr ⟨_, _, found c, later c, rfl⟩
        · refine .inr ⟨e, fun c => ?_⟩
          rw [List.mapM_cons, bind_eq_error_iff]
          exact .inr ⟨_, found c, bind_eq_error_iff.mpr (.inl (failed c))⟩
      · refine .inr ⟨e, fun c => ?_⟩
        rw [List.mapM_cons, bind_eq_error_iff]
        exact .inl (failed c)

end UsedSelectors.Attempts
