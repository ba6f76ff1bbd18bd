import UsedSelectors.Proofs.Lists
import UsedSelectors.Proofs.Log.Names

/-!
# What changes in a registry

Each change of a registry is told by what is found for a name after it. A registry is closed when
it has all names above the names that it has. In a closed registry asking for a logger reserves
just those names above it that are new, although the search for them ends at the first logger.
-/

namespace UsedSelectors.Log

def Entry.toLogger : Entry → Logger
  | reserved => ⟨unsetLevel, 0⟩
  | logger present => present

def Entry.withLevel (level : Int) (entry : Entry) : Entry :=
  .logger { entry.toLogger with level }

theorem Entry.withLevel_withLevel (level : Int) (entry : Entry) :
    (entry.withLevel level).withLevel level = entry.withLevel level := rfl

namespace Registry

variable {registry : Registry} {name other : String} {level : Int}

/-- All names above a registered name are registered. -/
def Closed (registry : Registry) : Prop :=
  ∀ name above, registry.lookup name ≠ none → IsAbove above name → registry.lookup above ≠ none

def HasParts (registry : Registry) : Prop :=
  ∀ name, registry.lookup name ≠ none → Log.HasParts name

/-! ## Single entries -/

theorem lookup_set (entry : Entry) (name other : String) (registry : Registry) :
    (set entry name registry).lookup other =
      if other = name then some entry else registry.lookup other := by
  induction registry with
  | nil => rw [set, lookup_cons]
  | cons first rest ih =>
      obtain ⟨present, old⟩ := first
      rw [set]
      by_cases same : present = name
      · subst same
        rw [if_pos rfl, lookup_cons, lookup_cons]
        split <;> rfl
      · rw [if_neg same, lookup_cons, lookup_cons, ih]
        by_cases h : other = present
        · subst h
          rw [if_pos rfl, if_neg same, if_pos rfl]
        · rw [if_neg h, if_neg h]

theorem map_fst_set (entry : Entry) (name : String) (registry : Registry) :
    (set entry name registry).map Prod.fst =
      if name ∈ registry.map Prod.fst then registry.map Prod.fst
      else registry.map Prod.fst ++ [name] := by
  induction registry with
  | nil => rfl
  | cons first rest ih =>
      obtain ⟨present, old⟩ := first
      rw [set]
      by_cases same : present = name
      · subst same
        rw [if_pos rfl, if_pos (by simp)]
        rfl
      · rw [if_neg same, List.map_cons, List.map_cons, ih]
        have further : (name ∈ present :: rest.map Prod.fst) ↔ name ∈ rest.map Prod.fst := by
          rw [List.mem_cons]
          exact or_iff_right (Ne.symm same)
        by_cases h : name ∈ rest.map Prod.fst
        · rw [if_pos h, if_pos (further.mpr h)]
        · rw [if_neg h, if_neg (mt further.mp h)]
          rfl

theorem nodup_set (entry : Entry) (name : String) (nodup : (registry.map Prod.fst).Nodup) :
    ((set entry name registry).map Prod.fst).Nodup := by
  rw [map_fst_set]
  split
  · exact nodup
  · rename_i new
    exact List.nodup_append.mpr ⟨nodup, List.Pairwise.cons (by simp) .nil, by
      rintro a ha b hb rfl
      rw [List.mem_singleton] at hb
      exact new (hb ▸ ha)⟩

theorem mem_map_fst_iff {β : Type} {entries : List (String × β)} :
    name ∈ entries.map Prod.fst ↔ entries.lookup name ≠ none := by
  rw [Ne, List.lookup_eq_none_iff]
  simp

theorem logger?_eq_some_iff {logger : Logger} :
    registry.logger? name = some logger ↔ registry.lookup name = some (.logger logger) := by
  rw [logger?]
  cases registry.lookup name with
  | none => simp
  | some entry => cases entry <;> simp

theorem mem_loggers_iff (nodup : (registry.map Prod.fst).Nodup) {logger : Logger} :
    (name, logger) ∈ registry.loggers ↔ registry.lookup name = some (.logger logger) := by
  rw [← mem_iff_lookup nodup, loggers, List.mem_filterMap]
  constructor
  · rintro ⟨⟨found, entry⟩, member, same⟩
    cases entry with
    | reserved => cases same
    | logger present =>
        cases same
        exact member
  · intro member
    exact ⟨_, member, rfl⟩

theorem nodup_loggers (nodup : (registry.map Prod.fst).Nodup) :
    (registry.loggers.map Prod.fst).Nodup := by
  refine nodup.sublist ?_
  rw [loggers, List.map_filterMap]
  induction registry with
  | nil => exact .slnil
  | cons first rest ih =>
      obtain ⟨present, entry⟩ := first
      rw [List.map_cons, List.nodup_cons] at nodup
      cases entry with
      | reserved => exact .cons _ (ih nodup.2)
      | logger present => exact .cons_cons _ (ih nodup.2)

/-! ## Reserved names -/

/-- Names that come in the order of `namesAbove` are reserved if they are new. Where the search
ends at a logger, nothing that comes later is new. -/
theorem lookup_reserve {names : List String}
    (settled : names.Pairwise fun near far =>
      (∃ logger, registry.lookup near = some (.logger logger)) → registry.lookup far ≠ none)
    (other : String) :
    (reserve names registry).lookup other =
      if other ∈ names then (registry.lookup other).or (some .reserved)
      else registry.lookup other := by
  induction names generalizing registry with
  | nil => simp [reserve]
  | cons name names ih =>
      obtain ⟨later, settled⟩ := List.pairwise_cons.mp settled
      rw [reserve]
      cases found : registry.lookup name with
      | none =>
          dsimp only
          have settled' : names.Pairwise fun near far =>
              (∃ logger, (set .reserved name registry).lookup near = some (.logger logger)) →
                (set .reserved name registry).lookup far ≠ none := by
            refine settled.imp fun {near far} h => ?_
            simp only [lookup_set]
            rintro ⟨logger, isLogger⟩
            split at isLogger
            · cases isLogger
            · split
              · simp
              · exact h ⟨logger, isLogger⟩
          rw [ih settled', lookup_set]
          by_cases same : other = name
          · subst same
            simp [found]
          · simp [same]
      | some entry =>
          cases entry with
          | reserved =>
              dsimp only
              rw [ih settled]
              by_cases same : other = name
              · subst same
                simp [found]
              · simp [same]
          | logger logger =>
              have known : ∀ n ∈ name :: names, registry.lookup n ≠ none := by
                refine List.forall_mem_cons.mpr ⟨by simp [found], fun n hn => ?_⟩
                exact later n hn ⟨logger, found⟩
              dsimp only
              split
              · rename_i member
                have isKnown := Option.isSome_iff_ne_none.mpr (known other member)
                exact (Option.or_of_isSome isKnown).symm
              · rfl

theorem nodup_reserve (names : List String) (nodup : (registry.map Prod.fst).Nodup) :
    ((reserve names registry).map Prod.fst).Nodup := by
  induction names generalizing registry with
  | nil => exact nodup
  | cons name names ih =>
      rw [reserve]
      split
      · exact ih (nodup_set _ _ nodup)
      · exact ih nodup
      · exact nodup

/-! ## Loggers that are asked for -/

theorem lookup_declare (closed : registry.Closed) (parts : Log.HasParts name) (other : String) :
    (registry.declare name).lookup other =
      if other = name then some (.logger ((registry.logger? name).getD ⟨unsetLevel, 0⟩))
      else if other ∈ namesAbove name then (registry.lookup other).or (some .reserved)
      else registry.lookup other := by
  rw [declare]
  cases found : registry.logger? name with
  | some logger =>
      have isLogger := logger?_eq_some_iff.mp found
      dsimp only
      by_cases same : other = name
      · rw [if_pos same, same, isLogger]
        rfl
      · rw [if_neg same]
        split
        · rename_i above
          have known := closed name other (by simp [isLogger])
            ((mem_namesAbove_iff parts).mp above)
          exact (Option.or_of_isSome (Option.isSome_iff_ne_none.mpr known)).symm
        · rfl
  | none =>
      have settled : (namesAbove name).Pairwise fun near far =>
          (∃ logger, (set (.logger ⟨unsetLevel, 0⟩) name registry).lookup near =
            some (.logger logger)) →
            (set (.logger ⟨unsetLevel, 0⟩) name registry).lookup far ≠ none := by
        refine (pairwise_namesAbove parts).imp_of_mem fun {near far} hnear _ above => ?_
        simp only [lookup_set]
        rintro ⟨logger, isLogger⟩
        have known : registry.lookup near ≠ none := by
          split at isLogger
          · rename_i same
            obtain ⟨rest, hrest⟩ := isAbove_iff.mp ((mem_namesAbove_iff parts).mp hnear)
            have := congrArg List.length hrest
            rw [same] at this
            simp at this
          · simp [isLogger]
        split
        · simp
        · exact closed near far known above
      dsimp only
      rw [lookup_reserve settled, lookup_set]
      by_cases same : other = name
      · simp [same]
      · simp [same]

theorem lookup_change (f : Logger → Logger) (closed : registry.Closed)
    (parts : Log.HasParts name) (notTop : isTopName name = false) (other : String) :
    (registry.change f name).lookup other =
      if other = name then some (.logger (f ((registry.logger? name).getD ⟨unsetLevel, 0⟩)))
      else if other ∈ namesAbove name then (registry.lookup other).or (some .reserved)
      else registry.lookup other := by
  have declared := lookup_declare closed parts
  have isLogger := logger?_eq_some_iff.mpr ((declared name).trans (if_pos rfl))
  rw [change, notTop]
  dsimp only
  rw [if_neg (by decide), isLogger]
  dsimp only
  rw [lookup_set, declared]
  by_cases same : other = name
  · rw [if_pos same, if_pos same]
  · rw [if_neg same, if_neg same, if_neg same]

theorem nodup_change (f : Logger → Logger) (name : String)
    (nodup : (registry.map Prod.fst).Nodup) :
    ((registry.change f name).map Prod.fst).Nodup := by
  have declared : ((registry.declare name).map Prod.fst).Nodup := by
    rw [declare]
    split
    · exact nodup
    · exact nodup_reserve _ (nodup_set _ _ nodup)
  rw [change]
  split
  · exact nodup
  · dsimp only
    split
    · exact nodup_set _ _ declared
    · exact declared

/-! ## The level of the project -/

/-- Setting the level of a registered name changes its own entry and no other. -/
theorem lookup_setLevel_of_registered (level : Int) (closed : registry.Closed)
    (parts : Log.HasParts name)
    (notTop : isTopName name = false) (registered : registry.lookup name ≠ none)
    (other : String) :
    (registry.setLevel level name).lookup other =
      if other = name then (registry.lookup name).map (.withLevel level)
      else registry.lookup other := by
  rw [setLevel, lookup_change _ closed parts notTop]
  by_cases same : other = name
  · rw [if_pos same, if_pos same, logger?]
    cases found : registry.lookup name with
    | none => exact absurd found registered
    | some entry => cases entry <;> rfl
  · rw [if_neg same, if_neg same]
    split
    · rename_i above
      have known := closed name other registered ((mem_namesAbove_iff parts).mp above)
      exact Option.or_of_isSome (Option.isSome_iff_ne_none.mpr known)
    · rfl

theorem lookup_foldl_setLevel {names : List String} (closed : registry.Closed)
    (parts : registry.HasParts) (notTop : ∀ name ∈ names, isTopName name = false)
    (registered : ∀ name ∈ names, registry.lookup name ≠ none) (other : String) :
    (names.foldl (fun r name => r.setLevel level name) registry).lookup other =
      if other ∈ names then (registry.lookup other).map (.withLevel level)
      else registry.lookup other := by
  induction names generalizing registry with
  | nil => simp
  | cons name names ih =>
      obtain ⟨firstNotTop, notTop⟩ := List.forall_mem_cons.mp notTop
      obtain ⟨firstRegistered, registered⟩ := List.forall_mem_cons.mp registered
      have next := lookup_setLevel_of_registered level closed
        (parts name firstRegistered) firstNotTop firstRegistered
      have same : ∀ n, (registry.setLevel level name).lookup n = none ↔
          registry.lookup n = none := by
        intro n
        rw [next]
        split
        · rename_i h
          rw [h, Option.map_eq_none_iff]
        · rfl
      rw [List.foldl_cons, ih (fun n a => by simpa only [same, Ne] using closed n a)
        (fun n => by simpa only [same, Ne] using parts n) notTop
        (fun n hn => mt (same n).mp (registered n hn)), next]
      by_cases h : other = name
      · subst h
        cases registry.lookup other <;> simp [Entry.withLevel_withLevel]
      · simp [h]

theorem lookup_setProjectLevel (level : Int) (closed : registry.Closed) (parts : registry.HasParts)
    (other : String) :
    (registry.setProjectLevel level).lookup other =
      if isProjectName other then (registry.lookup other).map (.withLevel level)
      else registry.lookup other := by
  rw [setProjectLevel, lookup_foldl_setLevel closed parts]
  · cases found : registry.lookup other with
    | none => simp
    | some entry =>
        have member : other ∈ registry.map Prod.fst := mem_map_fst_iff.mpr (by simp [found])
        simp only [List.mem_filter, member, true_and]
  · intro name hname
    exact not_isTopName_of_isOfProject (isProjectName_iff.mp (List.mem_filter.mp hname).2)
  · intro name hname
    exact mem_map_fst_iff.mp (List.mem_filter.mp hname).1

theorem nodup_setProjectLevel (level : Int) (nodup : (registry.map Prod.fst).Nodup) :
    ((registry.setProjectLevel level).map Prod.fst).Nodup := by
  rw [setProjectLevel]
  generalize (registry.map Prod.fst).filter isProjectName = names
  induction names generalizing registry with
  | nil => exact nodup
  | cons name names ih => exact ih (nodup_change _ name nodup)

end Registry

end UsedSelectors.Log
