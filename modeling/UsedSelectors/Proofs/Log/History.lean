import UsedSelectors.Proofs.Log.Registry

/-!
# What steps mean for loggers

Which loggers there are, how many handlers each has and what its level is can be read off the steps
that were made. A name that a step uses has a logger; a name above it is only reserved, and if it
belongs to the project it has a logger as soon as the level of the project is set. The level of a
logger comes from the latest step that gives it one.

What holds of steps with one more at the end follows from what held before it.
-/

namespace UsedSelectors.Log

/-- A step asks for the logger of a name, or sets its level. -/
def Step.Uses (name : String) : Step → Prop
  | get used => used = name
  | setLevel used _ => used = name
  | setVariable _ | setProjectLevel _ => False

def Step.newValue? : Step → Option (Option String)
  | setVariable value => some value
  | _ => none

/-- The level that a text stands for, or the variable where it is not set. -/
inductive MeansLevel : Option String → Nat → Prop where
  | unset : MeansLevel none Severity.info.level
  | known {text : String} {level : Nat} (listed : (upperCase text, level) ∈ levels) :
      MeansLevel (some text) level
  | unknown {text : String} (notListed : ∀ level, (upperCase text, level) ∉ levels) :
      MeansLevel (some text) Severity.info.level

/-- Steps in the order in which they are made. -/
abbrev History := List Step

namespace History

def Uses (history : History) (name : String) : Prop := ∃ step ∈ history, step.Uses name

def Implies (history : History) (name : String) : Prop :=
  ∃ used, history.Uses used ∧ IsAbove name used

def Registers (history : History) (name : String) : Prop :=
  history.Uses name ∨ history.Implies name

/-- A name has a logger: it is used, or it belongs to the project and was above a used name when
the level of the project was set. -/
def HasLogger (history : History) (name : String) : Prop :=
  history.Uses name ∨ IsOfProject name ∧ ∃ before levelName after,
    history = before ++ .setProjectLevel levelName :: after ∧ Implies before name

/-- The value that the variable was last set to, if it was not unset. -/
def variableValue (history : History) : Option String :=
  (history.filterMap Step.newValue?).getLast?.join

/-- A step gives the logger of a name its level, where other steps come before it. -/
inductive GivesLevel (before : History) (name : String) : Step → Int → Prop where
  | get {level : Nat} (first : .get name ∉ before)
      (means : MeansLevel before.variableValue level) : GivesLevel before name (.get name) level
  | setLevel {level : Int} : GivesLevel before name (.setLevel name level) level
  | setProjectLevel {levelName : String} {level : Nat} (project : IsOfProject name)
      (registered : before.Registers name) (means : MeansLevel (some levelName) level) :
      GivesLevel before name (.setProjectLevel levelName) level

/-- The level that a logger has from the latest step that gives it one. -/
def LatestLevel (history : History) (name : String) (level : Int) : Prop :=
  ∃ before step after, history = before ++ step :: after ∧ GivesLevel before name step level ∧
    ∀ early later late, after = early ++ later :: late →
      ∀ other, ¬ GivesLevel (before ++ step :: early) name later other

/-! ## One step more -/

variable {history : History} {step : Step} {name : String} {level : Int}

theorem uses_concat : Uses (history ++ [step]) name ↔ history.Uses name ∨ step.Uses name := by
  simp [Uses, or_and_right, exists_or]

theorem implies_concat : Implies (history ++ [step]) name ↔
    history.Implies name ∨ ∃ used, step.Uses used ∧ IsAbove name used := by
  simp only [Implies, uses_concat, or_and_right, exists_or]

theorem registers_concat : Registers (history ++ [step]) name ↔
    history.Registers name ∨ step.Uses name ∨ ∃ used, step.Uses used ∧ IsAbove name used := by
  rw [Registers, Registers, uses_concat, implies_concat]
  constructor
  · rintro ((h | h) | (h | h))
    · exact .inl (.inl h)
    · exact .inr (.inl h)
    · exact .inl (.inr h)
    · exact .inr (.inr h)
  · rintro ((h | h) | (h | h))
    · exact .inl (.inl h)
    · exact .inr (.inl h)
    · exact .inl (.inr h)
    · exact .inr (.inr h)

theorem hasLogger_concat : HasLogger (history ++ [step]) name ↔
    history.HasLogger name ∨ step.Uses name ∨
      IsOfProject name ∧ (∃ levelName, step = .setProjectLevel levelName) ∧
        history.Implies name := by
  rw [HasLogger, HasLogger, uses_concat]
  constructor
  · rintro ((used | used) | ⟨project, before, levelName, after, same, implied⟩)
    · exact .inl (.inl used)
    · exact .inr (.inl used)
    · rcases concat_eq_append_cons_iff.mp same with ⟨_, rfl, rfl⟩ | ⟨more, _, rfl⟩
      · exact .inr (.inr ⟨project, ⟨levelName, rfl⟩, implied⟩)
      · exact .inl (.inr ⟨project, before, levelName, more, rfl, implied⟩)
  · rintro ((used | ⟨project, before, levelName, after, rfl, implied⟩) | used |
      ⟨project, ⟨levelName, rfl⟩, implied⟩)
    · exact .inl (.inl used)
    · exact .inr ⟨project, before, levelName, after ++ [step], by simp, implied⟩
    · exact .inl (.inr used)
    · exact .inr ⟨project, history, levelName, [], rfl, implied⟩

theorem latestLevel_concat : LatestLevel (history ++ [step]) name level ↔
    GivesLevel history name step level ∨
      history.LatestLevel name level ∧ ∀ other, ¬ GivesLevel history name step other := by
  constructor
  · rintro ⟨before, given, after, same, gives, latest⟩
    rcases concat_eq_append_cons_iff.mp same with ⟨_, rfl, rfl⟩ | ⟨more, rfl, rfl⟩
    · exact .inl gives
    · refine .inr ⟨⟨before, given, more, rfl, gives, ?_⟩, latest more step [] rfl⟩
      rintro early later late rfl
      exact latest early later (late ++ [step]) (by simp)
  · rintro (gives | ⟨⟨before, given, after, rfl, gives, latest⟩, none⟩)
    · refine ⟨history, step, [], rfl, gives, ?_⟩
      intro early later late same
      exact absurd same (by simp)
    · refine ⟨before, given, after ++ [step], by simp, gives, ?_⟩
      intro early later late same
      rcases concat_eq_append_cons_iff.mp same with ⟨_, rfl, rfl⟩ | ⟨more, _, rfl⟩
      · exact none
      · exact latest early later more rfl

theorem variableValue_concat :
    variableValue (history ++ [step]) = (step.newValue?).getD history.variableValue := by
  rw [variableValue, List.filterMap_append]
  cases h : step.newValue? with
  | none => simp [h, variableValue]
  | some value => simp [h]

/-! ## Which level a step gives -/

theorem meansLevel_iff {value : Option String} {level : Nat} :
    MeansLevel value level ↔ level = levelOfName (value.getD "") := by
  have listed {text : String} {level : Nat} :
      (upperCase text, level) ∈ levels ↔ levels.lookup (upperCase text) = some level :=
    mem_iff_lookup (by decide)
  constructor
  · intro means
    cases means with
    | unset => decide
    | known found =>
        rw [levelOfName, Option.getD_some, listed.mp found]
        rfl
    | @unknown text notFound =>
        have missing : levels.lookup (upperCase text) = none := by
          rw [Option.eq_none_iff_forall_ne_some]
          intro level found
          exact notFound level (listed.mpr found)
        rw [levelOfName, Option.getD_some, missing]
        rfl
  · rintro rfl
    cases value with
    | none =>
        have empty : levelOfName (Option.getD none "") = Severity.info.level := by decide
        rw [empty]
        exact .unset
    | some text =>
        rw [Option.getD_some, levelOfName]
        cases found : levels.lookup (upperCase text) with
        | none =>
            refine .unknown fun level isListed => ?_
            rw [listed.mp isListed] at found
            cases found
        | some level => exact .known (listed.mpr found)

theorem not_givesLevel_setVariable {value : Option String} :
    ¬ GivesLevel history name (.setVariable value) level := by
  intro gives
  cases gives

theorem givesLevel_get_iff {used : String} : GivesLevel history name (.get used) level ↔
    used = name ∧ .get name ∉ history ∧
      level = levelOfName (history.variableValue.getD "") := by
  constructor
  · intro gives
    cases gives with
    | get first means => exact ⟨rfl, first, by rw [meansLevel_iff.mp means]⟩
  · rintro ⟨rfl, first, rfl⟩
    exact .get first (meansLevel_iff.mpr rfl)

theorem givesLevel_setLevel_iff {used : String} {given : Int} :
    GivesLevel history name (.setLevel used given) level ↔ used = name ∧ level = given := by
  constructor
  · intro gives
    cases gives with
    | setLevel => exact ⟨rfl, rfl⟩
  · rintro ⟨rfl, rfl⟩
    exact .setLevel

theorem givesLevel_setProjectLevel_iff {levelName : String} :
    GivesLevel history name (.setProjectLevel levelName) level ↔
      IsOfProject name ∧ history.Registers name ∧ level = levelOfName levelName := by
  constructor
  · intro gives
    cases gives with
    | setProjectLevel project registered means =>
        exact ⟨project, registered, by rw [meansLevel_iff.mp means, Option.getD_some]⟩
  · rintro ⟨project, registered, rfl⟩
    exact .setProjectLevel project registered (meansLevel_iff.mpr rfl)

/-! ## Steps that tell of a name, and others -/

theorem HasLogger.registers (h : history.HasLogger name) : history.Registers name := by
  rcases h with used | ⟨_, before, levelName, after, rfl, below, ⟨step, member, uses⟩, isAbove⟩
  · exact .inl used
  · exact .inr ⟨below, ⟨step, List.mem_append_left _ member, uses⟩, isAbove⟩

theorem latestLevel_of_gives {given : Int}
    (gives : ∀ other, GivesLevel history name step other ↔ other = given) :
    LatestLevel (history ++ [step]) name level ↔ given = level := by
  rw [latestLevel_concat, gives]
  constructor
  · rintro (rfl | ⟨_, silent⟩)
    · rfl
    · exact absurd ((gives given).mpr rfl) (silent given)
  · rintro rfl
    exact .inl rfl

theorem latestLevel_of_silent (silent : ∀ other, ¬ GivesLevel history name step other) :
    LatestLevel (history ++ [step]) name level ↔ history.LatestLevel name level := by
  rw [latestLevel_concat]
  constructor
  · rintro (gives | ⟨latest, _⟩)
    · exact absurd gives (silent level)
    · exact latest
  · intro latest
    exact .inr ⟨latest, silent⟩

theorem hasLogger_of_silent (notUsed : ¬ step.Uses name)
    (silent : ∀ other, ¬ GivesLevel history name step other) :
    HasLogger (history ++ [step]) name ↔ history.HasLogger name := by
  rw [hasLogger_concat]
  refine or_iff_left ?_
  rintro (used | ⟨project, ⟨levelName, rfl⟩, implied⟩)
  · exact notUsed used
  · exact silent _ (.setProjectLevel project (.inr implied) (meansLevel_iff.mpr rfl))

theorem get_mem_concat_iff (notUsed : ¬ step.Uses name) :
    .get name ∈ history ++ [step] ↔ .get name ∈ history := by
  rw [List.mem_append, List.mem_singleton]
  refine or_iff_left ?_
  rintro rfl
  exact notUsed rfl

end History

end UsedSelectors.Log
