import Mathlib.Data.List.Induction
import UsedSelectors.Proofs.Log.History

/-!
# Loggers after any steps

The states of a run are those that the steps made so far tell of. The induction is on the steps,
from the first to the last: `Tells` is what they tell of one name, a reserved one too, and is kept
by each kind of step; `Tracks` is what they tell of all names.
-/

namespace UsedSelectors.Log

namespace History

variable {history : History} {step : Step} {name : String} {level : Int}

/-! ## One name -/

theorem Registers.above {above : String} (h : history.Registers name)
    (isAbove : IsAbove above name) : history.Registers above := by
  rcases h with used | ⟨used, isUsed, below⟩
  · exact .inr ⟨name, used, isAbove⟩
  · exact .inr ⟨used, isUsed, isAbove.trans below⟩

theorem Registers.hasParts (named : ∀ name, history.Uses name → IsLoggerName name)
    (h : history.Registers name) : HasParts name := by
  rcases h with used | ⟨used, isUsed, isAbove⟩
  · exact (named name used).parts
  · exact (named used isUsed).parts.above isAbove

/-- What steps tell of the entry that a name has in the registry. -/
structure Tells (history : History) (name : String) (present? : Option Entry) : Prop where
  registered : present? ≠ none ↔ history.Registers name
  isLogger : (∃ logger, present? = some (.logger logger)) ↔ history.HasLogger name
  handlers : ∀ entry, present? = some entry →
    (.get name ∈ history → entry.toLogger.handlers = 1) ∧
      (.get name ∉ history → entry.toLogger.handlers = 0)
  level : ∀ logger, present? = some (.logger logger) →
    ∀ level, history.LatestLevel name level ↔ logger.level = level

variable {present? : Option Entry}

theorem tells_nil : Tells [] name none := by
  have noUse : ¬ Uses [] name := by simp [Uses]
  have noName : ¬ Registers [] name := by simp [Registers, Implies, Uses]
  refine ⟨by simpa using noName, ?_, by simp, by simp⟩
  simp [HasLogger, noUse]

theorem Tells.handlers_getD (told : Tells history name present?) :
    (.get name ∈ history → ((present?.map Entry.toLogger).getD ⟨unsetLevel, 0⟩).handlers = 1) ∧
      (.get name ∉ history →
        ((present?.map Entry.toLogger).getD ⟨unsetLevel, 0⟩).handlers = 0) := by
  cases present? with
  | none =>
      refine ⟨fun member => ?_, fun _ => rfl⟩
      have registered : history.Registers name := .inl ⟨_, member, rfl⟩
      exact absurd rfl (told.registered.mpr registered)
  | some entry => exact told.handlers entry rfl

theorem Tells.frame (told : Tells history name present?) (notUsed : ¬ step.Uses name)
    (silent : ∀ level, ¬ GivesLevel history name step level)
    (notAbove : ∀ used, step.Uses used → ¬ IsAbove name used) :
    Tells (history ++ [step]) name present? := by
  refine ⟨?_, ?_, ?_, ?_⟩
  · rw [registers_concat, told.registered]
    refine (or_iff_left ?_).symm
    rintro (used | ⟨used, isUsed, isAbove⟩)
    · exact notUsed used
    · exact notAbove used isUsed isAbove
  · rw [hasLogger_of_silent notUsed silent, told.isLogger]
  · simpa only [get_mem_concat_iff notUsed] using told.handlers
  · simpa only [latestLevel_of_silent silent] using told.level

theorem Tells.reserve (told : Tells history name present?) (notUsed : ¬ step.Uses name)
    (silent : ∀ level, ¬ GivesLevel history name step level)
    (above : ∃ used, step.Uses used ∧ IsAbove name used) :
    Tells (history ++ [step]) name (present?.or (some .reserved)) := by
  have registered : Registers (history ++ [step]) name := registers_concat.mpr (.inr (.inr above))
  cases present? with
  | some entry =>
      rw [Option.some_or]
      refine ⟨by simp [registered], ?_, ?_, ?_⟩
      · rw [hasLogger_of_silent notUsed silent, told.isLogger]
      · simpa only [get_mem_concat_iff notUsed] using told.handlers
      · simpa only [latestLevel_of_silent silent] using told.level
  | none =>
      have noGet : .get name ∉ history := by
        intro member
        exact told.registered.mpr (.inl ⟨_, member, rfl⟩) rfl
      refine ⟨by simp [registered], ?_, ?_, by simp⟩
      · rw [hasLogger_of_silent notUsed silent, ← told.isLogger]
        simp
      · rintro entry same
        cases same
        exact ⟨fun member => absurd ((get_mem_concat_iff notUsed).mp member) noGet, fun _ => rfl⟩

theorem tells_of_uses (used : step.Uses name) {logger : Logger}
    (handlers : (.get name ∈ history ++ [step] → logger.handlers = 1) ∧
      (.get name ∉ history ++ [step] → logger.handlers = 0))
    (level : ∀ level, LatestLevel (history ++ [step]) name level ↔ logger.level = level) :
    Tells (history ++ [step]) name (some (.logger logger)) := by
  have registered : Registers (history ++ [step]) name := registers_concat.mpr (.inr (.inl used))
  have hasLogger : HasLogger (history ++ [step]) name := hasLogger_concat.mpr (.inr (.inl used))
  refine ⟨by simp [registered], by simp [hasLogger], ?_, ?_⟩
  · intro entry same
    cases same
    exact handlers
  · intro logger same
    cases same
    exact level

theorem Tells.get (told : Tells history name present?) {old : Logger}
    (isOld : old = (present?.map Entry.toLogger).getD ⟨unsetLevel, 0⟩) :
    Tells (history ++ [.get name]) name (some (.logger (if old.handlers = 0 then
      ⟨levelOfName (history.variableValue.getD ""), 1⟩ else old))) := by
  have used : Step.Uses name (.get name) := rfl
  have asked : .get name ∈ history ++ [.get name] := List.mem_append_right _ List.mem_cons_self
  have handlers := told.handlers_getD
  rw [← isOld] at handlers
  -- Only the first request configures the logger: it has its handler from then on.
  by_cases first : .get name ∈ history
  · have hasOne := handlers.1 first
    have silent : ∀ level, ¬ GivesLevel history name (.get name) level := by
      intro level gives
      exact (givesLevel_get_iff.mp gives).2.1 first
    rw [if_neg (by rw [hasOne]; decide)]
    refine tells_of_uses used ⟨fun _ => hasOne, absurd asked⟩ fun level => ?_
    obtain ⟨logger, isLogger⟩ := told.isLogger.mpr (.inl ⟨_, first, rfl⟩)
    rw [isLogger] at isOld
    rw [latestLevel_of_silent silent, told.level logger isLogger, isOld]
    rfl
  · rw [if_pos (handlers.2 first)]
    refine tells_of_uses used ⟨fun _ => rfl, absurd asked⟩ fun level => ?_
    refine latestLevel_of_gives fun other => ?_
    rw [givesLevel_get_iff]
    exact ⟨fun gives => gives.2.2, fun same => ⟨rfl, first, same⟩⟩

theorem Tells.setLevel (told : Tells history name present?) (level : Int) {old : Logger}
    (isOld : old = (present?.map Entry.toLogger).getD ⟨unsetLevel, 0⟩) :
    Tells (history ++ [.setLevel name level]) name (some (.logger { old with level })) := by
  have handlers := told.handlers_getD
  have used : Step.Uses name (.setLevel name level) := rfl
  have notGet : .get name ∈ history ++ [.setLevel name level] ↔ .get name ∈ history := by simp
  rw [← isOld, ← notGet] at handlers
  refine tells_of_uses used handlers fun other => latestLevel_of_gives fun given => ?_
  rw [givesLevel_setLevel_iff]
  exact ⟨fun gives => gives.2, fun same => ⟨rfl, same⟩⟩

theorem Tells.setProjectLevel (told : Tells history name present?) (project : IsOfProject name)
    (levelName : String) : Tells (history ++ [.setProjectLevel levelName]) name
      (present?.map (Entry.withLevel (levelOfName levelName))) := by
  have notUsed : ¬ Step.Uses name (.setProjectLevel levelName) := id
  have noUse : ¬ ∃ used, Step.Uses used (.setProjectLevel levelName) ∧ IsAbove name used := by
    rintro ⟨_, used, _⟩
    exact used
  refine ⟨?_, ?_, ?_, ?_⟩
  · rw [registers_concat, ← told.registered, Ne, Option.map_eq_none_iff]
    exact (or_iff_left (not_or.mpr ⟨notUsed, noUse⟩)).symm
  · have becomes : HasLogger (history ++ [.setProjectLevel levelName]) name ↔
        history.Registers name := by
      rw [hasLogger_concat]
      constructor
      · rintro (hasLogger | used | ⟨_, _, implied⟩)
        · exact hasLogger.registers
        · exact absurd used notUsed
        · exact .inr implied
      · rintro (used | implied)
        · exact .inl (.inl used)
        · exact .inr (.inr ⟨project, ⟨levelName, rfl⟩, implied⟩)
    rw [becomes, ← told.registered]
    cases present? <;> simp [Entry.withLevel]
  · intro entry same
    obtain ⟨old, isOld, rfl⟩ := Option.map_eq_some_iff.mp same
    rw [get_mem_concat_iff notUsed]
    exact told.handlers old isOld
  · intro logger same level
    obtain ⟨old, isOld, isLogger⟩ := Option.map_eq_some_iff.mp same
    have registered := told.registered.mp (by simp [isOld])
    cases isLogger
    refine latestLevel_of_gives fun given => ?_
    rw [givesLevel_setProjectLevel_iff]
    exact ⟨fun gives => gives.2.2, fun same => ⟨project, registered, same⟩⟩

/-! ## What steps tell of the registry -/

/-- A state is what steps tell of it. -/
structure Tracks (history : History) (state : State) : Prop where
  value : state.levelName? = history.variableValue
  nodup : (state.registry.map Prod.fst).Nodup
  tells : ∀ name, history.Tells name (state.registry.lookup name)

variable {state : State}

theorem Tracks.closed (tracks : history.Tracks state) : state.registry.Closed := by
  intro name above registered isAbove
  rw [(tracks.tells name).registered] at registered
  exact (tracks.tells above).registered.mpr (registered.above isAbove)

theorem Tracks.hasParts (tracks : history.Tracks state)
    (named : ∀ name, history.Uses name → IsLoggerName name) : state.registry.HasParts := by
  intro name registered
  exact ((tracks.tells name).registered.mp registered).hasParts named

theorem tracks_nil : Tracks [] State.initial :=
  ⟨rfl, .nil, fun _ => tells_nil⟩

theorem Tracks.change (tracks : history.Tracks state) {used : String} {f : Logger → Logger}
    {next : State} (isName : IsLoggerName used)
    (uses : ∀ name, step.Uses name ↔ name = used)
    (value : next.levelName? = variableValue (history ++ [step]))
    (changed : next.registry = state.registry.change f used)
    (tells : ∀ old, old = ((state.registry.lookup used).map Entry.toLogger).getD ⟨unsetLevel, 0⟩ →
      Tells (history ++ [step]) used (some (.logger (f old)))) :
    Tracks (history ++ [step]) next := by
  have noSet : ∀ levelName, step ≠ .setProjectLevel levelName := by
    rintro levelName rfl
    exact (uses used).mpr rfl
  have lookup := Registry.lookup_change f tracks.closed isName.parts isName.not_isTopName
  refine ⟨value, by rw [changed]; exact Registry.nodup_change f used tracks.nodup, ?_⟩
  intro name
  rw [changed, lookup]
  by_cases same : name = used
  · subst same
    rw [if_pos rfl]
    apply tells
    rw [Registry.logger?]
    cases found : state.registry.lookup name with
    | none => rfl
    | some entry => cases entry <;> rfl
  · have notUsed : ¬ step.Uses name := mt (uses name).mp same
    have silent : ∀ level, ¬ GivesLevel history name step level := by
      intro level gives
      cases gives with
      | get => exact notUsed rfl
      | setLevel => exact notUsed rfl
      | setProjectLevel => exact noSet _ rfl
    rw [if_neg same]
    -- A name above the used one is reserved if it is new; nothing happens to all others.
    by_cases above : name ∈ namesAbove used
    · rw [if_pos above]
      exact (tracks.tells name).reserve notUsed silent
        ⟨used, (uses used).mpr rfl, (mem_namesAbove_iff isName.parts).mp above⟩
    · rw [if_neg above]
      refine (tracks.tells name).frame notUsed silent fun other otherUsed isAbove => above ?_
      obtain rfl := (uses other).mp otherUsed
      exact (mem_namesAbove_iff isName.parts).mpr isAbove

theorem Tracks.concat (tracks : history.Tracks state)
    (named : ∀ name, Uses (history ++ [step]) name → IsLoggerName name) :
    Tracks (history ++ [step]) (state.step step) := by
  have namedBefore : ∀ name, history.Uses name → IsLoggerName name :=
    fun name used => named name (uses_concat.mpr (.inl used))
  have sameValue (h : step.newValue? = none) :
      state.levelName? = variableValue (history ++ [step]) := by
    rw [variableValue_concat, h, tracks.value]
    rfl
  cases step with
  | setVariable value =>
      refine ⟨by rw [variableValue_concat]; rfl, tracks.nodup, fun name => ?_⟩
      exact (tracks.tells name).frame id (fun _ => not_givesLevel_setVariable)
        (fun _ used => used.elim)
  | get used =>
      have isName := named used (uses_concat.mpr (.inr rfl))
      refine tracks.change isName (fun name => eq_comm) (sameValue rfl) rfl ?_
      intro old isOld
      rw [tracks.value]
      exact (tracks.tells used).get isOld
  | setLevel used level =>
      have isName := named used (uses_concat.mpr (.inr rfl))
      refine tracks.change isName (fun name => eq_comm) (sameValue rfl) rfl ?_
      intro old isOld
      exact (tracks.tells used).setLevel level isOld
  | setProjectLevel levelName =>
      refine ⟨sameValue rfl, Registry.nodup_setProjectLevel _ tracks.nodup, fun name => ?_⟩
      have lookup := Registry.lookup_setProjectLevel (levelOfName levelName)
        tracks.closed (tracks.hasParts namedBefore) name
      rw [State.step, lookup]
      split
      · rename_i project
        exact (tracks.tells name).setProjectLevel (isProjectName_iff.mp project) levelName
      · rename_i notProject
        rw [isProjectName_iff] at notProject
        refine (tracks.tells name).frame id ?_ fun _ used => used.elim
        intro level gives
        exact notProject (givesLevel_setProjectLevel_iff.mp gives).1

theorem tracks_foldl (history : History)
    (named : ∀ name, history.Uses name → IsLoggerName name) :
    history.Tracks (history.foldl State.step State.initial) := by
  induction history using List.reverseRec with
  | nil => exact tracks_nil
  | append_singleton before step ih =>
      rw [List.foldl_append]
      refine (ih ?_).concat named
      intro name used
      exact named name (uses_concat.mpr (.inl used))

/-! ## All loggers of a run -/

structure Reflects (history : History) (registry : Registry) : Prop where
  nodup : (registry.loggers.map Prod.fst).Nodup
  names : ∀ name, name ∈ registry.loggers.map Prod.fst ↔ history.HasLogger name
  handlers : ∀ name logger, (name, logger) ∈ registry.loggers →
    (.get name ∈ history → logger.handlers = 1) ∧ (.get name ∉ history → logger.handlers = 0)
  level : ∀ name logger, (name, logger) ∈ registry.loggers →
    ∀ level, history.LatestLevel name level ↔ logger.level = level

theorem Tracks.reflects (tracks : history.Tracks state) : history.Reflects state.registry := by
  have member (name : String) (logger : Logger) : (name, logger) ∈ state.registry.loggers ↔
      state.registry.lookup name = some (.logger logger) :=
    Registry.mem_loggers_iff tracks.nodup
  refine ⟨Registry.nodup_loggers tracks.nodup, ?_, ?_, ?_⟩
  · intro name
    rw [← (tracks.tells name).isLogger]
    simp only [List.mem_map, Prod.exists, member, exists_and_right, exists_eq_right]
  · intro name logger isListed
    exact (tracks.tells name).handlers _ ((member name logger).mp isListed)
  · intro name logger isListed
    exact (tracks.tells name).level logger ((member name logger).mp isListed)

theorem Tracks.mem_loggers_setProjectLevel (tracks : history.Tracks state)
    (named : ∀ name, history.Uses name → IsLoggerName name) (levelName : String)
    (notProject : ¬ IsOfProject name) {logger : Logger} :
    (name, logger) ∈ (state.step (.setProjectLevel levelName)).registry.loggers ↔
      (name, logger) ∈ state.registry.loggers := by
  have nodup := Registry.nodup_setProjectLevel (levelOfName levelName) tracks.nodup
  have lookup := Registry.lookup_setProjectLevel (levelOfName levelName)
    tracks.closed (tracks.hasParts named) name
  rw [← isProjectName_iff] at notProject
  rw [if_neg notProject] at lookup
  rw [State.step, Registry.mem_loggers_iff nodup, Registry.mem_loggers_iff tracks.nodup, lookup]

end History

namespace State

theorem length_steps (state : State) (steps : List Step) :
    (state.steps steps).length = steps.length := by
  induction steps generalizing state with
  | nil => rfl
  | cons step rest ih => rw [State.steps, List.length_cons, List.length_cons, ih]

theorem getElem?_cons_steps_eq_some {state found : State} {steps : List Step} {count : Nat}
    (isFound : (state :: state.steps steps)[count]? = some found) :
    found = (steps.take count).foldl State.step state := by
  induction count generalizing state steps with
  | zero => exact (Option.some.inj isFound).symm
  | succ count ih =>
      cases steps with
      | nil => cases isFound
      | cons step rest => exact ih isFound

/-- Which loggers there are after each step of a run, how many handlers they have and what their
levels are, and that setting the level of the project changes none that is not of the project. -/
theorem reflects_steps {history : History}
    (named : ∀ name, history.Uses name → IsLoggerName name) :
    (initial.steps history).length = history.length ∧
      ∀ count state, (initial :: initial.steps history)[count]? = some state →
        History.Reflects (history.take count) state.registry ∧
          ∀ levelName name logger, ¬ IsOfProject name →
            ((name, logger) ∈ (state.step (.setProjectLevel levelName)).registry.loggers ↔
              (name, logger) ∈ state.registry.loggers) := by
  refine ⟨length_steps _ _, ?_⟩
  intro count state isFound
  have namedBefore : ∀ name, History.Uses (history.take count) name → IsLoggerName name := by
    rintro name ⟨step, member, uses⟩
    exact named name ⟨step, List.mem_of_mem_take member, uses⟩
  have tracks := History.tracks_foldl (history.take count) namedBefore
  rw [← getElem?_cons_steps_eq_some isFound] at tracks
  refine ⟨tracks.reflects, ?_⟩
  intro levelName name logger notProject
  exact tracks.mem_loggers_setProjectLevel namedBefore levelName notProject

/-- A logger whose level is set before it is asked for, below names of the project that are only
reserved at first, and one that is not of the project. -/
def layeredHistory : History :=
  [.setLevel "selector_extractor.io.read" 40, .get "other", .setProjectLevel "debug",
    .setVariable (some "warn"), .get "selector_extractor.io.read"]

/-- The handler comes with the first `get`, and the level with it; the names above have loggers
without handlers. -/
theorem reflects_steps_layeredHistory :
    (∀ name, layeredHistory.Uses name → IsLoggerName name) ∧
      layeredHistory.Reflects
        [("selector_extractor.io.read", .logger ⟨30, 1⟩), ("selector_extractor.io", .logger ⟨10, 0⟩),
          ("selector_extractor", .logger ⟨10, 0⟩), ("other", .logger ⟨20, 1⟩)] := by
  have named : ∀ name, layeredHistory.Uses name → IsLoggerName name := by
    have used (name : String) (h : layeredHistory.Uses name) :
        name = "selector_extractor.io.read" ∨ name = "other" := by
      obtain ⟨step, member, uses⟩ := h
      simp only [layeredHistory, List.mem_cons, List.not_mem_nil, or_false] at member
      rcases member with rfl | rfl | rfl | rfl | rfl
      · exact .inl uses.symm
      · exact .inr uses.symm
      · exact uses.elim
      · exact uses.elim
      · exact .inl uses.symm
    intro name h
    rcases used name h with rfl | rfl
    · exact ⟨by unfold HasParts; decide, by decide⟩
    · exact ⟨by unfold HasParts; decide, by decide⟩
  exact ⟨named, ((reflects_steps named).2 5 ⟨_, some "warn"⟩ rfl).1⟩

end State

end UsedSelectors.Log
