import UsedSelectors.Text.UpperCase

/-!
# Records and loggers

A record has a severity, the name of the logger it goes to and a message. Severities have numeric
levels; a record is kept when its level is no lower than the level that is in force.

Loggers are kept by their dotted names. A name that only stands above the name of a logger is
reserved: it is no logger yet, but becomes one, without a handler, when it is asked for. Asking for
a logger with a handler configures it unless it has a handler already. Setting the level of the
project reaches every registered name of the project, the reserved ones among them.
-/

namespace UsedSelectors.Log

inductive Severity where
  | debug
  | info
  | warning
  | error
  | critical
  deriving DecidableEq

namespace Severity

def level : Severity → Nat
  | debug => 10
  | info => 20
  | warning => 30
  | error => 40
  | critical => 50

def name : Severity → String
  | debug => "DEBUG"
  | info => "INFO"
  | warning => "WARNING"
  | error => "ERROR"
  | critical => "CRITICAL"

end Severity

/-- The level of a logger that has none of its own. -/
def unsetLevel : Nat := 0

def levels : List (String × Nat) := [
  ("CRITICAL", Severity.critical.level), ("FATAL", Severity.critical.level),
  ("ERROR", Severity.error.level), ("WARNING", Severity.warning.level),
  ("WARN", Severity.warning.level), ("INFO", Severity.info.level),
  ("DEBUG", Severity.debug.level), ("NOTSET", unsetLevel)]

/-- The level of a name in any case; a name that means no level stands for `INFO`. -/
def levelOfName (name : String) : Nat :=
  (levels.lookup (upperCase name)).getD Severity.info.level

/-- The level that is in force where a level has been set on all loggers. Where it is set to none,
warnings and what is graver are kept. -/
def levelInForce (level : Nat) : Nat := if level = unsetLevel then Severity.warning.level else level

structure Record where
  severity : Severity
  logger : String
  message : Text
  deriving DecidableEq

def keep (level : Nat) (records : List Record) : List Record :=
  records.filter (fun record => levelInForce level ≤ record.severity.level)

/-! ## Loggers -/

structure Logger where
  level : Int
  handlers : Nat
  deriving DecidableEq

inductive Entry where
  /-- The name stands above the name of a logger. -/
  | reserved
  | logger (logger : Logger)
  deriving DecidableEq

/-- The registered names, in the order in which they came. -/
abbrev Registry := List (String × Entry)

/-- The name that all loggers of the project have or are below of. -/
def projectName : String := "selector_extractor"

def isProjectName (name : String) : Bool :=
  name = projectName || (projectName ++ ".").toList.isPrefixOf name.toList

/-- Names that stand for the logger above all others, which is not registered. -/
def isTopName (name : String) : Bool := name = "" || name = "root"

/-- The names above a name, given its characters from the end: what is left of each dot. The
characters next to a dot that was cut at belong to no further cut. -/
def namesAboveRev : List Char → List (List Char)
  | [] => []
  | '.' :: c :: rest =>
    (c :: rest).reverse :: namesAboveRev rest
  | _ :: rest => namesAboveRev rest

/-- The names above a dotted name, nearest first. -/
def namesAbove (name : String) : List String :=
  (namesAboveRev name.toList.reverse).map String.ofList

namespace Registry

def set (entry : Entry) (name : String) : Registry → Registry
  | [] => [(name, entry)]
  | (other, old) :: rest =>
    if other = name then (name, entry) :: rest else (other, old) :: set entry name rest

/-- Reserves names up to the first one that is a logger. -/
def reserve : List String → Registry → Registry
  | [], registry => registry
  | name :: names, registry =>
    match registry.lookup name with
    | none => reserve names (registry.set .reserved name)
    | some .reserved => reserve names registry
    | some (.logger _) => registry

def logger? (registry : Registry) (name : String) : Option Logger :=
  match registry.lookup name with
  | some (.logger logger) => some logger
  | _ => none

/-- Makes a logger of a name, if it is none yet, and reserves the names above it. -/
def declare (name : String) (registry : Registry) : Registry :=
  match registry.logger? name with
  | some _ => registry
  | none => reserve (namesAbove name) (registry.set (.logger ⟨unsetLevel, 0⟩) name)

def change (f : Logger → Logger) (name : String) (registry : Registry) : Registry :=
  if isTopName name then registry
  else
    let declared := registry.declare name
    match declared.logger? name with
    | some logger => declared.set (.logger (f logger)) name
    | none => declared

/-- Gives a logger a handler and a level, if it has no handler. -/
def configure (level : Int) (name : String) (registry : Registry) : Registry :=
  registry.change (fun logger => if logger.handlers = 0 then ⟨level, 1⟩ else logger) name

def setLevel (level : Int) (name : String) (registry : Registry) : Registry :=
  registry.change (fun logger => { logger with level }) name

def setProjectLevel (level : Int) (registry : Registry) : Registry :=
  ((registry.map Prod.fst).filter isProjectName).foldl
    (fun r name => r.setLevel level name) registry

/-- The loggers with their names. -/
def loggers (registry : Registry) : List (String × Logger) :=
  registry.filterMap (fun entry =>
    match entry.2 with
    | .logger logger => some (entry.1, logger)
    | .reserved => none)

end Registry

inductive Step where
  /-- The variable that new loggers take their level from is set or unset. -/
  | setVariable (value : Option String)
  | get (name : String)
  | setLevel (name : String) (level : Int)
  | setProjectLevel (levelName : String)

/-- The loggers, and the variable that new ones take their level from. -/
structure State where
  registry : Registry
  levelName? : Option String

def State.initial : State := ⟨[], none⟩

def State.step (state : State) : Step → State
  | .setVariable value => { state with levelName? := value }
  | .get name =>
    { state with
      registry := state.registry.configure (levelOfName (state.levelName?.getD "")) name }
  | .setLevel name level => { state with registry := state.registry.setLevel level name }
  | .setProjectLevel levelName =>
    { state with registry := state.registry.setProjectLevel (levelOfName levelName) }

def State.steps (state : State) : List Step → List State
  | [] => []
  | step :: rest =>
    let next := state.step step
    next :: next.steps rest

end UsedSelectors.Log
