import UsedSelectors.Json
import UsedSelectors.Mode
import UsedSelectors.Text.Numeral
import UsedSelectors.Text.UpperCase

/-!
# Settings

What a run over files goes by: the mode, the size limit, the encoding and the log level. Settings
are read from environment variables; a value that is not given has a default. Only the size limit
can be refused, and it is kept inside fixed bounds.
-/

namespace UsedSelectors

/-- The value that is nearest to the given one inside the bounds; the lower bound wins where it
lies above the upper one. -/
def clamp (value lower upper : Int) : Int := max lower (min upper value)

inductive ModeChoice where
  | byExtension
  | named (name : String)
  deriving DecidableEq, Inhabited

namespace ModeChoice

def automatic : String := "auto"

def ofName (name : String) : ModeChoice :=
  if name = automatic then byExtension else named name

def name : ModeChoice → String
  | byExtension => automatic
  | named name => name

def names : List String := [automatic, Mode.markup.name, Mode.component.name]

end ModeChoice

/-- A value, and whether it was given or is a default. -/
structure Setting (α : Type) where
  value : α
  /-- Whether the value was given. -/
  isGiven : Bool
  deriving DecidableEq

namespace Setting

def ofOption (default : α) : Option α → Setting α
  | none => ⟨default, false⟩
  | some value => ⟨value, true⟩

/-- A member of an object, if the value was given. -/
def members (name : String) (toJson : α → Json) (setting : Setting α) : List (String × Json) :=
  if setting.isGiven then [(name, toJson setting.value)] else []

end Setting

structure Settings where
  mode : Setting ModeChoice
  /-- The size above which files are left out, in bytes. -/
  maxFileBytes : Setting Int
  encoding : Setting String
  logLevel : Setting String
  deriving DecidableEq

abbrev Environment := List (String × String)

namespace Settings

def minFileBytes : Int := 1024

def maxFileBytesBound : Int := 64 * 1024 * 1024

def defaultFileBytes : Int := 5 * 1024 * 1024

def defaultEncoding : String := "utf-8"

def defaultLogLevel : String := "INFO"

def modeVariable : String := "SELECTOR_EXTRACTOR_MODE"

def maxFileBytesVariable : String := "SELECTOR_EXTRACTOR_MAX_FILE_BYTES"

def encodingVariable : String := "SELECTOR_EXTRACTOR_ENCODING"

def logLevelVariable : String := "SELECTOR_EXTRACTOR_LOG_LEVEL"

def default : Settings :=
  ⟨⟨.byExtension, false⟩, ⟨defaultFileBytes, false⟩, ⟨defaultEncoding, false⟩,
    ⟨defaultLogLevel, false⟩⟩

def readMode? (text : String) : Option ModeChoice :=
  let name := lowerAsciiCase (trimBlank text)
  if name ∈ ModeChoice.names then some (ModeChoice.ofName name) else none

def readFileBytes (text : String) : Except NumeralError Int :=
  (Numeral.read text).map (clamp · minFileBytes maxFileBytesBound)

/-- The settings of an environment. The log level counts as given in any case. -/
def ofEnvironment (environment : Environment) : Except NumeralError Settings := do
  let maxFileBytes ← (environment.lookup maxFileBytesVariable).mapM readFileBytes
  return {
    mode := .ofOption .byExtension ((environment.lookup modeVariable).bind readMode?)
    maxFileBytes := .ofOption defaultFileBytes maxFileBytes
    encoding := .ofOption defaultEncoding (environment.lookup encodingVariable)
    logLevel := ⟨upperCase ((environment.lookup logLevelVariable).getD defaultLogLevel), true⟩ }

def toJson (settings : Settings) : Json :=
  .object (settings.mode.members "mode" (fun choice => .string choice.name) ++
    settings.maxFileBytes.members "max_file_bytes" .number ++
    settings.encoding.members "encoding" .string ++
    settings.logLevel.members "log_level" .string)

end Settings

end UsedSelectors
