import UsedSelectors.CommandLine.Arguments
import UsedSelectors.Files.FileReport
import UsedSelectors.Files.SourceFiles

/-!
# Runs

A run reads the settings, lists the files of the given paths, extracts the selectors of each file
and prints the reports. It succeeds when no report has an error.
-/

namespace UsedSelectors.CommandLine

inductive RunFault where
  | settings (error : NumeralError)
  | search (fault : SearchFault)
  | file (fault : FileFault)
  | output (error : Encoding.EncodeError)
  deriving DecidableEq

def RunFault.message : RunFault → Text
  | settings error => Text.ofString error.message
  | search fault => fault.message
  | file fault => fault.message
  | output error => Text.ofString error.message

structure Completion where
  exitCode : Nat
  output : Text
  /-- What is written about the command line. -/
  refusal : Text
  records : List Log.Record
  deriving DecidableEq

/-- The settings of a run: switches go before the environment. -/
def Arguments.settings (arguments : Arguments) (settings : Settings) : Settings :=
  { settings with
    mode :=
      match arguments.mode with
      | some choice => ⟨choice, true⟩
      | none => settings.mode
    logLevel := if arguments.verbose then ⟨Log.Severity.debug.name, true⟩ else settings.logLevel }

def missingRecord (path : Path) : Log.Record :=
  ⟨.error, FileOutcome.runLogger, (CollectFault.missing path).message⟩

def startRecord (files : List Path) : Log.Record :=
  ⟨.debug, FileOutcome.runLogger,
    Text.ofString s!"Extracting selectors from {files.length} file(s)"⟩

/-- The exit code for reports: whether one of them has an error. -/
def exitCodeOf (reports : List Report) : Nat :=
  if reports.any (fun report => report.error.isSome) then 1 else 0

def printTo (host : Host) (reports : List Report) (format : ReportFormat) :
    Except Encoding.EncodeError Text := do
  let output ← Report.print host.encoder reports format
  host.stdout output
  return output

/-- Everything a run says and reports, before records are left out by their level. -/
def runOn (host : Host) (system : FileSystem) (settings : Settings) (arguments : Arguments) :
    Except RunFault Completion :=
  match system.sourceFiles (arguments.paths.map Path.ofText) with
  | .error (.missing path) => .ok ⟨1, [], [], [missingRecord path]⟩
  | .error (.search fault) => .error (.search fault)
  | .ok files => do
    let outcomes ←
      (files.mapM (system.extractFile host settings arguments.kind)).mapError .file
    let reports := outcomes.map FileOutcome.report
    let output ← (printTo host reports arguments.format).mapError .output
    return ⟨exitCodeOf reports, output, [],
      startRecord files :: outcomes.flatMap FileOutcome.records⟩

def Completion.keep (level : Nat) (completion : Completion) : Completion :=
  { completion with records := Log.keep level completion.records }

def run (host : Host) (system : FileSystem) (environment : Environment) (arguments : List Text) :
    Except RunFault Completion :=
  match Arguments.ofList arguments with
  | .error .help =>
    ((host.stdout (Text.ofString helpText)).mapError .output).map fun _ =>
      ⟨0, Text.ofString helpText, [], []⟩
  | .error (.refused error) => .ok ⟨2, [], error.text, []⟩
  | .ok arguments => do
    let given ← (Settings.ofEnvironment environment).mapError .settings
    let settings := arguments.settings given
    let completion ← runOn host system settings arguments
    return completion.keep (Log.levelOfName settings.logLevel.value)

end UsedSelectors.CommandLine
