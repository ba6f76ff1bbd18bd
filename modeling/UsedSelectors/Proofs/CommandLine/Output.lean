import UsedSelectors.CommandLine.Run
import UsedSelectors.Proofs.Files.LoneSurrogates

/-!
# The output of a run

A run whose files all have reports prints these reports, in the order of the files, and ends with
an exit code that tells whether one of them has an error. What can keep it from this is a surrogate
in what is to be printed: in the path of a file, or left alone in a module. Nothing is printed then.
-/

namespace UsedSelectors.CommandLine

open Attempts Component Encoding

variable {host : Host} {parsers : Parsers} {spelling : Json.Spelling} {system : FileSystem}
  {environment : Environment} {given : List Text}

/-- A run comes to the point where its reports are printed: the command line is accepted, the
environment is valid, the paths lead to files, and each of these has something come of it. -/
structure HasReports (host : Host) (system : FileSystem) (environment : Environment)
    (given : List Text) (arguments : Arguments) (settings : Settings) (files : List Path)
    (outcomes : List FileOutcome) : Prop where
  accepted : Arguments.ofList given = .ok arguments
  valid : ∃ base, Settings.ofEnvironment environment = .ok base ∧
    settings = arguments.settings base
  found : system.sourceFiles (arguments.paths.map Path.ofText) = .ok files
  reported : List.Forall₂ (fun file outcome =>
    system.extractFile host settings arguments.kind file = .ok outcome) files outcomes

variable {arguments : Arguments} {settings : Settings} {files : List Path}
  {outcomes : List FileOutcome} {reports : List Report} {format : ReportFormat} {output : Text}

/-! ## Printing -/

theorem printTo_eq_ok_iff : printTo host reports format = .ok output ↔
    Report.print host.encoder reports format = .ok output ∧ host.stdout output = .ok () := by
  rw [printTo, bind_eq_ok_iff]
  constructor
  · rintro ⟨printed, isPrinted, written⟩
    obtain ⟨_, taken, same⟩ := bind_eq_ok_iff.mp written
    cases same
    exact ⟨isPrinted, taken⟩
  · rintro ⟨isPrinted, taken⟩
    exact ⟨output, isPrinted, bind_eq_ok_iff.mpr ⟨_, taken, rfl⟩⟩

theorem exists_printTo_iff (json : host.encoder.WritesJson spelling)
    (utf8 : host.stdout.IsUtf8) :
    (∃ output, printTo host reports format = .ok output) ↔
      ∀ report ∈ reports, report.IsPrintable format := by
  have taken (t : Text) : host.stdout t = .ok () ↔ t.IsScalar := by
    rw [← not_iff_not, ← utf8 t]
    cases host.stdout t <;> simp
  rw [← Report.exists_print_isScalar_iff json]
  simp only [printTo_eq_ok_iff, taken]

/-! ## Runs with reports -/

theorem HasReports.run_eq
    (h : HasReports host system environment given arguments settings files outcomes) :
    run host system environment given =
      ((printTo host (outcomes.map FileOutcome.report) arguments.format).mapError .output).map
        fun output => Completion.keep (Log.levelOfName settings.logLevel.value)
          ⟨exitCodeOf (outcomes.map FileOutcome.report), output, [],
            startRecord files :: outcomes.flatMap FileOutcome.records⟩ := by
  obtain ⟨base, valid, rfl⟩ := h.valid
  have extracted := mapM_eq_ok_iff.mpr h.reported
  rw [run, h.accepted]
  dsimp only
  rw [valid]
  dsimp only [Except.mapError, bind, Except.bind]
  rw [runOn, h.found]
  dsimp only
  rw [extracted]
  dsimp only [Except.mapError, bind, Except.bind]
  cases printTo host (outcomes.map FileOutcome.report) arguments.format <;> rfl

/-- The reports can be printed unless one of them is kept from it. -/
theorem HasReports.exists_printTo_iff
    (h : HasReports host system environment given arguments settings files outcomes)
    (reads : host.readers = parsers.readers) (json : host.encoder.WritesJson spelling)
    (utf8 : host.stdout.IsUtf8) :
    (∃ output, printTo host (outcomes.map FileOutcome.report) arguments.format = .ok output) ↔
      ∀ entry ∈ files.zip outcomes, ¬ system.Unprintable host parsers settings arguments.kind
        arguments.format entry.1 entry.2 := by
  rw [CommandLine.exists_printTo_iff json utf8, List.forall_mem_map]
  have reported := h.reported
  clear h
  induction reported with
  | nil => simp
  | cons first _ ih =>
      rw [List.zip_cons_cons, List.forall_mem_cons, List.forall_mem_cons]
      have extracts := FileSystem.extracts_of_extractFile first
      exact and_congr (extracts.isPrintable_iff reads) ih

/-- The exit code is zero or one, and one exactly when a report has an error. -/
theorem exitCodeOf_spec (reports : List Report) :
    (exitCodeOf reports = 0 ∧ ∀ report ∈ reports, report.error = none) ∨
      (exitCodeOf reports = 1 ∧ ∃ report ∈ reports, report.error ≠ none) := by
  rw [exitCodeOf]
  by_cases failed : ∃ report ∈ reports, report.error ≠ none
  · right
    obtain ⟨report, hreport, error⟩ := failed
    refine ⟨?_, report, hreport, error⟩
    rw [if_pos]
    exact List.any_eq_true.mpr ⟨report, hreport, Option.isSome_iff_ne_none.mpr error⟩
  · left
    have none : ∀ report ∈ reports, report.error = none := by
      intro report hreport
      by_contra error
      exact failed ⟨report, hreport, error⟩
    refine ⟨?_, none⟩
    rw [if_neg]
    intro some
    obtain ⟨report, hreport, error⟩ := List.any_eq_true.mp some
    rw [none report hreport] at error
    cases error

/-- A run has printed reports in a format, and its exit code tells whether one of them has an
error. -/
structure Prints (spelling : Json.Spelling) (reports : List Report) (format : ReportFormat)
    (completion : Completion) : Prop where
  output : Report.Printed spelling reports format completion.output
  exitCode : (completion.exitCode = 0 ∧ ∀ report ∈ reports, report.error = none) ∨
    (completion.exitCode = 1 ∧ ∃ report ∈ reports, report.error ≠ none)

/--
A run whose files all have reports prints these in the format that is asked for, in the order of
the files. This is so unless there is a surrogate in the path of a file, where the path is printed,
or one is left alone in a file; then the output cannot be written.
-/
theorem run_spec
    (h : HasReports host system environment given arguments settings files outcomes)
    (reads : host.readers = parsers.readers) (json : host.encoder.WritesJson spelling)
    (utf8 : host.stdout.IsUtf8) :
    ((∀ entry ∈ files.zip outcomes, ¬ system.Unprintable host parsers settings arguments.kind
        arguments.format entry.1 entry.2) →
      ∃ completion, run host system environment given = .ok completion ∧
        Prints spelling (outcomes.map FileOutcome.report) arguments.format completion) ∧
    ((∃ entry ∈ files.zip outcomes, system.Unprintable host parsers settings arguments.kind
        arguments.format entry.1 entry.2) →
      ∃ e, run host system environment given = .error (.output e)) := by
  have printable := h.exists_printTo_iff reads json utf8
  rw [h.run_eq]
  constructor
  · intro all
    obtain ⟨output, printed⟩ := printable.mpr all
    rw [printed]
    exact ⟨_, rfl, Report.printed_of_print json (printTo_eq_ok_iff.mp printed).1,
      exitCodeOf_spec _⟩
  · rintro ⟨entry, member, unprintable⟩
    cases printed : printTo host (outcomes.map FileOutcome.report) arguments.format with
    | ok output => exact (printable.mp ⟨output, printed⟩ entry member unprintable).elim
    | error e => exact ⟨e, rfl⟩

/-! ## Two files -/

def twoFiles : FileSystem :=
  ⟨.directory 4096
    [(.ofString "a.html", .file "<p id=a>".toUTF8.toList), (.ofString "b.txt", .file [])],
    [], .builtin⟩

/-- What is asked for when the two files are given and nothing else. -/
def twoArguments : Arguments :=
  ⟨["a.html", "b.txt"].map .ofString, none, .all, .text, false⟩

def plainSettings : Settings := { Settings.default with logLevel := ⟨"INFO", true⟩ }

def twoOutcomes : List FileOutcome :=
  [⟨⟨.ofString "a.html", some "markup", [], [Text.ofString "#a"], none⟩, []⟩,
    .unknownExtension (.ofString "b.txt")]

theorem hasReports_twoFiles :
    HasReports (.builtin .utf8) twoFiles [] twoArguments.paths twoArguments plainSettings
      (twoArguments.paths.map Path.ofText) twoOutcomes := by
  constructor
  · decide +kernel
  · exact ⟨plainSettings, by decide +kernel, rfl⟩
  · decide +kernel
  · exact .cons (by decide +kernel) (.cons (by decide +kernel) .nil)

/-- The run over the two files prints their reports, if nothing keeps them from it. -/
theorem run_spec_twoFiles :
    HasReports (.builtin .utf8) twoFiles [] twoArguments.paths twoArguments plainSettings
        (twoArguments.paths.map Path.ofText) twoOutcomes ∧
      JsonEncoder.plain.WritesJson .plain ∧ Stream.utf8.IsUtf8 ∧
      ((∀ entry ∈ (twoArguments.paths.map Path.ofText).zip twoOutcomes,
          ¬ twoFiles.Unprintable (.builtin .utf8) .builtin plainSettings .all .text entry.1
            entry.2) →
        ∃ completion, run (.builtin .utf8) twoFiles [] twoArguments.paths = .ok completion ∧
          Prints .plain (twoOutcomes.map FileOutcome.report) .text completion) ∧
      ((∃ entry ∈ (twoArguments.paths.map Path.ofText).zip twoOutcomes,
          twoFiles.Unprintable (.builtin .utf8) .builtin plainSettings .all .text entry.1
            entry.2) →
        ∃ e, run (.builtin .utf8) twoFiles [] twoArguments.paths = .error (.output e)) :=
  ⟨hasReports_twoFiles, Report.writesJson_plain, Stream.isUtf8_utf8,
    run_spec hasReports_twoFiles rfl Report.writesJson_plain Stream.isUtf8_utf8⟩

/-! ## A module with half a pair -/

def halfText : String := "export function F() \x7b return <a id=\x7b\"\\ud83d\"\x7d/>; \x7d"

def halfTree : SyntaxTree :=
  plainNode "program" 0 50 none
    [plainNode "export_statement" 0 50 none
      [plainNode "function_declaration" 7 50 (some "declaration")
        [plainNode "statement_block" 20 50 (some "body")
          [plainNode "return_statement" 22 48 none
            [plainNode "jsx_self_closing_element" 29 47 none
              [plainNode "identifier" 30 31 (some "name") [],
                plainNode "jsx_attribute" 32 45 none
                  [plainNode "property_identifier" 32 34 none [],
                    plainNode "jsx_expression" 35 45 none
                      [plainNode "string" 36 44 none []]]]]]]]]

/-- A host with a parser that finds one tree in every script. -/
def hostOf (tree : SyntaxTree) : Host :=
  { Host.builtin .utf8 with readers := { Parsers.builtin with script := fun _ => tree }.readers }

def moduleSystem (text : String) : FileSystem :=
  ⟨.directory 4096 [(.ofString "a.jsx", .file text.toUTF8.toList)], [], .builtin⟩

def moduleGiven : List Text := ["--format", "json", "a.jsx"].map .ofString

def moduleArguments : Arguments := ⟨[.ofString "a.jsx"], none, .all, .json, false⟩

def halfOutcome : FileOutcome :=
  ⟨⟨.ofString "a.jsx", some "component", [], [[Selector.hash, ⟨0xD83D, by decide⟩]], none⟩,
    [⟨.debug, FileOutcome.componentLogger, .ofString "Found 1 exported JSX root(s)"⟩]⟩

/-- The module has a report without an error, and yet the run ends without an output. -/
theorem run_halfModule :
    HasReports (hostOf halfTree) (moduleSystem halfText) [] moduleGiven moduleArguments
        plainSettings [.ofString "a.jsx"] [halfOutcome] ∧
      run (hostOf halfTree) (moduleSystem halfText) [] moduleGiven =
        .error (.output (.surrogates 1 0 ⟨0xD83D, by decide⟩)) := by
  refine ⟨⟨by decide +kernel, ⟨plainSettings, by decide +kernel, rfl⟩, by decide +kernel, ?_⟩,
    by decide +kernel⟩
  exact .cons (by decide +kernel) .nil

end UsedSelectors.CommandLine
