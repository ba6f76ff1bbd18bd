import UsedSelectors.Proofs.CommandLine.Agreement
import UsedSelectors.Proofs.Files.Kinds

/-!
# Runs that differ by the kinds of selectors

Three runs that ask for the same but for the kinds of selectors have the same files, and a report
with both kinds is what the reports with one kind make together. The runs end alike, up to the point
where the reports are printed: a selector that cannot be written keeps a run from its output only if
its kind is asked for. All this rests on one reading of a source being as good as two, whatever
reads it.
-/

namespace UsedSelectors.CommandLine

open Attempts Component Encoding

variable {host : Host} {system : FileSystem} {environment : Environment}
  {given : KindChoice → List Text} {arguments : Arguments} {settings base : Settings}
  {files : List Path} {outcomes : List (KindChoice → FileOutcome)} {completion : Completion}
  {spelling : Json.Spelling}

def reportsFor (outcomes : List (KindChoice → FileOutcome)) (choice : KindChoice) : List Report :=
  outcomes.map fun outcome => (outcome choice).report

/-- What runs for each choice of kinds come to when each of their files has a report. -/
structure PrintsByKind (host : Host) (system : FileSystem) (environment : Environment)
    (given : KindChoice → List Text) (arguments : Arguments) (settings : Settings)
    (files : List Path) (outcomes : List (KindChoice → FileOutcome)) : Prop where
  hasReports : ∀ choice, HasReports host system environment (given choice)
    { arguments with kind := choice } settings files (outcomes.map fun outcome => outcome choice)
  splits : ∀ outcome ∈ outcomes, Report.SplitsByKind fun choice => (outcome choice).report
  lines : ∀ outcome ∈ outcomes, (outcome .all).report.lines =
    (outcome (.only .className)).report.lines ++ (outcome (.only .ident)).report.lines
  printed : ∀ choice completion, run host system environment (given choice) = .ok completion →
    printTo host (reportsFor outcomes choice) arguments.format = .ok completion.output ∧
      ∀ spelling, host.encoder.WritesJson spelling →
        Prints spelling (reportsFor outcomes choice) arguments.format completion
  sameExitCode : ∀ choice other first second,
    run host system environment (given choice) = .ok first →
    run host system environment (given other) = .ok second → first.exitCode = second.exitCode
  all_ends_iff : ∀ spelling, host.encoder.WritesJson spelling → host.stdout.IsUtf8 →
    ((∃ completion, run host system environment (given .all) = .ok completion) ↔
      ∀ kind, ∃ completion, run host system environment (given (.only kind)) = .ok completion)
  ends_iff : ∀ (parsers : Parsers) spelling, host.readers = parsers.readers →
    host.encoder.WritesJson spelling → host.stdout.IsUtf8 → ∀ choice,
      ((∃ completion, run host system environment (given choice) = .ok completion) ↔
        ∀ entry ∈ files.zip outcomes, ¬ system.Unprintable host parsers settings choice
          arguments.format entry.1 (entry.2 choice))
  unwritten : ∀ choice fault, run host system environment (given choice) = .error fault →
    ∃ e, fault = .output e

/-! ## Runs that come to their reports -/

section OneRun

variable {given : List Text} {outcomes : List FileOutcome}

theorem HasReports.exists_run_iff
    (h : HasReports host system environment given arguments settings files outcomes) :
    (∃ completion, run host system environment given = .ok completion) ↔
      ∃ output, printTo host (outcomes.map FileOutcome.report) arguments.format = .ok output := by
  rw [h.run_eq]
  constructor
  · rintro ⟨completion, ended⟩
    obtain ⟨output, printed, _⟩ := map_eq_ok_iff.mp ended
    exact ⟨output, mapError_eq_ok_iff.mp printed⟩
  · rintro ⟨output, printed⟩
    exact ⟨_, map_eq_ok_iff.mpr ⟨output, mapError_eq_ok_iff.mpr printed, rfl⟩⟩

theorem HasReports.exists_run_iff_isPrintable
    (h : HasReports host system environment given arguments settings files outcomes)
    (json : host.encoder.WritesJson spelling) (utf8 : host.stdout.IsUtf8) :
    (∃ completion, run host system environment given = .ok completion) ↔
      ∀ outcome ∈ outcomes, outcome.report.IsPrintable arguments.format := by
  rw [h.exists_run_iff, CommandLine.exists_printTo_iff json utf8, List.forall_mem_map]

theorem HasReports.of_run
    (h : HasReports host system environment given arguments settings files outcomes)
    (ended : run host system environment given = .ok completion) :
    printTo host (outcomes.map FileOutcome.report) arguments.format = .ok completion.output ∧
      completion.exitCode = exitCodeOf (outcomes.map FileOutcome.report) := by
  rw [h.run_eq] at ended
  obtain ⟨output, printed, rfl⟩ := map_eq_ok_iff.mp ended
  exact ⟨mapError_eq_ok_iff.mp printed, rfl⟩

theorem HasReports.of_run_eq_error {fault : RunFault}
    (h : HasReports host system environment given arguments settings files outcomes)
    (failed : run host system environment given = .error fault) : ∃ e, fault = .output e := by
  rw [h.run_eq] at failed
  obtain ⟨e, _, same⟩ := mapError_eq_error_iff.mp (map_eq_error_iff.mp failed)
  exact ⟨e, same.symm⟩

end OneRun

/-! ## Reports side by side -/

theorem map_report_eq (outcomes : List (KindChoice → FileOutcome)) (choice : KindChoice) :
    (outcomes.map fun outcome => outcome choice).map FileOutcome.report =
      reportsFor outcomes choice :=
  List.map_map

theorem exitCodeOf_reportsFor
    (splits : ∀ outcome ∈ outcomes, Report.SplitsByKind fun choice => (outcome choice).report)
    (choice : KindChoice) :
    exitCodeOf (reportsFor outcomes choice) = exitCodeOf (reportsFor outcomes .all) := by
  have failed (choice : KindChoice) :
      (reportsFor outcomes choice).any (fun report => report.error.isSome) =
        (outcomes.map fun outcome => (outcome choice).report.error.isSome).any id := by
    rw [reportsFor, List.any_map, List.any_map]
    rfl
  have sameErrors : (outcomes.map fun outcome => (outcome choice).report.error.isSome) =
      outcomes.map fun outcome => (outcome .all).report.error.isSome := by
    refine List.map_congr_left fun outcome member => ?_
    exact congrArg Option.isSome ((splits outcome member).error choice)
  rw [exitCodeOf, exitCodeOf, failed, failed, sameErrors]

theorem isWritable_all_iff {report : KindChoice → Report} (splits : Report.SplitsByKind report) :
    (report .all).IsWritable ↔
      (report (.only .className)).IsWritable ∧ (report (.only .ident)).IsWritable := by
  constructor
  · rintro ⟨path, selectors, error⟩
    obtain ⟨classes, idents⟩ := List.forall_mem_append.mp selectors
    refine ⟨⟨splits.path _ ▸ path, ?_, splits.error _ ▸ error⟩,
      ⟨splits.path _ ▸ path, ?_, splits.error _ ▸ error⟩⟩
    · rw [splits.classNames, splits.noIds, List.append_nil]
      exact classes
    · rw [splits.ids, splits.noClassNames, List.nil_append]
      exact idents
  · rintro ⟨⟨path, classes, error⟩, ⟨_, idents, _⟩⟩
    rw [splits.classNames, splits.noIds, List.append_nil] at classes
    rw [splits.ids, splits.noClassNames, List.nil_append] at idents
    exact ⟨splits.path _ ▸ path, List.forall_mem_append.mpr ⟨classes, idents⟩,
      splits.error _ ▸ error⟩

theorem isPrintable_all_iff {report : KindChoice → Report} (splits : Report.SplitsByKind report)
    (format : ReportFormat) :
    (report .all).IsPrintable format ↔ ∀ kind, (report (.only kind)).IsPrintable format := by
  rw [SelectorKind.forall_iff]
  cases format with
  | text =>
      rw [Report.IsPrintable, splits.lines_all, List.forall_mem_append]
      rfl
  | json => exact isWritable_all_iff splits
  | jsonLines => exact isWritable_all_iff splits

theorem printsByKind_of_hasReports
    (hasReports : ∀ choice, HasReports host system environment (given choice)
      { arguments with kind := choice } settings files (outcomes.map fun outcome => outcome choice))
    (splits : ∀ outcome ∈ outcomes, Report.SplitsByKind fun choice => (outcome choice).report) :
    PrintsByKind host system environment given arguments settings files outcomes := by
  have ended {choice : KindChoice} {completion : Completion}
      (h : run host system environment (given choice) = .ok completion) :
      printTo host (reportsFor outcomes choice) arguments.format = .ok completion.output ∧
        completion.exitCode = exitCodeOf (reportsFor outcomes choice) := by
    rw [← map_report_eq]
    exact (hasReports choice).of_run h
  refine {
    hasReports := hasReports
    splits := splits
    lines := fun outcome member => (splits outcome member).lines_all
    printed := ?_
    sameExitCode := ?_
    all_ends_iff := ?_
    ends_iff := ?_
    unwritten := fun choice _ failed => (hasReports choice).of_run_eq_error failed }
  · intro choice completion h
    obtain ⟨printed, code⟩ := ended h
    exact ⟨printed, fun spelling json =>
      ⟨Report.printed_of_print json (printTo_eq_ok_iff.mp printed).1, code ▸ exitCodeOf_spec _⟩⟩
  · intro choice other first second h h'
    rw [(ended h).2, (ended h').2, exitCodeOf_reportsFor splits choice,
      exitCodeOf_reportsFor splits other]
  · intro spelling json utf8
    have printable (choice : KindChoice) :
        (∃ completion, run host system environment (given choice) = .ok completion) ↔
          ∀ outcome ∈ outcomes, (outcome choice).report.IsPrintable arguments.format := by
      rw [(hasReports choice).exists_run_iff_isPrintable json utf8, List.forall_mem_map]
    simp only [printable]
    constructor
    · intro all kind outcome member
      exact (isPrintable_all_iff (splits outcome member) _).mp (all outcome member) kind
    · intro each outcome member
      exact (isPrintable_all_iff (splits outcome member) _).mpr fun kind => each kind outcome member
  · intro parsers spelling reads json utf8 choice
    rw [(hasReports choice).exists_run_iff, (hasReports choice).exists_printTo_iff reads json utf8,
      List.zip_map_right, List.forall_mem_map]
    rfl

/-- Runs that differ by the kinds they ask for end alike before any report, or have reports on the
same files. -/
theorem runs_byKind
    (accepted : ∀ choice, Arguments.ofList (given choice) = .ok { arguments with kind := choice }) :
    (∃ fault, (∀ e, fault ≠ .output e) ∧
      ∀ choice, run host system environment (given choice) = .error fault) ∨
    (∃ path completion,
      system.sourceFiles (arguments.paths.map Path.ofText) = .error (.missing path) ∧
      completion.exitCode = 1 ∧ completion.output = [] ∧
      ∀ choice, run host system environment (given choice) = .ok completion) ∨
    ∃ settings files outcomes,
      PrintsByKind host system environment given arguments settings files outcomes := by
  cases valid : Settings.ofEnvironment environment with
  | error e =>
      refine .inl ⟨.settings e, by simp, fun choice => ?_⟩
      rw [run, accepted choice]
      dsimp only
      rw [valid]
      rfl
  | ok base =>
      have runs (choice : KindChoice) : run host system environment (given choice) =
          (runOn host system (arguments.settings base) { arguments with kind := choice }).map
            (Completion.keep (Log.levelOfName (arguments.settings base).logLevel.value)) :=
        run_of_accepted (accepted choice) valid
      simp only [runs, runOn]
      cases found : system.sourceFiles (arguments.paths.map Path.ofText) with
      | error fault =>
          cases fault with
          | missing path => exact .inr (.inl ⟨path, _, rfl, rfl, rfl, fun _ => rfl⟩)
          | search fault => exact .inl ⟨.search fault, by simp, fun _ => rfl⟩
      | ok files =>
          rcases mapM_family fun file (_ : file ∈ files) =>
              FileSystem.sameByKind_extractFile system host (arguments.settings base) file with
            ⟨outcomes, splits, extracted⟩ | ⟨fault, failed⟩
          · refine .inr (.inr ⟨arguments.settings base, files, outcomes, ?_⟩)
            refine printsByKind_of_hasReports (fun choice => ?_) splits
            exact ⟨accepted choice, ⟨base, valid, rfl⟩, found, mapM_eq_ok_iff.mp (extracted choice)⟩
          · refine .inl ⟨.file fault, by simp, fun choice => ?_⟩
            dsimp only
            rw [failed choice]
            rfl

/--
Selectors of both kinds from one reading are those from a reading for each kind, whatever the way to
read, and fail alike. Runs that differ by the kinds they ask for end before any report with the same
fault or at the same missing path, or have reports on the same files. These have the same modes and
errors, each kind of selectors as in the run for that kind, and lines that are those of classes and
after them those of ids; the runs that end have one exit code. A run does not end just if the report
on a file cannot be printed, for its path or for a selector of a kind the run asks for.
-/
theorem run_byKind
    (accepted : ∀ choice, Arguments.ofList (given choice) = .ok { arguments with kind := choice }) :
    (∀ (source : TreeSource) (contents : Text),
      (∀ failure kind, source.extract contents = .error failure ↔
        source.extractKind kind contents = .error failure) ∧
      ∀ found, source.extract contents = .ok found ↔
        source.extractKind .className contents = .ok found.classNames ∧
          source.extractKind .ident contents = .ok found.ids) ∧
    ((∃ fault, (∀ e, fault ≠ .output e) ∧
        ∀ choice, run host system environment (given choice) = .error fault) ∨
      (∃ path completion,
        system.sourceFiles (arguments.paths.map Path.ofText) = .error (.missing path) ∧
        completion.exitCode = 1 ∧ completion.output = [] ∧
        ∀ choice, run host system environment (given choice) = .ok completion) ∨
      ∃ settings files outcomes,
        PrintsByKind host system environment given arguments settings files outcomes) := by
  refine ⟨fun source contents => ⟨fun failure kind => ?_, fun found => ?_⟩, runs_byKind accepted⟩
  · rw [TreeSource.extract_eq_error_iff, TreeSource.extractKind_eq_error_iff]
  · exact TreeSource.extract_eq_ok_iff

/-! ## Two files -/

def askingFor (others : List Text) (choice : KindChoice) : List Text :=
  .ofString "--kind" :: .ofString (match choice with | .all => "all" | .only kind => kind.name) ::
    others

/-- The runs over the two files have reports that differ by the kinds. -/
theorem run_byKind_twoFiles :
    (∀ choice, Arguments.ofList (askingFor twoArguments.paths choice) =
      .ok { twoArguments with kind := choice }) ∧
    ∃ settings files outcomes, PrintsByKind (.builtin .utf8) twoFiles []
      (askingFor twoArguments.paths) twoArguments settings files outcomes := by
  have accepted : ∀ choice, Arguments.ofList (askingFor twoArguments.paths choice) =
      .ok { twoArguments with kind := choice } := by
    rintro (_ | _ | _) <;> decide +kernel
  have ended :
      (run (.builtin .utf8) twoFiles [] (askingFor twoArguments.paths .all)).isOk = true := by
    decide +kernel
  have found : (twoFiles.sourceFiles (twoArguments.paths.map Path.ofText)).isOk = true := by
    decide +kernel
  refine ⟨accepted, ?_⟩
  rcases (run_byKind accepted).2 with ⟨fault, _, failed⟩ | ⟨path, _, missing, _⟩ | reported
  · rw [failed] at ended
    cases ended
  · rw [missing] at found
    cases found
  · exact reported

/-! ## A module with a class and half a pair -/

/-- A module with a class, and an id that is the first half of a surrogate pair. -/
def mixedText : String :=
  "export function F() \x7b return <a className=\"c\" id=\x7b\"\\ud83d\"\x7d/>; \x7d"

def mixedTree : SyntaxTree :=
  plainNode "program" 0 64 none
    [plainNode "export_statement" 0 64 none
      [plainNode "function_declaration" 7 64 (some "declaration")
        [plainNode "statement_block" 20 64 (some "body")
          [plainNode "return_statement" 22 62 none
            [plainNode "jsx_self_closing_element" 29 61 none
              [plainNode "identifier" 30 31 (some "name") [],
                plainNode "jsx_attribute" 32 45 none
                  [plainNode "property_identifier" 32 41 none [],
                    plainNode "string" 42 45 none []],
                plainNode "jsx_attribute" 46 59 none
                  [plainNode "property_identifier" 46 48 none [],
                    plainNode "jsx_expression" 49 59 none
                      [plainNode "string" 50 58 none []]]]]]]]]

/-- The run for classes ends with an exit code of zero, that for both kinds does not end. -/
theorem run_mixedModule :
    (∀ choice, Arguments.ofList (askingFor moduleGiven choice) =
      .ok { moduleArguments with kind := choice }) ∧
    (run (hostOf mixedTree) (moduleSystem mixedText) []
        (askingFor moduleGiven (.only .className))).map Completion.exitCode = .ok 0 ∧
    run (hostOf mixedTree) (moduleSystem mixedText) [] (askingFor moduleGiven .all) =
      .error (.output (.surrogates 1 0 ⟨0xD83D, by decide⟩)) := by
  refine ⟨?_, by decide +kernel, by decide +kernel⟩
  rintro (_ | _ | _) <;> decide +kernel

end UsedSelectors.CommandLine
