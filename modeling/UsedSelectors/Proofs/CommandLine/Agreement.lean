import UsedSelectors.Proofs.CommandLine.Output
import UsedSelectors.Proofs.Files.Complaints
import UsedSelectors.Proofs.Files.SourceFiles

/-!
# What a run says of its files

The reports that a run prints, its exit code and the complaints that it logs are all about the same
files, file by file and in one order. None of them depends on the other files. This is so whatever
reads the files, decodes them, encodes the reports and takes the output.
-/

namespace UsedSelectors.CommandLine

open Attempts

variable {host : Host} {system : FileSystem} {environment : Environment} {given : List Text}
  {arguments : Arguments} {base settings : Settings} {files : List Path}
  {outcomes : List FileOutcome} {completion : Completion}

/-! ## The files of a run -/

theorem run_of_accepted (accepted : Arguments.ofList given = .ok arguments)
    (valid : Settings.ofEnvironment environment = .ok base) :
    run host system environment given =
      (runOn host system (arguments.settings base) arguments).map
        (Completion.keep (Log.levelOfName (arguments.settings base).logLevel.value)) := by
  rw [run, accepted]
  dsimp only
  rw [valid]
  rfl

theorem sourceFiles_of_run (accepted : Arguments.ofList given = .ok arguments)
    (valid : Settings.ofEnvironment environment = .ok base)
    (ended : run host system environment given = .ok completion) :
    (∃ path, system.sourceFiles (arguments.paths.map Path.ofText) = .error (.missing path)) ∨
      ∃ files, system.sourceFiles (arguments.paths.map Path.ofText) = .ok files := by
  rw [run_of_accepted accepted valid] at ended
  obtain ⟨ran, isRan, _⟩ := map_eq_ok_iff.mp ended
  unfold runOn at isRan
  split at isRan
  · rename_i path missing
    exact .inl ⟨path, missing⟩
  · cases isRan
  · rename_i files found
    exact .inr ⟨files, found⟩

theorem run_of_missing (accepted : Arguments.ofList given = .ok arguments)
    (valid : Settings.ofEnvironment environment = .ok base)
    (heard : Log.levelInForce (Log.levelOfName (arguments.settings base).logLevel.value) ≤
      Log.Severity.warning.level) {path : Path}
    (missing : system.sourceFiles (arguments.paths.map Path.ofText) = .error (.missing path)) :
    run host system environment given = .ok ⟨1, [], [], [missingRecord path]⟩ := by
  have atError : Log.Severity.warning.level ≤ Log.Severity.error.level := by decide
  have kept : Log.keep (Log.levelOfName (arguments.settings base).logLevel.value)
      [missingRecord path] = [missingRecord path] :=
    List.filter_cons_of_pos (decide_eq_true (heard.trans atError))
  rw [run_of_accepted accepted valid, runOn, missing]
  dsimp only [Except.map]
  rw [Completion.keep, kept]

theorem exists_hasReports (accepted : Arguments.ofList given = .ok arguments)
    (valid : Settings.ofEnvironment environment = .ok base)
    (found : system.sourceFiles (arguments.paths.map Path.ofText) = .ok files)
    (ended : run host system environment given = .ok completion) :
    ∃ outcomes, HasReports host system environment given arguments (arguments.settings base) files
      outcomes := by
  rw [run_of_accepted accepted valid, runOn, found] at ended
  obtain ⟨_, ran, _⟩ := map_eq_ok_iff.mp ended
  obtain ⟨outcomes, extracted, _⟩ := bind_eq_ok_iff.mp ran
  exact ⟨outcomes, accepted, ⟨base, valid, rfl⟩, found,
    mapM_eq_ok_iff.mp (mapError_eq_ok_iff.mp extracted)⟩

/-! ## Complaints -/

theorem filter_isComplaint_keep {level : Nat}
    (heard : Log.levelInForce level ≤ Log.Severity.warning.level) (records : List Log.Record) :
    (Log.keep level records).filter Log.Record.isComplaint =
      records.filter Log.Record.isComplaint := by
  rw [Log.keep, List.filter_filter]
  refine List.filter_congr fun record _ => ?_
  have kept : record.isComplaint = true →
      Log.levelInForce level ≤ record.severity.level := by
    intro complains
    rw [Log.Record.isComplaint, Bool.or_eq_true, decide_eq_true_iff, decide_eq_true_iff]
      at complains
    rcases complains with same | same
    · rw [same]
      exact heard
    · rw [same]
      exact heard.trans (by decide)
  cases complains : record.isComplaint with
  | false => rfl
  | true => exact decide_eq_true (kept complains)

theorem forall₂_complaints
    (reported : List.Forall₂ (fun file outcome =>
      system.extractFile host settings arguments.kind file = .ok outcome) files outcomes) :
    List.Forall₂ (fun (entry : Path × FileOutcome) record => ∃ error,
        entry.2.report.error = some error ∧ system.Complaint host settings entry.1 error record)
      ((files.zip outcomes).filter fun entry => entry.2.report.error.isSome)
      ((outcomes.flatMap FileOutcome.records).filter Log.Record.isComplaint) := by
  induction reported with
  | nil => exact .nil
  | @cons file outcome _ _ first _ ih =>
      rw [List.zip_cons_cons, List.flatMap_cons, List.filter_append]
      obtain ⟨fine, silent⟩ | ⟨error, record, failed, _, _, alone, complaint⟩ :=
        (FileSystem.extracts_of_extractFile first).exists_complaint
      · rw [silent, List.nil_append, List.filter_cons_of_neg (by rw [fine]; decide)]
        exact ih
      · rw [alone, List.filter_cons_of_pos (by rw [failed]; rfl)]
        exact .cons ⟨error, failed, complaint⟩ ih

/-! ## The whole run -/

/-- What a run prints, its exit code and what it logs agree on what has come of its files. -/
structure Agrees (host : Host) (system : FileSystem) (settings : Settings)
    (arguments : Arguments) (files : List Path) (outcomes : List FileOutcome)
    (completion : Completion) : Prop where
  reported : List.Forall₂ (fun file outcome =>
    system.extractFile host settings arguments.kind file = .ok outcome) files outcomes
  paths : outcomes.map (·.report.path) = files.map Path.text
  printed : printTo host (outcomes.map FileOutcome.report) arguments.format =
    .ok completion.output
  prints : ∀ spelling, host.encoder.WritesJson spelling →
    Prints spelling (outcomes.map FileOutcome.report) arguments.format completion
  exitCode : (completion.exitCode = 0 ∧
      ∀ report ∈ outcomes.map FileOutcome.report, report.error = none) ∨
    (completion.exitCode = 1 ∧ ∃ report ∈ outcomes.map FileOutcome.report, report.error ≠ none)
  noSelectors : ∀ outcome ∈ outcomes, outcome.report.error ≠ none →
    outcome.report.classNames = [] ∧ outcome.report.ids = []
  complaints : List.Forall₂ (fun (entry : Path × FileOutcome) record => ∃ error,
      entry.2.report.error = some error ∧ system.Complaint host settings entry.1 error record)
    ((files.zip outcomes).filter fun entry => entry.2.report.error.isSome)
    (completion.records.filter Log.Record.isComplaint)

theorem map_path_eq
    (reported : List.Forall₂ (fun file outcome =>
      system.extractFile host settings arguments.kind file = .ok outcome) files outcomes) :
    outcomes.map (·.report.path) = files.map Path.text := by
  induction reported with
  | nil => rfl
  | cons first _ ih =>
      have samePath := (FileSystem.extracts_of_extractFile first).path_eq
      rw [List.map_cons, List.map_cons, ih, samePath]

theorem HasReports.agrees
    (h : HasReports host system environment given arguments settings files outcomes)
    (heard : Log.levelInForce (Log.levelOfName settings.logLevel.value) ≤
      Log.Severity.warning.level)
    (ended : run host system environment given = .ok completion) :
    Agrees host system settings arguments files outcomes completion := by
  rw [h.run_eq] at ended
  obtain ⟨output, printed, rfl⟩ := map_eq_ok_iff.mp ended
  have printed := mapError_eq_ok_iff.mp printed
  have code := exitCodeOf_spec (outcomes.map FileOutcome.report)
  refine {
    reported := h.reported
    paths := map_path_eq h.reported
    printed := printed
    prints := fun spelling json =>
      ⟨Report.printed_of_print json (printTo_eq_ok_iff.mp printed).1, code⟩
    exitCode := code
    noSelectors := ?_
    complaints := ?_ }
  · intro outcome member failed
    obtain ⟨file, _, first⟩ := exists_mem_of_forall₂ h.reported member
    obtain ⟨fine, _⟩ | ⟨_, _, _, noClassNames, noIds, _⟩ :=
      (FileSystem.extracts_of_extractFile first).exists_complaint
    · exact absurd fine failed
    · exact ⟨noClassNames, noIds⟩
  · have silent : ¬ (startRecord files).isComplaint := Bool.false_ne_true
    rw [Completion.keep, filter_isComplaint_keep heard, List.filter_cons_of_neg silent]
    exact forall₂_complaints h.reported

theorem first_leadsNowhere {paths : List Path} {path : Path}
    (missing : system.sourceFiles paths = .error (.missing path)) :
    FileSystem.First system.LeadsNowhere paths path := by
  obtain ⟨⟨before, after, same, earlier, _⟩, fault, leads, _⟩ :=
    FileSystem.sourceFiles_eq_missing_iff.mp missing
  refine ⟨before, after, same, fun p member => ?_, fault, leads⟩
  cases found : system.sourceFilesAt p with
  | error fault => exact absurd ⟨fault, found⟩ (earlier p member)
  | ok files => exact FileSystem.not_leadsNowhere_of_sourceFilesAt found

theorem not_leadsNowhere_of_sourceFiles {paths : List Path}
    (found : system.sourceFiles paths = .ok files) :
    ∀ path ∈ paths, ¬ system.LeadsNowhere path := by
  intro path member
  have good := (FileSystem.exists_sourceFiles_iff system paths).mp ⟨files, found⟩ path member
  cases here : system.sourceFilesAt path with
  | error fault => exact absurd ⟨fault, here⟩ good
  | ok files => exact FileSystem.not_leadsNowhere_of_sourceFilesAt here

/--
A run that ends at a level that lets warnings through has told of the first path that leads nowhere,
or has printed a report for each of its files, with a complaint for each report with an error. What
is reported on a file depends only on what its path leads to, and where one mode is chosen for all
files, only on its bytes, up to the path.
-/
theorem run_agrees (accepted : Arguments.ofList given = .ok arguments)
    (valid : Settings.ofEnvironment environment = .ok base)
    (heard : Log.levelInForce (Log.levelOfName (arguments.settings base).logLevel.value) ≤
      Log.Severity.warning.level)
    (ended : run host system environment given = .ok completion) :
    ((∃ path ∈ arguments.paths.map Path.ofText, system.LeadsNowhere path) →
      ∃ path, FileSystem.First system.LeadsNowhere (arguments.paths.map Path.ofText) path ∧
        completion = ⟨1, [], [], [⟨.error, FileOutcome.runLogger,
          .ofString "No such file or directory: " ++ path.text⟩]⟩) ∧
    ((∀ path ∈ arguments.paths.map Path.ofText, ¬ system.LeadsNowhere path) →
      ∃ files outcomes, system.sourceFiles (arguments.paths.map Path.ofText) = .ok files ∧
        Agrees host system (arguments.settings base) arguments files outcomes completion) ∧
    (∀ (other : FileSystem) (file : Path),
      (system.find file).map Place.tree = (other.find file).map Place.tree →
        system.extractFile host (arguments.settings base) arguments.kind file =
          other.extractFile host (arguments.settings base) arguments.kind file) ∧
    ∀ name, (arguments.settings base).mode.value = .named name → ∀ p q bytes,
      system.HasBytes p bytes → system.HasBytes q bytes → ∀ first,
        system.extractFile host (arguments.settings base) arguments.kind p = .ok first →
          ∃ second, system.extractFile host (arguments.settings base) arguments.kind q =
              .ok second ∧ first.report.DiffersByPath second.report := by
  refine ⟨?_, ?_, fun _ _ same => FileSystem.extractFile_congr same,
    fun _ chosen _ _ _ hp hq _ h => FileSystem.differsByPath_of_sameBytes chosen hp hq h⟩
  · rintro ⟨path, member, nowhere⟩
    rcases sourceFiles_of_run accepted valid ended with ⟨first, missing⟩ | ⟨files, found⟩
    · rw [run_of_missing accepted valid heard missing] at ended
      exact ⟨first, first_leadsNowhere missing, (Except.ok.inj ended).symm⟩
    · exact absurd nowhere (not_leadsNowhere_of_sourceFiles found path member)
  · intro present
    rcases sourceFiles_of_run accepted valid ended with ⟨first, missing⟩ | ⟨files, found⟩
    · obtain ⟨before, after, same, _, nowhere⟩ := first_leadsNowhere missing
      exact absurd nowhere (present first (by simp [same]))
    · obtain ⟨outcomes, hasReports⟩ := exists_hasReports accepted valid found ended
      exact ⟨files, outcomes, found, hasReports.agrees heard ended⟩

def twoCompletion : Completion :=
  ⟨1, .ofString "a.html\t#a\n", [], [⟨.warning, FileOutcome.runLogger,
    .ofString "Skipping b.txt: unknown extension, pass --mode"⟩]⟩

/-- The run over the two files ends and agrees on them. -/
theorem run_agrees_twoFiles :
    Arguments.ofList twoArguments.paths = .ok twoArguments ∧
      Settings.ofEnvironment [] = .ok plainSettings ∧
      Log.levelInForce (Log.levelOfName plainSettings.logLevel.value) ≤
        Log.Severity.warning.level ∧
      run (.builtin .utf8) twoFiles [] twoArguments.paths = .ok twoCompletion ∧
      ∃ files outcomes,
        twoFiles.sourceFiles (twoArguments.paths.map Path.ofText) = .ok files ∧
          Agrees (.builtin .utf8) twoFiles plainSettings twoArguments files outcomes
            twoCompletion := by
  have accepted : Arguments.ofList twoArguments.paths = .ok twoArguments := by decide +kernel
  have valid : Settings.ofEnvironment [] = .ok plainSettings := by decide +kernel
  have heard : Log.levelInForce (Log.levelOfName plainSettings.logLevel.value) ≤
      Log.Severity.warning.level := by decide +kernel
  have ended : run (.builtin .utf8) twoFiles [] twoArguments.paths = .ok twoCompletion := by
    decide +kernel
  have present : ∀ path ∈ twoArguments.paths.map Path.ofText,
      ¬ twoFiles.LeadsNowhere path := by decide +kernel
  exact ⟨accepted, valid, heard, ended, (run_agrees accepted valid heard ended).2.1 present⟩

end UsedSelectors.CommandLine
