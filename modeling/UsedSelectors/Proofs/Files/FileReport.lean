import UsedSelectors.Files.FileReport
import UsedSelectors.Proofs.Component.Position
import UsedSelectors.Proofs.Extraction
import UsedSelectors.Proofs.Files.SourceText

/-!
# Which files have a report

A file that is missing, too large, in another encoding or not in the grammar of its mode is
reported with an error and without selectors, and the run goes on. What ends the run instead is
said exactly by `EndsRun`: an error of reading that is not caught, a surrogate in a module, or an
attribute of a module that follows the grammar and yet cannot be read.
-/

namespace UsedSelectors

open Encoding Component Attempts

def Settings.HasKnownMode (settings : Settings) : Prop :=
  ∃ name ∈ ModeChoice.names, settings.mode.value = .ofName name

theorem Settings.HasKnownMode.exists_mode {settings : Settings} (known : settings.HasKnownMode)
    {path : Path} {name : String} (h : settings.modeOf? path = some name) :
    ∃ mode : Mode, name = mode.name := by
  obtain ⟨chosen, hchosen, hmode⟩ := known
  rw [Settings.modeOf?, hmode] at h
  simp only [ModeChoice.names, List.mem_cons, List.not_mem_nil, or_false] at hchosen
  obtain rfl | rfl | rfl := hchosen
  · obtain ⟨mode, _, rfl⟩ := Option.map_eq_some_iff.mp h
    exact ⟨mode, rfl⟩
  · cases h
    exact ⟨.markup, rfl⟩
  · cases h
    exact ⟨.component, rfl⟩

namespace FileSystem

variable {system : FileSystem} {host : Host} {parsers : Parsers} {settings : Settings}
  {choice : KindChoice} {path : Path}

def textOf (system : FileSystem) (host : Host) (settings : Settings) (path : Path) :
    Except ReadError Text :=
  system.sourceText host.registry path settings.maxFileBytes.value settings.encoding.value

/-- The run ends at a file. -/
inductive EndsRun (system : FileSystem) (host : Host) (parsers : Parsers) (settings : Settings)
    (path : Path) : Prop where
  | reading {name : String} (inMode : settings.modeOf? path = some name)
      (ends : EndsReading system host.registry path settings.maxFileBytes.value
        settings.encoding.value) : EndsRun system host parsers settings path
  | surrogate {contents : Text} (inMode : settings.modeOf? path = some Mode.component.name)
      (read : system.textOf host settings path = .ok contents)
      (surrogate : ¬ contents.IsScalar) : EndsRun system host parsers settings path
  | component {script : String} {A : SyntaxTree}
      (inMode : settings.modeOf? path = some Mode.component.name)
      (read : system.textOf host settings path = .ok (.ofString script))
      (noError : (parsers.script script).label.hasError = false)
      (reached : A ∈ reachedAttributes (parsers.script script))
      (unreadable : IsUnreadable script.toUTF8 A) : EndsRun system host parsers settings path

/-- What is signalled about a file: its extension is not known, its size or its bytes keep it from
being read, or its contents break the grammar of its mode. -/
inductive Signals (system : FileSystem) (host : Host) (settings : Settings) (path : Path) :
    Text → Prop where
  | extension (noMode : settings.modeOf? path = none) :
      Signals system host settings path (.ofString "unknown file extension")
  | unread {name : String} {e : ReadError} (inMode : settings.modeOf? path = some name)
      (read : system.textOf host settings path = .error e) :
      Signals system host settings path e.message
  | grammar {mode : Mode} {contents : Text} {e : ParseError}
      (inMode : settings.modeOf? path = some mode.name)
      (read : system.textOf host settings path = .ok contents)
      (fails : host.readers mode contents = .error (.parse e)) :
      Signals system host settings path (.ofString e.message)

/-! ## What comes of a file -/

theorem extractFile_of_noMode (noMode : settings.modeOf? path = none) :
    system.extractFile host settings choice path = .ok (.unknownExtension path) := by
  rw [extractFile, noMode]

theorem extractFile_of_unread {name : String} {e : ReadError}
    (inMode : settings.modeOf? path = some name)
    (read : system.textOf host settings path = .error e) :
    system.extractFile host settings choice path =
      if e.isSkipped then .ok (.unread path name e) else .error (.read e) := by
  unfold textOf at read
  rw [extractFile, inMode]
  dsimp only
  rw [read]

theorem extractFile_of_read {mode : Mode} {contents : Text}
    (inMode : settings.modeOf? path = some mode.name)
    (read : system.textOf host settings path = .ok contents) :
    system.extractFile host settings choice path =
      FileOutcome.ofContents path (host.readers.source mode) choice contents := by
  unfold textOf at read
  rw [extractFile, inMode]
  dsimp only
  rw [read, Mode.ofName_name]

/-- A file that is read has a report only in a mode that there is. -/
theorem exists_mode_of_extractFile {name : String} {contents : Text} {outcome : FileOutcome}
    (inMode : settings.modeOf? path = some name)
    (read : system.textOf host settings path = .ok contents)
    (h : system.extractFile host settings choice path = .ok outcome) :
    ∃ mode : Mode, name = mode.name := by
  unfold textOf at read
  rw [extractFile, inMode] at h
  dsimp only at h
  rw [read] at h
  dsimp only at h
  cases known : Mode.ofName name with
  | error e =>
      rw [known] at h
      cases h
  | ok mode => exact ⟨mode, Mode.eq_name_of_ofName known⟩

/-- A file with its contents has a report unless its trees fail without a syntax error. -/
theorem exists_ofContents_iff {source : TreeSource} {contents : Text} :
    (∃ outcome, FileOutcome.ofContents path source choice contents = .ok outcome) ↔
      ¬ ∃ failure, source.roots contents = .error failure ∧ ∀ e, failure ≠ .parse e := by
  have fails (failure : Component.Failure) : source.roots contents = .error failure ↔
      source.extractChoice choice contents = .error failure :=
    TreeSource.extractChoice_eq_error_iff.symm
  simp only [fails]
  unfold FileOutcome.ofContents
  generalize source.extractChoice choice contents = extracted
  constructor
  · rintro ⟨outcome, h⟩ ⟨failure, rfl, other⟩
    split at h
    · rename_i impossible
      cases impossible
    · rename_i e same
      cases same
      exact other e rfl
    · cases h
  · intro fails
    split
    · exact ⟨_, rfl⟩
    · exact ⟨_, rfl⟩
    · rename_i failure other
      exact (fails ⟨failure, rfl, fun e same => other e same⟩).elim

theorem exists_failure_iff_component (texts : parsers.TextsDecode) {mode : Mode}
    {contents : Text} :
    (∃ failure, parsers.readers mode contents = .error failure ∧ ∀ e, failure ≠ .parse e) ↔
      mode = .component ∧ (¬ contents.IsScalar ∨ ∃ script, Text.ofString script = contents ∧
        (parsers.script script).label.hasError = false ∧
          ∃ A ∈ reachedAttributes (parsers.script script), IsUnreadable script.toUTF8 A) := by
  cases mode with
  | markup =>
      constructor
      · rintro ⟨failure, fails, _⟩
        cases fails
      · rintro ⟨impossible, _⟩
        cases impossible
  | component =>
      rw [← Parsers.exists_failure_iff texts]
      exact ⟨fun fails => ⟨rfl, fails⟩, fun fails => fails.2⟩

/-! ## Ends of runs -/

theorem endsRun_iff_of_unread {name : String} {e : ReadError}
    (inMode : settings.modeOf? path = some name)
    (read : system.textOf host settings path = .error e) :
    EndsRun system host parsers settings path ↔ e.isSkipped = false := by
  constructor
  · intro ends
    cases ends with
    | reading _ ends =>
        obtain ⟨e', read', notSkipped⟩ := sourceText_ends_iff.mpr ends
        cases read.symm.trans read'
        exact notSkipped
    | surrogate _ read' => cases read.symm.trans read'
    | component _ read' => cases read.symm.trans read'
  · intro notSkipped
    exact .reading inMode (sourceText_ends_iff.mp ⟨e, read, notSkipped⟩)

theorem endsRun_iff_of_read (texts : parsers.TextsDecode) {mode : Mode} {contents : Text}
    (inMode : settings.modeOf? path = some mode.name)
    (read : system.textOf host settings path = .ok contents) :
    EndsRun system host parsers settings path ↔
      ∃ failure, parsers.readers mode contents = .error failure ∧ ∀ e, failure ≠ .parse e := by
  rw [exists_failure_iff_component texts]
  constructor
  · intro ends
    cases ends with
    | reading _ ends =>
        obtain ⟨e, read', _⟩ := sourceText_ends_iff.mpr ends
        cases read.symm.trans read'
    | surrogate inMode' read' surrogate =>
        cases read.symm.trans read'
        have same := Mode.name_injective (Option.some.inj (inMode.symm.trans inMode'))
        exact ⟨same, .inl surrogate⟩
    | component inMode' read' noError reached unreadable =>
        cases read.symm.trans read'
        have same := Mode.name_injective (Option.some.inj (inMode.symm.trans inMode'))
        exact ⟨same, .inr ⟨_, rfl, noError, _, reached, unreadable⟩⟩
  · rintro ⟨rfl, surrogate | ⟨script, rfl, noError, A, reached, unreadable⟩⟩
    · exact .surrogate inMode read surrogate
    · exact .component inMode read noError reached unreadable

/-- A file has a report unless the run ends at it. -/
theorem exists_extractFile_iff (known : settings.HasKnownMode)
    (reads : host.readers = parsers.readers) (texts : parsers.TextsDecode) :
    (∃ outcome, system.extractFile host settings choice path = .ok outcome) ↔
      ¬ EndsRun system host parsers settings path := by
  cases inMode : settings.modeOf? path with
  | none =>
      rw [extractFile_of_noMode inMode]
      refine ⟨fun _ ends => ?_, fun _ => ⟨_, rfl⟩⟩
      cases ends with
      | reading inMode' => cases inMode.symm.trans inMode'
      | surrogate inMode' => cases inMode.symm.trans inMode'
      | component inMode' => cases inMode.symm.trans inMode'
  | some name =>
      cases read : system.textOf host settings path with
      | error e =>
          rw [extractFile_of_unread inMode read, endsRun_iff_of_unread inMode read]
          cases e.isSkipped <;> simp
      | ok contents =>
          obtain ⟨mode, rfl⟩ := known.exists_mode inMode
          rw [extractFile_of_read inMode read, exists_ofContents_iff,
            endsRun_iff_of_read texts inMode read, Readers.source, reads]

/-! ## Reports -/

/-- What has come of a file when the run goes on. -/
inductive Extracts (system : FileSystem) (host : Host) (settings : Settings) (choice : KindChoice)
    (path : Path) : FileOutcome → Prop where
  | unknown (noMode : settings.modeOf? path = none) :
      Extracts system host settings choice path (.unknownExtension path)
  | unread {name : String} {e : ReadError} (inMode : settings.modeOf? path = some name)
      (read : system.textOf host settings path = .error e) (skipped : e.isSkipped = true) :
      Extracts system host settings choice path (.unread path name e)
  | failed {mode : Mode} {contents : Text} {e : ParseError}
      (inMode : settings.modeOf? path = some mode.name)
      (read : system.textOf host settings path = .ok contents)
      (fails : host.readers mode contents = .error (.parse e)) :
      Extracts system host settings choice path (.failed path mode e)
  | extracted {mode : Mode} {contents : Text} {roots : List Node} {records : List Log.Record}
      (inMode : settings.modeOf? path = some mode.name)
      (read : system.textOf host settings path = .ok contents)
      (grown : host.readers mode contents = .ok roots)
      (quiet : ∀ record ∈ records, record.severity = .debug) :
      Extracts system host settings choice path (.extracted path mode
        (choice.restrict ⟨mode.order.walk .className roots, mode.order.walk .ident roots⟩) records)

theorem severity_of_mem_records {source : TreeSource} {contents : Text} {extraction : Extraction}
    {record : Log.Record} (member : record ∈ FileOutcome.treeRecords source contents ++
      FileOutcome.selectorRecords source.mode choice extraction) : record.severity = .debug := by
  obtain tree | selector := List.mem_append.mp member
  · unfold FileOutcome.treeRecords at tree
    split at tree
    · rw [List.mem_singleton.mp tree]
    · cases tree
  · unfold FileOutcome.selectorRecords at selector
    split at selector
    · cases selector
    · rw [List.mem_singleton.mp selector]

/-- Every outcome of a file is one of these. -/
theorem extracts_of_extractFile {outcome : FileOutcome}
    (h : system.extractFile host settings choice path = .ok outcome) :
    Extracts system host settings choice path outcome := by
  cases inMode : settings.modeOf? path with
  | none =>
      cases (extractFile_of_noMode inMode).symm.trans h
      exact .unknown inMode
  | some name =>
      cases read : system.textOf host settings path with
      | error e =>
          rw [extractFile_of_unread inMode read] at h
          split at h
          · rename_i skipped
            cases h
            exact .unread inMode read skipped
          · cases h
      | ok contents =>
          obtain ⟨mode, rfl⟩ := exists_mode_of_extractFile inMode read h
          rw [extractFile_of_read inMode read] at h
          unfold FileOutcome.ofContents at h
          split at h
          · rename_i found
            cases h
            obtain ⟨roots, grown, rfl⟩ := TreeSource.extractChoice_eq_ok_iff.mp found
            exact .extracted inMode read grown fun record => severity_of_mem_records
          · rename_i fails
            cases h
            exact .failed inMode read (TreeSource.extractChoice_eq_error_iff.mp fails)
          · cases h

theorem Extracts.path_eq {outcome : FileOutcome}
    (h : Extracts system host settings choice path outcome) :
    outcome.report.path = path.text := by
  cases h <;> rfl

theorem Extracts.report_of_signals {outcome : FileOutcome} {message : Text}
    (h : Extracts system host settings choice path outcome)
    (signal : Signals system host settings path message) :
    outcome.report.error = some message ∧ outcome.report.classNames = [] ∧
      outcome.report.ids = [] := by
  cases h with
  | unknown noMode =>
      cases signal with
      | extension => exact ⟨rfl, rfl, rfl⟩
      | unread inMode => cases noMode.symm.trans inMode
      | grammar inMode => cases noMode.symm.trans inMode
  | unread inMode read =>
      cases signal with
      | extension noMode => cases noMode.symm.trans inMode
      | unread _ read' =>
          cases read.symm.trans read'
          exact ⟨rfl, rfl, rfl⟩
      | grammar _ read' => cases read.symm.trans read'
  | failed inMode read fails =>
      cases signal with
      | extension noMode => cases noMode.symm.trans inMode
      | unread _ read' => cases read.symm.trans read'
      | grammar inMode' read' fails' =>
          cases Mode.name_injective (Option.some.inj (inMode.symm.trans inMode'))
          cases read.symm.trans read'
          cases fails.symm.trans fails'
          exact ⟨rfl, rfl, rfl⟩
  | extracted inMode read grown =>
      cases signal with
      | extension noMode => cases noMode.symm.trans inMode
      | unread _ read' => cases read.symm.trans read'
      | grammar inMode' read' fails =>
          cases Mode.name_injective (Option.some.inj (inMode.symm.trans inMode'))
          cases read.symm.trans read'
          cases grown.symm.trans fails

theorem Extracts.error_eq_none_of_silent {outcome : FileOutcome}
    (h : Extracts system host settings choice path outcome)
    (silent : ∀ message, ¬ Signals system host settings path message) :
    outcome.report.error = none := by
  cases h with
  | unknown noMode => exact (silent _ (.extension noMode)).elim
  | unread inMode read => exact (silent _ (.unread inMode read)).elim
  | failed inMode read fails => exact (silent _ (.grammar inMode read fails)).elim
  | extracted => rfl

/--
For the modes that can be chosen, a file has a report exactly when the run does not end at it. The
report says what has been signalled about the file, and lists no selectors then; it has no error if
nothing has been signalled.
-/
theorem extractFile_spec (known : settings.HasKnownMode)
    (reads : host.readers = parsers.readers) (texts : parsers.TextsDecode) :
    ((∃ outcome, system.extractFile host settings choice path = .ok outcome) ↔
      ¬ EndsRun system host parsers settings path) ∧
    ∀ outcome, system.extractFile host settings choice path = .ok outcome →
      (∀ message, Signals system host settings path message →
        outcome.report.error = some message ∧ outcome.report.classNames = [] ∧
          outcome.report.ids = []) ∧
      ((∀ message, ¬ Signals system host settings path message) →
        outcome.report.error = none) :=
  ⟨exists_extractFile_iff known reads texts, fun _ h =>
    ⟨fun _ signal => (extracts_of_extractFile h).report_of_signals signal,
      (extracts_of_extractFile h).error_eq_none_of_silent⟩⟩

/-! ## A file without a byte order mark -/

/-- A file with two letters in little-endian UTF-16, without a mark. -/
def unmarkedSystem : FileSystem :=
  ⟨.directory 4096 [(.ofString "a.html", .file [0x61, 0x00, 0x62, 0x00])], [], .builtin⟩

def utf16Settings : Settings := { Settings.default with encoding := ⟨"utf-16", true⟩ }

theorem hasKnownMode_utf16Settings : utf16Settings.HasKnownMode :=
  ⟨ModeChoice.automatic, List.mem_cons_self, rfl⟩

/-- For the file and these settings all that is said holds. -/
theorem extractFile_spec_unmarkedSystem :
    utf16Settings.HasKnownMode ∧ Parsers.builtin.TextsDecode ∧
      ((∃ outcome, unmarkedSystem.extractFile (.builtin .utf8) utf16Settings .all
        (.ofString "a.html") = .ok outcome) ↔
          ¬ EndsRun unmarkedSystem (.builtin .utf8) .builtin utf16Settings (.ofString "a.html")) ∧
      ∀ outcome, unmarkedSystem.extractFile (.builtin .utf8) utf16Settings .all
          (.ofString "a.html") = .ok outcome →
        (∀ message, Signals unmarkedSystem (.builtin .utf8) utf16Settings (.ofString "a.html")
          message → outcome.report.error = some message ∧ outcome.report.classNames = [] ∧
            outcome.report.ids = []) ∧
        ((∀ message, ¬ Signals unmarkedSystem (.builtin .utf8) utf16Settings
          (.ofString "a.html") message) → outcome.report.error = none) :=
  ⟨hasKnownMode_utf16Settings, Parsers.textsDecode_builtin,
    extractFile_spec hasKnownMode_utf16Settings rfl Parsers.textsDecode_builtin⟩

/-- The run ends at the file. -/
theorem extractFile_unmarkedSystem :
    utf16Settings.HasKnownMode ∧
      unmarkedSystem.extractFile (.builtin .utf8) utf16Settings .all (.ofString "a.html") =
        .error (.read (.decode .noByteOrder)) :=
  ⟨hasKnownMode_utf16Settings, by decide +kernel⟩

end FileSystem

end UsedSelectors
