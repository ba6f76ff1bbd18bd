import UsedSelectors.Proofs.Files.FileReport

/-!
# Reports by the kinds that are asked for

Which selectors are asked for has no effect on whether a file has a report, nor on anything in the
report but its selectors. The report with both kinds has those of the reports with one kind.
-/

namespace UsedSelectors

/-- Reports on one file, for each choice of kinds: they differ in the selectors of kinds that are
not asked for, which are left out. -/
structure Report.SplitsByKind (report : KindChoice → Report) : Prop where
  path : ∀ choice, (report choice).path = (report .all).path
  mode : ∀ choice, (report choice).mode = (report .all).mode
  error : ∀ choice, (report choice).error = (report .all).error
  classNames : (report (.only .className)).classNames = (report .all).classNames
  noIds : (report (.only .className)).ids = []
  ids : (report (.only .ident)).ids = (report .all).ids
  noClassNames : (report (.only .ident)).classNames = []

theorem Report.SplitsByKind.lines_all {report : KindChoice → Report}
    (splits : SplitsByKind report) :
    (report .all).lines =
      (report (.only .className)).lines ++ (report (.only .ident)).lines := by
  have classes : (report (.only .className)).lines =
      (report .all).classNames.map (fun selector =>
        (report .all).path ++ Text.ofString "\t" ++ selector) := by
    rw [lines, splits.classNames, splits.noIds, splits.path, List.append_nil]
  have idents : (report (.only .ident)).lines =
      (report .all).ids.map (fun selector =>
        (report .all).path ++ Text.ofString "\t" ++ selector) := by
    rw [lines, splits.ids, splits.noClassNames, splits.path, List.nil_append]
  rw [classes, idents, lines, List.map_append]

theorem Report.splitsByKind_of_empty {report : Report} (classNames : report.classNames = [])
    (ids : report.ids = []) : SplitsByKind fun _ => report where
  path _ := rfl
  mode _ := rfl
  error _ := rfl
  classNames := rfl
  noIds := ids
  ids := rfl
  noClassNames := classNames

theorem FileOutcome.splitsByKind_extracted (path : Path) (mode : Mode) (found : Extraction)
    (records : KindChoice → List Log.Record) :
    Report.SplitsByKind fun choice =>
      (extracted path mode (choice.restrict found) (records choice)).report where
  path _ := rfl
  mode _ := rfl
  error _ := rfl
  classNames := rfl
  noIds := rfl
  ids := rfl
  noClassNames := rfl

/-- What comes of one attempt for each choice of kinds: the same fault, or reports that differ by
the kinds. -/
def SameByKind (attempt : KindChoice → Except FileFault FileOutcome) : Prop :=
  (∃ outcome : KindChoice → FileOutcome,
    Report.SplitsByKind (fun choice => (outcome choice).report) ∧
      ∀ choice, attempt choice = .ok (outcome choice)) ∨
    ∃ fault, ∀ choice, attempt choice = .error fault

namespace FileSystem

theorem sameByKind_ofContents (path : Path) (source : TreeSource) (contents : Text) :
    SameByKind fun choice => FileOutcome.ofContents path source choice contents := by
  simp only [FileOutcome.ofContents, TreeSource.extractChoice_eq_map]
  cases source.extract contents with
  | ok found =>
      exact .inl ⟨_, FileOutcome.splitsByKind_extracted path source.mode found _, fun _ => rfl⟩
  | error failure =>
      cases failure with
      | parse e =>
          have empty : Report.SplitsByKind fun _ =>
              (FileOutcome.failed path source.mode e).report :=
            Report.splitsByKind_of_empty rfl rfl
          exact .inl ⟨fun _ => .failed path source.mode e, empty, fun _ => rfl⟩
      | unencodable e => exact .inr ⟨_, fun _ => rfl⟩
      | undecodable e => exact .inr ⟨_, fun _ => rfl⟩
      | tooManyDigits e => exact .inr ⟨_, fun _ => rfl⟩
      | unnamedAttribute => exact .inr ⟨_, fun _ => rfl⟩

theorem sameByKind_extractFile (system : FileSystem) (host : Host) (settings : Settings)
    (path : Path) : SameByKind fun choice => system.extractFile host settings choice path := by
  cases inMode : settings.modeOf? path with
  | none =>
      have empty : Report.SplitsByKind fun _ => (FileOutcome.unknownExtension path).report :=
        Report.splitsByKind_of_empty rfl rfl
      exact .inl ⟨_, empty, fun _ => extractFile_of_noMode inMode⟩
  | some name =>
      cases read : system.textOf host settings path with
      | error e =>
          have attempt (choice : KindChoice) : system.extractFile host settings choice path =
              if e.isSkipped then .ok (.unread path name e) else .error (.read e) :=
            extractFile_of_unread inMode read
          by_cases skipped : e.isSkipped
          · have empty : Report.SplitsByKind fun _ => (FileOutcome.unread path name e).report :=
              Report.splitsByKind_of_empty rfl rfl
            exact .inl ⟨_, empty, fun choice => (attempt choice).trans (if_pos skipped)⟩
          · exact .inr ⟨_, fun choice => (attempt choice).trans (if_neg skipped)⟩
      | ok contents =>
          cases known : Mode.ofName name with
          | error e =>
              have attempt (choice : KindChoice) :
                  system.extractFile host settings choice path = .error (.mode e) := by
                unfold textOf at read
                rw [extractFile, inMode]
                dsimp only
                rw [read]
                dsimp only
                rw [known]
              exact .inr ⟨_, attempt⟩
          | ok mode =>
              obtain rfl := Mode.eq_name_of_ofName known
              simp only [extractFile_of_read inMode read]
              exact sameByKind_ofContents path (host.readers.source mode) contents

end FileSystem

end UsedSelectors
