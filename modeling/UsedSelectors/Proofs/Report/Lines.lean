import UsedSelectors.Proofs.CommandLine.Output
import UsedSelectors.Proofs.Text.Pieces
import UsedSelectors.Proofs.Traversal

/-!
# Reading printed reports back

Reports as text are meant to be read line by line: a line for each selector, with the path of its
report in front of the first tab. This works as long as no id has a line feed in it. A class
selector never has one, since its words are what is between white space; an id is the value of an
attribute as it stands, and each line feed in it makes one line too many.
-/

namespace UsedSelectors

def CodePoint.lineFeed : CodePoint := .ofChar '\n'

def CodePoint.tab : CodePoint := .ofChar '\t'

namespace Report

open CommandLine

/-- The lines of an output, without the empty piece after the last line feed. -/
def outputLines (output : Text) : List Text := (pieces CodePoint.lineFeed output).dropLast

/-- What is in front of the first tab of a line, and what is after it. -/
def cutAtTab (line : Text) : Text × Text :=
  (line.takeWhile (· != .tab), (line.dropWhile (· != .tab)).drop 1)

/-- The selectors of reports with the paths of the reports, classes before ids. -/
def entries (reports : List Report) : List (Text × Text) :=
  reports.flatMap fun report =>
    (report.classNames ++ report.ids).map fun selector => (report.path, selector)

/-- The report is what comes of some file, whatever reads it and whatever the settings are. -/
def IsExtracted (report : Report) : Prop :=
  ∃ (system : FileSystem) (host : Host) (settings : Settings) (choice : KindChoice) (path : Path)
    (outcome : FileOutcome),
    system.extractFile host settings choice path = .ok outcome ∧ outcome.report = report

/-! ## Selectors and line feeds -/

theorem lineFeed_not_mem_ofClass? {value selector : Text}
    (h : Selector.ofClass? value = some selector) : CodePoint.lineFeed ∉ selector := by
  have wordsClean : ∀ word ∈ value.words, CodePoint.lineFeed ∉ word := by
    intro word hword hmem
    have inWords : CodePoint.lineFeed ∈ value.words.flatten :=
      List.mem_flatten.mpr ⟨word, hword, hmem⟩
    rw [Text.flatten_words] at inWords
    have notBlank := (List.mem_filter.mp inWords).2
    revert notBlank
    decide
  have dotted : selector = value.words.flatMap fun word => Selector.dot :: word := by
    rw [Selector.ofClass?] at h
    split at h
    · cases h
    · exact (Option.some.inj h).symm
  rw [dotted, List.mem_flatMap]
  rintro ⟨word, hword, hmem⟩
  rcases List.mem_cons.mp hmem with same | hmem
  · revert same
    decide
  · exact wordsClean word hword hmem

theorem IsExtracted.exists_roots {report : Report} (extracted : report.IsExtracted) :
    ∃ (order : Order) (roots : List Node),
      ∀ selector ∈ report.classNames, selector ∈ order.walk .className roots := by
  obtain ⟨system, host, settings, choice, path, outcome, h, rfl⟩ := extracted
  cases FileSystem.extracts_of_extractFile h with
  | unknown => exact ⟨.pre, [], List.forall_mem_nil _⟩
  | unread => exact ⟨.pre, [], List.forall_mem_nil _⟩
  | failed => exact ⟨.pre, [], List.forall_mem_nil _⟩
  | @extracted mode _ roots =>
      refine ⟨mode.order, roots, fun selector member => ?_⟩
      obtain _ | (_ | _) := choice
      · exact member
      · exact member
      · cases member

theorem IsExtracted.lineFeed_not_mem {report : Report} (extracted : report.IsExtracted)
    {selector : Text} (h : selector ∈ report.classNames) : CodePoint.lineFeed ∉ selector := by
  obtain ⟨order, roots, all⟩ := extracted.exists_roots
  obtain ⟨attr, gives⟩ := order.exists_of_mem_walk (all selector h)
  rw [SelectorKind.ofAttribute?] at gives
  split at gives
  · obtain ⟨value, _, gives⟩ := Option.bind_eq_some_iff.mp gives
    exact lineFeed_not_mem_ofClass? gives
  · cases gives

/-! ## Lines -/

variable {report : Report} {reports : List Report}

theorem lines_eq (report : Report) :
    report.lines = (report.classNames ++ report.ids).map fun selector =>
      report.path ++ .tab :: selector := by
  refine List.map_congr_left fun selector _ => ?_
  rw [List.append_assoc]
  rfl

theorem cutAtTab_line {path : Text} (noTab : .tab ∉ path) (selector : Text) :
    cutAtTab (path ++ .tab :: selector) = (path, selector) := by
  have passes : ∀ c ∈ path, (c != .tab) = true := by
    intro c hc
    rw [bne_iff_ne]
    rintro rfl
    exact noTab hc
  rw [cutAtTab, List.takeWhile_append_of_pos passes, List.dropWhile_append_of_pos passes]
  simp

theorem map_cutAtTab_lines
    (noTab : ∀ report ∈ reports, CodePoint.tab ∉ report.path) :
    (reports.flatMap lines).map cutAtTab = entries reports := by
  rw [List.map_flatMap, entries]
  refine List.flatMap_congr fun report hreport => ?_
  rw [lines_eq, List.map_map]
  refine List.map_congr_left fun selector _ => ?_
  exact cutAtTab_line (noTab report hreport) selector

theorem length_entries (reports : List Report) :
    (entries reports).length = (reports.flatMap lines).length := by
  simp [entries, lines, List.length_flatMap]

theorem count_lineFeed_line {path : Text} (noLineFeed : .lineFeed ∉ path) (selector : Text) :
    (path ++ .tab :: selector).count CodePoint.lineFeed = selector.count .lineFeed := by
  rw [List.count_append, List.count_eq_zero_of_not_mem noLineFeed, Nat.zero_add,
    List.count_cons_of_ne (by decide)]

theorem count_lineFeed_lines (extracted : report.IsExtracted)
    (noLineFeed : .lineFeed ∉ report.path) :
    report.lines.flatten.count CodePoint.lineFeed = report.ids.flatten.count .lineFeed := by
  have classes : .lineFeed ∉ report.classNames.flatten := by
    intro h
    obtain ⟨selector, hselector, h⟩ := List.mem_flatten.mp h
    exact extracted.lineFeed_not_mem hselector h
  rw [lines_eq, ← List.flatMap_def]
  calc
    _ = (report.classNames ++ report.ids).flatten.count .lineFeed := by
      induction report.classNames ++ report.ids with
      | nil => rfl
      | cons selector selectors ih =>
          rw [List.flatMap_cons, List.count_append, ih, count_lineFeed_line noLineFeed,
            List.flatten_cons, List.count_append]
    _ = report.ids.flatten.count .lineFeed := by
      rw [List.flatten_append, List.count_append, List.count_eq_zero_of_not_mem classes,
        Nat.zero_add]

theorem length_outputLines_renderText (reports : List Report) :
    (outputLines (renderText reports)).length =
      (reports.flatMap lines).length + (reports.flatMap lines).flatten.count .lineFeed := by
  rw [outputLines, List.length_dropLast, length_pieces, Nat.add_sub_cancel, renderText]
  induction reports.flatMap lines with
  | nil => rfl
  | cons line lines ih =>
      have ended : (line ++ Text.ofString "\n").count CodePoint.lineFeed =
          line.count .lineFeed + 1 := by
        rw [List.count_append]
        rfl
      rw [List.flatMap_cons, List.count_append, ih, ended, List.length_cons, List.flatten_cons,
        List.count_append]
      omega

def lineFeeds (reports : List Report) : Nat :=
  (reports.flatMap ids).flatten.count .lineFeed

theorem lineFeeds_eq_zero_iff :
    lineFeeds reports = 0 ↔ ∀ report ∈ reports, ∀ id ∈ report.ids, .lineFeed ∉ id := by
  rw [lineFeeds, List.count_eq_zero, ← List.forall_mem_flatMap]
  simp only [List.mem_flatten, not_exists, not_and]

theorem count_lineFeed_flatMap_lines (extracted : ∀ report ∈ reports, report.IsExtracted)
    (noLineFeed : ∀ report ∈ reports, .lineFeed ∉ report.path) :
    (reports.flatMap lines).flatten.count .lineFeed = lineFeeds reports := by
  induction reports with
  | nil => rfl
  | cons report reports ih =>
      obtain ⟨first, extracted⟩ := List.forall_mem_cons.mp extracted
      obtain ⟨clean, noLineFeed⟩ := List.forall_mem_cons.mp noLineFeed
      rw [List.flatMap_cons, List.flatten_append, List.count_append, ih extracted noLineFeed,
        count_lineFeed_lines first clean, lineFeeds, lineFeeds, List.flatMap_cons,
        List.flatten_append, List.count_append]

/--
Reports of files whose paths have no tab and no line feed in them are printed with one line for
each selector, and one more for each line feed in an id. Exactly when there are none of these,
cutting the lines at the first tab gives back the selectors with their paths.
-/
theorem outputLines_renderText (extracted : ∀ report ∈ reports, report.IsExtracted)
    (noTab : ∀ report ∈ reports, CodePoint.tab ∉ report.path)
    (noLineFeed : ∀ report ∈ reports, CodePoint.lineFeed ∉ report.path) :
    (outputLines (renderText reports)).length = (entries reports).length + lineFeeds reports ∧
      ((outputLines (renderText reports)).map cutAtTab = entries reports ↔
        ∀ report ∈ reports, ∀ id ∈ report.ids, CodePoint.lineFeed ∉ id) := by
  have count : (outputLines (renderText reports)).length =
      (entries reports).length + lineFeeds reports := by
    rw [length_outputLines_renderText, length_entries,
      count_lineFeed_flatMap_lines extracted noLineFeed]
  refine ⟨count, ?_⟩
  rw [← lineFeeds_eq_zero_iff]
  constructor
  · intro recovered
    have sameLength := congrArg List.length recovered
    rw [List.length_map, count] at sameLength
    omega
  · intro none
    have cleanLines : ∀ line ∈ reports.flatMap lines, CodePoint.lineFeed ∉ line := by
      rw [← count_lineFeed_flatMap_lines extracted noLineFeed, List.count_eq_zero] at none
      intro line hline hmem
      exact none (List.mem_flatten.mpr ⟨line, hline, hmem⟩)
    have split : outputLines (renderText reports) = reports.flatMap lines := by
      rw [outputLines, renderText]
      exact (congrArg List.dropLast (pieces_flatMap cleanLines)).trans List.dropLast_concat
    rw [split]
    exact map_cutAtTab_lines noTab

/-! ## Two documents with one output -/

def documentAlone (contents : String) : FileSystem where
  root := .directory 0 [(.ofString "f.html", .file contents.toUTF8.toList)]
  workingDirectory := []
  limits := .builtin

/-- What is reported about the document when it has ids and no classes. -/
def ofIds (ids : List String) : Report :=
  ⟨.ofString "f.html", some "markup", [], ids.map Text.ofString, none⟩

def twoIds : Report := ofIds ["#a", "#b"]

/-- A report with one id, which goes on like a line of output after its line feed. -/
def forgedId : Report := ofIds ["#a\nf.html\t#b"]

theorem isExtracted_twoIds : twoIds.IsExtracted :=
  ⟨documentAlone "<p id=a><p id=b>", .builtin .utf8, plainSettings, .all,
    Path.ofText (.ofString "f.html"), ⟨twoIds, []⟩, by decide +kernel, rfl⟩

theorem isExtracted_forgedId : forgedId.IsExtracted :=
  ⟨documentAlone "<p id=\"a\nf.html\t#b\">", .builtin .utf8, plainSettings, .all,
    Path.ofText (.ofString "f.html"), ⟨forgedId, []⟩, by decide +kernel, rfl⟩

/-- Two ids without line feeds are read back. -/
theorem outputLines_renderText_twoIds :
    twoIds.IsExtracted ∧ CodePoint.tab ∉ twoIds.path ∧
      CodePoint.lineFeed ∉ twoIds.path ∧
      (outputLines (renderText [twoIds])).length = (entries [twoIds]).length + lineFeeds [twoIds] ∧
      (outputLines (renderText [twoIds])).map cutAtTab = entries [twoIds] := by
  have noTab : CodePoint.tab ∉ twoIds.path := by decide
  have noLineFeed : CodePoint.lineFeed ∉ twoIds.path := by decide
  obtain ⟨count, recovered⟩ := outputLines_renderText
    (List.forall_mem_singleton.mpr isExtracted_twoIds) (List.forall_mem_singleton.mpr noTab)
    (List.forall_mem_singleton.mpr noLineFeed)
  exact ⟨isExtracted_twoIds, noTab, noLineFeed, count, recovered.mpr (by decide +kernel)⟩

/-- The single id is printed as the two are, so neither the number of the lines nor what is cut
from them is that of its report. -/
theorem renderText_forgedId :
    forgedId.IsExtracted ∧ twoIds.IsExtracted ∧
      CodePoint.tab ∉ forgedId.path ∧
      CodePoint.lineFeed ∉ forgedId.path ∧
      renderText [forgedId] = renderText [twoIds] ∧ entries [forgedId] ≠ entries [twoIds] ∧
      (outputLines (renderText [forgedId])).length ≠ (entries [forgedId]).length ∧
      (outputLines (renderText [forgedId])).map cutAtTab ≠ entries [forgedId] := by
  refine ⟨isExtracted_forgedId, isExtracted_twoIds, by decide, by decide, ?_⟩
  decide +kernel

end Report
end UsedSelectors
