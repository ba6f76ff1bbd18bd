import UsedSelectors.Json
import UsedSelectors.Proofs.Attempts
import UsedSelectors.Proofs.Json.Texts

/-!
# What is printed for reports

The output in each format is made of what is written for the reports, one after the other, with
nothing left out. Of an encoder no more is asked than that it writes JSON without blanks, spelling
strings in one way, and that it refuses surrogates. What is printed has no surrogate in it exactly
when none is in the lines of a report, or in any text of it where the output is JSON.
-/

namespace UsedSelectors

open Attempts Encoding

/-- A report whose texts are strings. -/
structure PlainReport where
  path : String
  mode : Option String
  classNames : List String
  ids : List String
  error : Option String

namespace PlainReport

def toReport (plain : PlainReport) : Report :=
  ⟨.ofString plain.path, plain.mode, plain.classNames.map .ofString, plain.ids.map .ofString,
    plain.error.map .ofString⟩

def toJson (plain : PlainReport) : Json :=
  .object [("path", .string plain.path), ("mode", .ofOption plain.mode),
    ("class_names", .array (plain.classNames.map .string)),
    ("ids", .array (plain.ids.map .string)), ("error", .ofOption plain.error)]

end PlainReport

namespace Report

structure IsWritable (report : Report) : Prop where
  path : report.path.IsScalar
  selectors : ∀ selector ∈ report.classNames ++ report.ids, selector.IsScalar
  error : ∀ message ∈ report.error, message.IsScalar

end Report

/-- An encoder writes reports as JSON without blanks, in which a string is spelled in the same way
wherever it stands, and refuses reports with a surrogate in them. -/
structure JsonEncoder.WritesJson (encoder : JsonEncoder) (spelling : Json.Spelling) : Prop where
  report : ∀ plain : PlainReport,
    encoder.report plain.toReport = .ok (plain.toJson.layout spelling.spell)
  reports : ∀ plains : List PlainReport, encoder.reports (plains.map PlainReport.toReport) =
    .ok ((Json.array (plains.map PlainReport.toJson)).layout spelling.spell)
  refusesReport : ∀ report : Report, ¬ report.IsWritable → ∃ e, encoder.report report = .error e
  refusesReports : ∀ reports : List Report, (∃ report ∈ reports, ¬ report.IsWritable) →
    ∃ e, encoder.reports reports = .error e

namespace Text

theorem exists_map_ofString_iff {texts : List Text} :
    (∃ strings : List String, strings.map Text.ofString = texts) ↔ ∀ t ∈ texts, t.IsScalar := by
  constructor
  · rintro ⟨strings, rfl⟩ t ht
    obtain ⟨s, _, rfl⟩ := List.mem_map.mp ht
    exact Text.isScalar_ofString s
  · intro scalar
    induction texts with
    | nil => exact ⟨[], rfl⟩
    | cons t texts ih =>
        obtain ⟨first, others⟩ := List.forall_mem_cons.mp scalar
        obtain ⟨s, written⟩ := exists_writable_iff.mpr first
        obtain ⟨strings, rfl⟩ := ih others
        exact ⟨s :: strings, by rw [List.map_cons, writable_eq_ok_iff.mp written]⟩

theorem exists_optionMap_ofString_iff {text : Option Text} :
    (∃ s : Option String, s.map Text.ofString = text) ↔ ∀ t ∈ text, t.IsScalar := by
  cases text with
  | none => exact ⟨fun _ _ none => absurd none (by simp), fun _ => ⟨none, rfl⟩⟩
  | some t =>
      constructor
      · rintro ⟨s, same⟩ t' member
        cases member
        obtain ⟨s, _, rfl⟩ := Option.map_eq_some_iff.mp same
        exact Text.isScalar_ofString s
      · intro scalar
        obtain ⟨s, written⟩ := exists_writable_iff.mpr (scalar t rfl)
        exact ⟨some s, by rw [Option.map_some, writable_eq_ok_iff.mp written]⟩

theorem ofString_join (strings : List String) :
    ofString (String.join strings) = (strings.map ofString).flatten := by
  induction strings with
  | nil => rfl
  | cons s strings ih =>
      rw [String.join_cons, ofString_append, ih, List.map_cons, List.flatten_cons]

theorem ofString_intercalate (separator : String) (strings : List String) :
    ofString (separator.intercalate strings) =
      (ofString separator).intercalate (strings.map ofString) := by
  rw [ofString, String.toList_intercalate]
  induction strings with
  | nil => rfl
  | cons s strings ih =>
      cases strings with
      | nil => simp [ofString]
      | cons next strings =>
          rw [List.map_cons] at ih ⊢
          rw [List.map_cons, List.map_cons, List.intercalate_cons_cons, ofChars_append,
            ofChars_append, ih, List.map_cons, List.intercalate_cons_cons]
          rfl

end Text

namespace Report

variable {report : Report} {reports : List Report} {format : ReportFormat} {output : Text}
  {encoder : JsonEncoder} {spelling : Json.Spelling}

theorem exists_toReport_iff :
    (∃ plain : PlainReport, plain.toReport = report) ↔ report.IsWritable := by
  constructor
  · rintro ⟨plain, rfl⟩
    refine ⟨Text.isScalar_ofString _, ?_, Text.exists_optionMap_ofString_iff.mp ⟨_, rfl⟩⟩
    exact List.forall_mem_append.mpr ⟨Text.exists_map_ofString_iff.mp ⟨_, rfl⟩,
      Text.exists_map_ofString_iff.mp ⟨_, rfl⟩⟩
  · rintro ⟨path, selectors, error⟩
    obtain ⟨classes, idents⟩ := List.forall_mem_append.mp selectors
    obtain ⟨s, written⟩ := exists_writable_iff.mpr path
    obtain ⟨classNames, hclassNames⟩ := Text.exists_map_ofString_iff.mpr classes
    obtain ⟨ids, hids⟩ := Text.exists_map_ofString_iff.mpr idents
    obtain ⟨message, hmessage⟩ := Text.exists_optionMap_ofString_iff.mpr error
    refine ⟨⟨s, report.mode, classNames, ids, message⟩, ?_⟩
    rw [PlainReport.toReport, writable_eq_ok_iff.mp written, hclassNames, hids, hmessage]

theorem exists_map_toReport (writable : ∀ report ∈ reports, report.IsWritable) :
    ∃ plains : List PlainReport, plains.map PlainReport.toReport = reports := by
  induction reports with
  | nil => exact ⟨[], rfl⟩
  | cons report reports ih =>
      obtain ⟨first, others⟩ := List.forall_mem_cons.mp writable
      obtain ⟨plain, rfl⟩ := exists_toReport_iff.mpr first
      obtain ⟨plains, rfl⟩ := ih others
      exact ⟨plain :: plains, rfl⟩

/-! ## What an encoder writes -/

theorem exists_plains_of_mapM (json : encoder.WritesJson spelling) {objects : List String}
    (encoded : reports.mapM encoder.report = .ok objects) :
    ∃ plains : List PlainReport, plains.map PlainReport.toReport = reports ∧
      objects = plains.map fun plain => plain.toJson.layout spelling.spell := by
  rw [mapM_eq_ok_iff] at encoded
  induction encoded with
  | nil => exact ⟨[], rfl, rfl⟩
  | @cons report object _ _ first _ ih =>
      have writable : report.IsWritable := by
        by_contra refused
        obtain ⟨e, fails⟩ := json.refusesReport report refused
        cases fails.symm.trans first
      obtain ⟨plain, rfl⟩ := exists_toReport_iff.mpr writable
      obtain ⟨plains, rfl, rfl⟩ := ih
      cases (json.report plain).symm.trans first
      exact ⟨plain :: plains, rfl, rfl⟩

theorem mapM_report_toReport (json : encoder.WritesJson spelling) (plains : List PlainReport) :
    (plains.map PlainReport.toReport).mapM encoder.report =
      .ok (plains.map fun plain => plain.toJson.layout spelling.spell) := by
  rw [mapM_eq_ok_iff, List.forall₂_map_left_iff, List.forall₂_map_right_iff, List.forall₂_same]
  exact fun plain _ => json.report plain

theorem exists_plains_of_reports (json : encoder.WritesJson spelling) {s : String}
    (encoded : encoder.reports reports = .ok s) :
    ∃ plains : List PlainReport, plains.map PlainReport.toReport = reports ∧
      s = (Json.array (plains.map PlainReport.toJson)).layout spelling.spell := by
  have writable : ∀ report ∈ reports, report.IsWritable := by
    by_contra refused
    push Not at refused
    obtain ⟨e, fails⟩ := json.refusesReports reports refused
    cases fails.symm.trans encoded
  obtain ⟨plains, rfl⟩ := exists_map_toReport writable
  cases (json.reports plains).symm.trans encoded
  exact ⟨plains, rfl, rfl⟩

/-! ## The output -/

/-- What is written for a report on its own: all its selectors, classes before ids, and in JSON
also its other members. -/
inductive Written (spelling : Json.Spelling) (report : Report) : ReportFormat → Text → Prop where
  | text : Written spelling report .text ((report.classNames ++ report.ids).flatMap
      fun selector => report.path ++ Text.ofString "\t" ++ selector ++ Text.ofString "\n")
  | json {plain : PlainReport} (same : plain.toReport = report) :
      Written spelling report .json (.ofString (plain.toJson.layout spelling.spell))
  | jsonLines {plain : PlainReport} (same : plain.toReport = report) :
      Written spelling report .jsonLines (.ofString (plain.toJson.layout spelling.spell ++ "\n"))

/-- The output that pieces make up: JSON has brackets around an array and commas between items. -/
def assemble : ReportFormat → List Text → Text
  | .text, pieces => pieces.flatten
  | .json, pieces =>
    Text.ofString "[" ++ (Text.ofString ",").intercalate pieces ++ Text.ofString "]\n"
  | .jsonLines, pieces => pieces.flatten

/-- An output for reports: what is written for each of them, in their order. -/
def Printed (spelling : Json.Spelling) (reports : List Report) (format : ReportFormat)
    (output : Text) : Prop :=
  ∃ pieces, List.Forall₂ (fun report piece => report.Written spelling format piece)
    reports pieces ∧ output = assemble format pieces

theorem forall₂_written {plains : List PlainReport} {write : PlainReport → Text}
    (written : ∀ plain : PlainReport, plain.toReport.Written spelling format (write plain)) :
    List.Forall₂ (fun report piece => report.Written spelling format piece)
      (plains.map PlainReport.toReport) (plains.map write) := by
  rw [List.forall₂_map_left_iff, List.forall₂_map_right_iff, List.forall₂_same]
  exact fun plain _ => written plain

theorem renderText_eq (reports : List Report) :
    renderText reports = (reports.map fun report =>
      (report.classNames ++ report.ids).flatMap fun selector =>
        report.path ++ Text.ofString "\t" ++ selector ++ Text.ofString "\n").flatten := by
  rw [renderText, List.flatMap_assoc, ← List.flatMap_def]
  exact List.flatMap_congr fun report _ => List.flatMap_map _ _ _

/-- What is printed for reports is all of them in their order, and nothing else. -/
theorem printed_of_print (json : encoder.WritesJson spelling)
    (printed : print encoder reports format = .ok output) :
    Printed spelling reports format output := by
  cases format with
  | text =>
      cases printed
      refine ⟨_, ?_, renderText_eq reports⟩
      rw [List.forall₂_map_right_iff, List.forall₂_same]
      exact fun _ _ => .text
  | json =>
      obtain ⟨s, encoded, rfl⟩ := map_eq_ok_iff.mp printed
      obtain ⟨plains, rfl, rfl⟩ := exists_plains_of_reports json encoded
      refine ⟨_, forall₂_written fun plain => .json rfl, ?_⟩
      rw [assemble, Json.layout_array, Text.ofString_append, Text.ofString_append,
        Text.ofString_append, Text.ofString_intercalate, List.map_map, List.map_map,
        List.append_assoc, ← Text.ofString_append "]"]
      rfl
  | jsonLines =>
      obtain ⟨s, encoded, rfl⟩ := map_eq_ok_iff.mp printed
      obtain ⟨objects, each, rfl⟩ := map_eq_ok_iff.mp encoded
      obtain ⟨plains, rfl, rfl⟩ := exists_plains_of_mapM json each
      refine ⟨_, forall₂_written fun plain => .jsonLines rfl, ?_⟩
      rw [assemble, Text.ofString_join, List.map_map, List.map_map]
      rfl

/-! ## Surrogates in the output -/

/-- What is printed of a report in a format has no surrogate in it. -/
def IsPrintable (report : Report) : ReportFormat → Prop
  | .text => ∀ line ∈ report.lines, line.IsScalar
  | .json | .jsonLines => report.IsWritable

/-- The path of a report is in its lines only if it has selectors. -/
theorem isPrintable_text_iff : report.IsPrintable .text ↔
    (report.lines ≠ [] → report.path.IsScalar) ∧
      ∀ selector ∈ report.classNames ++ report.ids, selector.IsScalar := by
  have line (selector : Text) : (report.path ++ Text.ofString "\t" ++ selector).IsScalar ↔
      report.path.IsScalar ∧ selector.IsScalar := by
    rw [Text.isScalar_append, Text.isScalar_append, and_iff_left (Text.isScalar_ofString "\t")]
  rw [IsPrintable, lines, List.forall_mem_map]
  simp only [line, ne_eq, List.map_eq_nil_iff]
  constructor
  · intro each
    refine ⟨fun some => ?_, fun selector member => (each selector member).2⟩
    obtain ⟨selector, member⟩ := List.exists_mem_of_ne_nil _ some
    exact (each selector member).1
  · rintro ⟨path, selectors⟩ selector member
    exact ⟨path (List.ne_nil_of_mem member), selectors selector member⟩

theorem isScalar_renderText_iff :
    (renderText reports).IsScalar ↔ ∀ report ∈ reports, report.IsPrintable .text := by
  rw [renderText, List.flatMap_def, Text.isScalar_flatten, List.forall_mem_map]
  simp only [Text.isScalar_append, and_iff_left (Text.isScalar_ofString "\n"),
    List.forall_mem_flatMap]
  rfl

/-- Reports are printed without a surrogate exactly when each of them is. -/
theorem exists_print_isScalar_iff (json : encoder.WritesJson spelling) :
    (∃ output, print encoder reports format = .ok output ∧ output.IsScalar) ↔
      ∀ report ∈ reports, report.IsPrintable format := by
  have plain (plains : List PlainReport) :
      ∀ report ∈ plains.map PlainReport.toReport, report.IsWritable := by
    intro report member
    obtain ⟨plain, _, rfl⟩ := List.mem_map.mp member
    exact exists_toReport_iff.mp ⟨plain, rfl⟩
  cases format with
  | text =>
      rw [← isScalar_renderText_iff]
      exact ⟨fun ⟨_, same, scalar⟩ => by cases same; exact scalar, fun scalar => ⟨_, rfl, scalar⟩⟩
  | json =>
      constructor
      · rintro ⟨_, printed, _⟩
        obtain ⟨_, encoded, _⟩ := map_eq_ok_iff.mp printed
        obtain ⟨plains, rfl, _⟩ := exists_plains_of_reports json encoded
        exact plain plains
      · intro writable
        obtain ⟨plains, rfl⟩ := exists_map_toReport writable
        exact ⟨_, map_eq_ok_iff.mpr ⟨_, json.reports plains, rfl⟩, Text.isScalar_ofString _⟩
  | jsonLines =>
      constructor
      · rintro ⟨_, printed, _⟩
        obtain ⟨_, encoded, _⟩ := map_eq_ok_iff.mp printed
        obtain ⟨_, each, _⟩ := map_eq_ok_iff.mp encoded
        obtain ⟨plains, rfl, _⟩ := exists_plains_of_mapM json each
        exact plain plains
      · intro writable
        obtain ⟨plains, rfl⟩ := exists_map_toReport writable
        have each := mapM_report_toReport json plains
        exact ⟨_, map_eq_ok_iff.mpr ⟨_, map_eq_ok_iff.mpr ⟨_, each, rfl⟩, rfl⟩,
          Text.isScalar_ofString _⟩

/-! ## The plain encoder -/

theorem toJson_ofString (s : String) : (Text.ofString s).toJson = .ok (.string s) := by
  rw [Text.toJson, writable_ofString]
  rfl

theorem mapM_toJson_ofString (strings : List String) :
    (strings.map Text.ofString).mapM Text.toJson = .ok (strings.map Json.string) := by
  rw [mapM_eq_ok_iff, List.forall₂_map_left_iff, List.forall₂_map_right_iff, List.forall₂_same]
  exact fun s _ => toJson_ofString s

theorem optionToJson_map_ofString (s : Option String) :
    Text.optionToJson (s.map .ofString) = .ok (.ofOption s) := by
  cases s with
  | none => rfl
  | some s => exact toJson_ofString s

theorem toJson_toReport (plain : PlainReport) : plain.toReport.toJson = .ok plain.toJson := by
  unfold toJson PlainReport.toReport
  rw [toJson_ofString, mapM_toJson_ofString, mapM_toJson_ofString, optionToJson_map_ofString]
  rfl

theorem isScalar_of_toJson {t : Text} {item : Json} (h : t.toJson = .ok item) : t.IsScalar := by
  obtain ⟨s, written, _⟩ := map_eq_ok_iff.mp h
  exact exists_writable_iff.mp ⟨s, written⟩

theorem isWritable_of_toJson {item : Json} (h : report.toJson = .ok item) : report.IsWritable := by
  have each {texts : List Text} {items : List Json} (h : texts.mapM Text.toJson = .ok items) :
      ∀ t ∈ texts, t.IsScalar := by
    intro t member
    obtain ⟨item, found⟩ := exists_mapM_eq_ok_iff.mp ⟨items, h⟩ t member
    exact isScalar_of_toJson found
  obtain ⟨_, path, h⟩ := bind_eq_ok_iff.mp h
  obtain ⟨_, classNames, h⟩ := bind_eq_ok_iff.mp h
  obtain ⟨_, ids, h⟩ := bind_eq_ok_iff.mp h
  obtain ⟨_, error, _⟩ := bind_eq_ok_iff.mp h
  refine ⟨isScalar_of_toJson path, List.forall_mem_append.mpr ⟨each classNames, each ids⟩, ?_⟩
  intro message member
  rw [Option.mem_def.mp member] at error
  exact isScalar_of_toJson error

theorem writesJson_plain : JsonEncoder.plain.WritesJson .plain where
  report plain := map_eq_ok_iff.mpr ⟨_, toJson_toReport plain, rfl⟩
  reports plains := by
    have each : (plains.map PlainReport.toReport).mapM toJson =
        .ok (plains.map PlainReport.toJson) := by
      rw [mapM_eq_ok_iff, List.forall₂_map_left_iff, List.forall₂_map_right_iff,
        List.forall₂_same]
      exact fun plain _ => toJson_toReport plain
    exact map_eq_ok_iff.mpr ⟨_, each, rfl⟩
  refusesReport report refused := by
    cases written : report.toJson with
    | ok item => exact absurd (isWritable_of_toJson written) refused
    | error e => exact ⟨e, map_eq_error_iff.mpr written⟩
  refusesReports reports := by
    rintro ⟨report, member, refused⟩
    cases written : reports.mapM toJson with
    | ok items =>
        obtain ⟨item, found⟩ := exists_mapM_eq_ok_iff.mp ⟨items, written⟩ report member
        exact absurd (isWritable_of_toJson found) refused
    | error e => exact ⟨e, map_eq_error_iff.mpr written⟩

end Report

end UsedSelectors
