import UsedSelectors.Proofs.Json.Reader
import UsedSelectors.Proofs.Report.Printed
import UsedSelectors.Proofs.Text.Pieces

/-!
# Reports that are read back

A report is read back from its JSON object by the names of the members, all of which have to be
there. As no line feed is written inside an object, the lines of the output are those of the
reports, and both formats are read back as the reports that were written.
-/

namespace UsedSelectors

open Attempts

namespace Report

def ofJson? (value : Json) : Option Report := do
  let path ← (← value.member? "path").asString?
  let mode ← (← value.member? "mode").asOption?
  let classNames ← (← (← value.member? "class_names").asItems?).mapM Json.asString?
  let ids ← (← (← value.member? "ids").asItems?).mapM Json.asString?
  let error ← (← value.member? "error").asOption?
  return PlainReport.toReport ⟨path, mode, classNames, ids, error⟩

/-- The reports of an output in lines. A line feed has to follow each line. -/
def ofLines? (output : String) : Option (List Report) :=
  match (pieces '\n' output.toList).reverse with
  | [] :: lines => lines.reverse.mapM fun line => (Json.read? (String.ofList line)).bind ofJson?
  | _ => none

def ofArray? (output : String) : Option (List Report) :=
  (Json.read? output).bind fun value => value.asItems?.bind fun items => items.mapM ofJson?

theorem mapM_asString?_map_string (strings : List String) :
    (strings.map Json.string).mapM Json.asString? = some strings := by
  induction strings with
  | nil => rfl
  | cons s strings ih =>
      rw [List.map_cons, List.mapM_cons, ih]
      rfl

theorem ofJson?_toJson (plain : PlainReport) : ofJson? plain.toJson = some plain.toReport := by
  have members : plain.toJson.member? "path" = some (.string plain.path) ∧
      plain.toJson.member? "mode" = some (.ofOption plain.mode) ∧
      plain.toJson.member? "class_names" = some (.array (plain.classNames.map .string)) ∧
      plain.toJson.member? "ids" = some (.array (plain.ids.map .string)) ∧
      plain.toJson.member? "error" = some (.ofOption plain.error) := ⟨rfl, rfl, rfl, rfl, rfl⟩
  obtain ⟨path, mode, classNames, ids, error⟩ := members
  rw [ofJson?, path, mode, classNames, ids, error]
  simp only [Option.bind_eq_bind, Option.bind_some, Json.asString?, Json.asItems?,
    Json.asOption?_ofOption, mapM_asString?_map_string]
  rfl

theorem mapM_ofJson?_toJson (plains : List PlainReport) :
    (plains.map PlainReport.toJson).mapM ofJson? = some (plains.map PlainReport.toReport) := by
  apply mapM_eq_some_of_forall₂
  rw [List.forall₂_map_left_iff, List.forall₂_map_right_iff, List.forall₂_same]
  exact fun plain _ => ofJson?_toJson plain

/-! ## Lines -/

/-- A line that is the JSON object of a report, with all its members. -/
structure IsLineOf (report : Report) (line : String) : Prop where
  noLineFeed : '\n' ∉ line.toList
  object : ∃ members, Json.read? line = some (.object members) ∧
    members.map Prod.fst = ["path", "mode", "class_names", "ids", "error"] ∧
      ofJson? (.object members) = some report

variable {reports : List Report} {lines : List String} {encoder : JsonEncoder}
  {spelling : Json.Spelling}

theorem isLineOf_layout (plain : PlainReport) :
    plain.toReport.IsLineOf (plain.toJson.layout spelling.spell) where
  noLineFeed := Json.lineFeed_notMem_layout spelling.clean plain.toJson
  object := ⟨_, Json.read?_layout spelling plain.toJson, rfl, ofJson?_toJson plain⟩

theorem toList_join_lines (lines : List String) :
    (String.join (lines.map (· ++ "\n"))).toList =
      (lines.map String.toList).flatMap (· ++ ['\n']) := by
  induction lines with
  | nil => rfl
  | cons line lines ih =>
      rw [List.map_cons, String.join_cons, String.toList_append, ih, String.toList_append,
        List.map_cons, List.flatMap_cons]
      rfl

theorem count_join_lines (each : List.Forall₂ IsLineOf reports lines) :
    (String.join (lines.map (· ++ "\n"))).toList.count '\n' = reports.length := by
  rw [toList_join_lines]
  induction each with
  | nil => rfl
  | cons first _ ih =>
      rw [List.map_cons, List.flatMap_cons, List.count_append, ih, List.count_append,
        List.count_eq_zero.mpr first.noLineFeed, List.length_cons]
      simp [Nat.add_comm]

theorem ofLines?_join (each : List.Forall₂ IsLineOf reports lines) :
    ofLines? (String.join (lines.map (· ++ "\n"))) = some reports := by
  have clean : ∀ line ∈ lines.map String.toList, '\n' ∉ line := by
    intro line member
    obtain ⟨whole, isLine, rfl⟩ := List.mem_map.mp member
    obtain ⟨report, _, isLineOf⟩ := exists_mem_of_forall₂ each isLine
    exact isLineOf.noLineFeed
  -- The last piece is what follows the last line feed, and that is nothing.
  rw [ofLines?, toList_join_lines, pieces_flatMap clean, List.reverse_append,
    List.reverse_singleton, List.singleton_append]
  dsimp only
  rw [List.reverse_reverse]
  apply mapM_eq_some_of_forall₂
  rw [List.forall₂_map_right_iff]
  refine each.imp fun report line isLine => ?_
  obtain ⟨members, read, _, back⟩ := isLine.object
  rw [String.ofList_toList, read, Option.bind_some, back]

/-! ## Both formats -/

theorem forall₂_isLineOf (spelling : Json.Spelling) (plains : List PlainReport) :
    List.Forall₂ IsLineOf (plains.map PlainReport.toReport)
      (plains.map fun plain => plain.toJson.layout spelling.spell) := by
  rw [List.forall₂_map_left_iff, List.forall₂_map_right_iff, List.forall₂_same]
  exact fun plain _ => isLineOf_layout plain

theorem ofLines?_of_lines (json : encoder.WritesJson spelling) {output : String}
    (h : encoder.lines reports = .ok output) : ofLines? output = some reports := by
  obtain ⟨objects, each, rfl⟩ := map_eq_ok_iff.mp h
  obtain ⟨plains, rfl, rfl⟩ := exists_plains_of_mapM json each
  exact ofLines?_join (forall₂_isLineOf spelling plains)

theorem ofArray?_of_reports (json : encoder.WritesJson spelling) {output : String}
    (h : encoder.reports reports = .ok output) : ofArray? output = some reports := by
  obtain ⟨plains, rfl, rfl⟩ := exists_plains_of_reports json h
  rw [ofArray?, Json.read?_layout, Option.bind_some, Json.asItems?, Option.bind_some]
  exact mapM_ofJson?_toJson plains

/--
Reports that can be written have a line each, from which they are read back. The lines, each with a
line feed after it, are the one output and, with commas between them and in brackets, the other.
Both are read back as the reports, so no other reports have one of them.
-/
theorem encode_lossless (json : encoder.WritesJson spelling)
    (writable : ∀ report ∈ reports, report.IsWritable) :
    ∃ lines, List.Forall₂ IsLineOf reports lines ∧
      encoder.lines reports = .ok (String.join (lines.map (· ++ "\n"))) ∧
      (String.join (lines.map (· ++ "\n"))).toList.count '\n' = reports.length ∧
      ofLines? (String.join (lines.map (· ++ "\n"))) = some reports ∧
      encoder.reports reports = .ok ("[" ++ ",".intercalate lines ++ "]") ∧
      ofArray? ("[" ++ ",".intercalate lines ++ "]") = some reports ∧
      ∀ other, (encoder.lines other = encoder.lines reports → other = reports) ∧
        (encoder.reports other = encoder.reports reports → other = reports) := by
  obtain ⟨plains, rfl⟩ := exists_map_toReport writable
  have each := forall₂_isLineOf spelling plains
  have inLines : encoder.lines (plains.map PlainReport.toReport) = .ok (String.join
      ((plains.map fun plain => plain.toJson.layout spelling.spell).map (· ++ "\n"))) :=
    map_eq_ok_iff.mpr ⟨_, mapM_report_toReport json plains, rfl⟩
  have inArray : encoder.reports (plains.map PlainReport.toReport) =
      .ok ("[" ++ ",".intercalate (plains.map fun plain => plain.toJson.layout spelling.spell) ++
        "]") := by
    rw [json.reports, Json.layout_array, List.map_map]
    rfl
  refine ⟨_, each, inLines, count_join_lines each, ofLines?_of_lines json inLines, inArray,
    ofArray?_of_reports json inArray, fun other => ?_⟩
  constructor
  · intro same
    have read := ofLines?_of_lines json (same.trans inLines)
    exact Option.some.inj (read.symm.trans (ofLines?_of_lines json inLines))
  · intro same
    have read := ofArray?_of_reports json (same.trans inArray)
    exact Option.some.inj (read.symm.trans (ofArray?_of_reports json inArray))

/-! ## Reports with characters that are escaped -/

/-- A report without a mode whose path is on two lines, and one of a selector with quotes. -/
def escapedReports : List Report :=
  [⟨.ofString "a\n\"b\".txt", none, [], [], some (.ofString "unknown file extension")⟩,
    ⟨.ofString "c\\d.html", some "markup", [.ofString ".\u2028", []], [.ofString "#\"\t\x01"],
      none⟩]

theorem encode_lossless_escapedReports :
    JsonEncoder.plain.WritesJson .plain ∧ (∀ report ∈ escapedReports, report.IsWritable) ∧
      ∃ lines, List.Forall₂ IsLineOf escapedReports lines ∧
        JsonEncoder.plain.lines escapedReports = .ok (String.join (lines.map (· ++ "\n"))) ∧
        JsonEncoder.plain.reports escapedReports = .ok ("[" ++ ",".intercalate lines ++ "]") := by
  have writable : ∀ report ∈ escapedReports, report.IsWritable := by
    refine List.forall_mem_cons.mpr ⟨⟨by decide, by decide, by decide⟩,
      List.forall_mem_cons.mpr ⟨⟨by decide, by decide, by decide⟩, List.forall_mem_nil _⟩⟩
  obtain ⟨lines, each, inLines, _, _, inArray, _⟩ := encode_lossless writesJson_plain writable
  exact ⟨writesJson_plain, writable, lines, each, inLines, inArray⟩

end Report

end UsedSelectors
