import UsedSelectors.Encoding.Codec

/-!
# Reports

What is reported about one file, and how reports are printed: as one JSON array, as JSON objects
one to a line, or as lines of text with a path and one selector each. The JSON is that of an
encoder.
-/

namespace UsedSelectors

open Encoding

structure Report where
  path : Text
  mode : Option String
  classNames : List Text
  ids : List Text
  error : Option Text
  deriving DecidableEq

inductive ReportFormat where
  | text
  | json
  | jsonLines
  deriving DecidableEq

/-- What writes reports as JSON: one of them as an object, or all of them as an array. -/
structure JsonEncoder where
  report : Report → Except EncodeError String
  reports : List Report → Except EncodeError String

def JsonEncoder.lines (encoder : JsonEncoder) (reports : List Report) :
    Except EncodeError String :=
  (reports.mapM encoder.report).map fun objects => String.join (objects.map (· ++ "\n"))

namespace Report

/-- The lines of a report: its path, a tab and a selector, classes before ids. -/
def lines (report : Report) : List Text :=
  (report.classNames ++ report.ids).map
    (fun selector => report.path ++ Text.ofString "\t" ++ selector)

def renderText (reports : List Report) : Text :=
  (reports.flatMap lines).flatMap (fun line => line ++ Text.ofString "\n")

/-- Reports in a format, as they are printed. Whether the text can be written is not asked here. -/
def print (encoder : JsonEncoder) (reports : List Report) :
    ReportFormat → Except EncodeError Text
  | .text => .ok (renderText reports)
  | .json => (encoder.reports reports).map fun s => Text.ofString (s ++ "\n")
  | .jsonLines => (encoder.lines reports).map Text.ofString

end Report

end UsedSelectors
