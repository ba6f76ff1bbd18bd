import UsedSelectors.Encoding.Charset
import UsedSelectors.Extraction
import UsedSelectors.Files.SourceText
import UsedSelectors.Log
import UsedSelectors.Report
import UsedSelectors.Settings

/-!
# Reports on files

The report on a file and the records that are logged about it. A file that is left out or breaks
the grammar of its mode still has a report, with an error in place of selectors and a record that
names the path. How documents and scripts are read, which other encodings there are, what writes
JSON and where the output goes is up to a host.
-/

/-! ## Hosts -/

namespace UsedSelectors

structure Host where
  readers : Readers
  registry : Encoding.Registry
  encoder : JsonEncoder
  stdout : Encoding.Stream

/-! ## Outcomes -/

def SelectorKind.name : SelectorKind → String
  | className => "class"
  | ident => "id"

inductive FileFault where
  /-- The file is not read, for a reason that is no reason to leave it out. -/
  | read (error : ReadError)
  | mode (error : UnknownMode)
  /-- The trees of the file fail, though it follows the grammar. -/
  | component (failure : Component.Failure)
  deriving DecidableEq

def FileFault.message : FileFault → Text
  | read error => error.message
  | mode error => Text.ofString error.message
  | component failure => Text.ofString failure.message

structure FileOutcome where
  report : Report
  records : List Log.Record
  deriving DecidableEq

namespace FileOutcome

def runLogger : String := "selector_extractor.cli"

def extractionLogger : String := "selector_extractor.core.extractor"

def componentLogger : String := "selector_extractor.sources.component"

def treeRecords (source : TreeSource) (contents : Text) : List Log.Record :=
  match source.mode, source.roots contents with
  | .component, .ok roots =>
    [⟨.debug, componentLogger, Text.ofString s!"Found {roots.length} exported JSX root(s)"⟩]
  | _, _ => []

/-- What is said of the selectors of a source. Nothing is said where both kinds are asked for. -/
def selectorRecords (mode : Mode) (choice : KindChoice) (extraction : Extraction) :
    List Log.Record :=
  match choice with
  | .all => []
  | .only kind =>
    let count := extraction.classNames.length + extraction.ids.length
    [⟨.debug, extractionLogger, Text.ofString
      s!"Extracted {count} {kind.name} selector(s) in {mode.name} mode"⟩]

def extracted (path : Path) (mode : Mode) (extraction : Extraction)
    (records : List Log.Record) : FileOutcome :=
  ⟨⟨path.text, some mode.name, extraction.classNames, extraction.ids, none⟩, records⟩

def skipped (path : Path) (mode : Option String) (error reason : Text) : FileOutcome :=
  ⟨⟨path.text, mode, [], [], some error⟩, [⟨.warning, runLogger,
    Text.ofString "Skipping " ++ path.text ++ Text.ofString ": " ++ reason⟩]⟩

def unknownExtension (path : Path) : FileOutcome :=
  skipped path none (Text.ofString "unknown file extension")
    (Text.ofString "unknown extension, pass --mode")

def unread (path : Path) (mode : String) (error : ReadError) : FileOutcome :=
  skipped path mode error.message error.message

def failed (path : Path) (mode : Mode) (error : ParseError) : FileOutcome :=
  ⟨⟨path.text, some mode.name, [], [], some (Text.ofString error.message)⟩, [⟨.error, runLogger,
    Text.ofString "Extraction failed for " ++ path.text ++ Text.ofString (": " ++ error.message)⟩]⟩

def ofContents (path : Path) (source : TreeSource) (choice : KindChoice) (contents : Text) :
    Except FileFault FileOutcome :=
  match source.extractChoice choice contents with
  | .ok extraction =>
    .ok (extracted path source.mode extraction
      (treeRecords source contents ++ selectorRecords source.mode choice extraction))
  | .error (.parse error) => .ok (failed path source.mode error)
  | .error failure => .error (.component failure)

end FileOutcome

def Settings.modeOf? (settings : Settings) (path : Path) : Option String :=
  match settings.mode.value with
  | .byExtension => (Mode.ofPath? path).map Mode.name
  | .named name => some name

namespace FileSystem

/-- What comes of a file. The name of the mode is looked at only when the file has been read. -/
def extractFile (system : FileSystem) (host : Host) (settings : Settings) (choice : KindChoice)
    (path : Path) : Except FileFault FileOutcome :=
  match settings.modeOf? path with
  | none => .ok (.unknownExtension path)
  | some name =>
    match system.sourceText host.registry path settings.maxFileBytes.value
      settings.encoding.value with
    | .error error =>
      if error.isSkipped then .ok (.unread path name error) else .error (.read error)
    | .ok contents =>
      match Mode.ofName name with
      | .error error => .error (.mode error)
      | .ok mode => FileOutcome.ofContents path (host.readers.source mode) choice contents

end FileSystem

end UsedSelectors
