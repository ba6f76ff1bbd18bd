import UsedSelectors.Extraction
import UsedSelectors.Report
import UsedSelectors.Settings

/-!
# Command line arguments

Arguments are switches with and without a value, and paths. A switch may be shortened as long as it
can be told from the others, and its value may be attached to it with `=`. The paths are the first
arguments in a row that are no switches; `--` ends the switches. Which of its arguments a command
line is refused for is part of what it does: first those that could be more than one switch, then
the others in their order, then that there are no paths, then what is left over.

An argument is a text, as what the bytes of a file name stand for may be no string.
-/

namespace UsedSelectors.CommandLine

inductive Switch where
  | help
  | mode
  | kind
  | format
  | verbose
  deriving DecidableEq

namespace Switch

def all : List Switch := [help, mode, kind, format, verbose]

def longName : Switch → String
  | help => "--help"
  | mode => "--mode"
  | kind => "--kind"
  | format => "--format"
  | verbose => "--verbose"

def shownName : Switch → String
  | help => "-h/--help"
  | switch => switch.longName

end Switch

def kindChoices : List (String × KindChoice) :=
  [("all", .all), ("class", .only .className), ("id", .only .ident)]

def formatChoices : List (String × ReportFormat) :=
  [("text", .text), ("json", .json), ("jsonl", .jsonLines)]

/-- The values that a switch can have; one without values stands alone. -/
def Switch.choices : Switch → List String
  | mode => ModeChoice.names
  | kind => kindChoices.map Prod.fst
  | format => formatChoices.map Prod.fst
  | help | verbose => []

inductive UsageError where
  /-- An argument can be short for several switches. -/
  | ambiguous (argument : Text) (names : List String)
  /-- A switch that stands alone has a value. -/
  | ignoredValue (switch : Switch) (value : Text)
  | missingValue (switch : Switch)
  | invalidChoice (switch : Switch) (value : Text)
  | noPaths
  | unrecognized (arguments : List Text)
  deriving DecidableEq

def UsageError.message : UsageError → Text
  | ambiguous argument names =>
    Text.ofString "ambiguous option: " ++ argument ++
      Text.ofString (" could match " ++ ", ".intercalate names)
  | ignoredValue switch value =>
    Text.ofString s!"argument {switch.shownName}: ignored explicit argument " ++ value.quoted
  | missingValue switch => Text.ofString s!"argument {switch.shownName}: expected one argument"
  | invalidChoice switch value =>
    Text.ofString s!"argument {switch.shownName}: invalid choice: " ++ value.quoted ++
      Text.ofString (" (choose from " ++ ", ".intercalate (switch.choices.map quoted) ++ ")")
  | noPaths => Text.ofString "the following arguments are required: paths"
  | unrecognized arguments =>
    Text.ofString "unrecognized arguments: " ++ (Text.ofString " ").intercalate arguments

inductive Token where
  | operand (text : Text)
  | separator
  | switch (switch : Switch) (value : Option Text)
  /-- The short form of the help switch with more letters after it. -/
  | shortHelp (letters : Text)
  | unknown (text : Text)
  deriving DecidableEq

namespace Token

/-- The characters of an argument, where every surrogate counts as one that means nothing. -/
def chars (text : Text) : List Char := text.map fun c => c.toChar?.getD '\uFFFD'

def areDigits (cs : List Char) : Bool := cs.all (fun c => (digitValue? c).isSome)

/-- Whether characters after a minus make a number: digits, with at most one dot in front of the
last of them. -/
def isMagnitude (cs : List Char) : Bool :=
  match pieces '.' cs with
  | [whole] => !whole.isEmpty && areDigits whole
  | [whole, fraction] => areDigits whole && !fraction.isEmpty && areDigits fraction
  | _ => false

def isNumber (cs : List Char) : Bool :=
  isMagnitude cs || (cs.getLast? == some '\n' && isMagnitude cs.dropLast)

/-- An argument that begins with a minus and names no switch. Numbers and texts with spaces can
still be paths. -/
def ofDashed (text : Text) : Token :=
  if isNumber (chars text).tail || (chars text).contains ' ' then operand text else unknown text

def ofLong (text : Text) : Except UsageError Token :=
  let name := (chars text).takeWhile (· != '=')
  let value := if name.length < text.length then some (text.drop (name.length + 1)) else none
  match Switch.all.filter (fun s => name.isPrefixOf s.longName.toList) with
  | [] => .ok (ofDashed text)
  | [s] => .ok (switch s value)
  | several => .error (.ambiguous text (several.map Switch.longName))

def ofArgument (text : Text) : Except UsageError Token :=
  match chars text with
  | ['-'] => .ok (operand text)
  | '-' :: '-' :: _ => ofLong text
  | ['-', 'h'] => .ok (switch .help none)
  | '-' :: 'h' :: '=' :: _ => .ok (switch .help (some (text.drop 3)))
  | '-' :: 'h' :: _ => .ok (shortHelp (text.drop 2))
  | '-' :: _ => .ok (ofDashed text)
  | _ => .ok (operand text)

/-- What arguments are taken for. After the mark that ends the switches all are operands. -/
def ofArguments : List Text → Except UsageError (List Token)
  | [] => .ok []
  | argument :: rest =>
    if argument = Text.ofString "--" then .ok (separator :: rest.map operand)
    else do
      let first ← ofArgument argument
      let others ← ofArguments rest
      return first :: others

end Token

/-- The value that is attached to the help switch at the end of a row of its short forms. -/
def attachedToHelp? : Text → Option Text
  | [] => none
  | c :: letters =>
    if c = .ofChar 'h' then
      if letters.head? = some (.ofChar '=') then some letters.tail else attachedToHelp? letters
    else if c = .ofChar '-' then some (c :: letters)
    else none

structure Arguments where
  paths : List Text
  mode : Option ModeChoice
  kind : KindChoice
  format : ReportFormat
  verbose : Bool
  deriving DecidableEq

inductive Stop where
  | help
  | refused (error : UsageError)
  deriving DecidableEq

inductive PathsPhase where
  | before
  | inside
  | after
  deriving DecidableEq

structure Progress where
  arguments : Arguments
  phase : PathsPhase
  leftOver : List Text
  deriving DecidableEq

namespace Progress

def initial : Progress := ⟨⟨[], none, .all, .text, false⟩, .before, []⟩

def addOperand (text : Text) (progress : Progress) : Progress :=
  if progress.phase = .after then { progress with leftOver := progress.leftOver ++ [text] }
  else
    { progress with
      arguments := { progress.arguments with paths := progress.arguments.paths ++ [text] }
      phase := .inside }

def addSeparator (progress : Progress) : Progress :=
  if progress.phase = .after then
    { progress with leftOver := progress.leftOver ++ [Text.ofString "--"] }
  else progress

def endPaths (progress : Progress) : Progress :=
  if progress.phase = .inside then { progress with phase := .after } else progress

def addUnknown (text : Text) (progress : Progress) : Progress :=
  let ended := progress.endPaths
  { ended with leftOver := ended.leftOver ++ [text] }

def choose (switch : Switch) (value : Text) (progress : Progress) : Except Stop Progress :=
  let ended := progress.endPaths
  let invalid := Stop.refused (.invalidChoice switch value)
  let name := value.toString?.getD ""
  match switch with
  | .mode =>
    if name ∈ ModeChoice.names then
      .ok { ended with arguments := { ended.arguments with mode := some (.ofName name) } }
    else .error invalid
  | .kind =>
    match kindChoices.lookup name with
    | some kind => .ok { ended with arguments := { ended.arguments with kind } }
    | none => .error invalid
  | .format =>
    match formatChoices.lookup name with
    | some format => .ok { ended with arguments := { ended.arguments with format } }
    | none => .error invalid
  | .help | .verbose => .error (.refused (.ignoredValue switch value))

def read (progress : Progress) : List Token → Except Stop Progress
  | [] => .ok progress
  | .operand text :: rest => (progress.addOperand text).read rest
  | .separator :: rest => progress.addSeparator.read rest
  | .unknown text :: rest => (progress.addUnknown text).read rest
  | .shortHelp letters :: _ =>
    match attachedToHelp? letters with
    | some value => .error (.refused (.ignoredValue .help value))
    | none => .error .help
  | .switch s (some value) :: rest => do
    let next ← progress.choose s value
    next.read rest
  | .switch .help none :: _ => .error .help
  | .switch .verbose none :: rest =>
    let ended := progress.endPaths
    { ended with arguments := { ended.arguments with verbose := true } }.read rest
  | .switch s none :: .operand value :: rest => do
    let next ← progress.choose s value
    next.read rest
  | .switch s none :: _ => .error (.refused (.missingValue s))

def finish (progress : Progress) : Except Stop Arguments :=
  if progress.phase = .before then .error (.refused .noPaths)
  else if progress.leftOver = [] then .ok progress.arguments
  else .error (.refused (.unrecognized progress.leftOver))

end Progress

def Arguments.ofList (arguments : List Text) : Except Stop Arguments := do
  let tokens ← (Token.ofArguments arguments).mapError Stop.refused
  let progress ← Progress.initial.read tokens
  progress.finish

/-! ## Usage and help -/

def toolName : String := "selector-extractor"

def usageLines : List String := [
  "usage: " ++ toolName ++ " [-h] [--mode \x7bauto,markup,component\x7d]",
  "                          [--kind \x7ball,class,id\x7d] [--format \x7btext,json,jsonl\x7d]",
  "                          [--verbose]",
  "                          paths [paths ...]"]

def helpLines : List String := [
  "",
  "List CSS class and id selectors used in HTML and JSX sources",
  "",
  "positional arguments:",
  "  paths                 Source files or directories (searched recursively)",
  "",
  "options:",
  "  -h, --help            show this help message and exit",
  "  --mode \x7bauto,markup,component\x7d",
  "                        Source dialect (default: auto, by file extension)",
  "  --kind \x7ball,class,id\x7d",
  "                        Selector kinds to extract (default: all)",
  "  --format \x7btext,json,jsonl\x7d",
  "                        Output format (default: text)",
  "  --verbose             Enable debug logging"]

def ofLines (lines : List String) : String := String.join (lines.map (· ++ "\n"))

def helpText : String := ofLines (usageLines ++ helpLines)

def UsageError.text (error : UsageError) : Text :=
  Text.ofString (ofLines usageLines ++ toolName ++ ": error: ") ++ error.message ++
    Text.ofString "\n"

end UsedSelectors.CommandLine
