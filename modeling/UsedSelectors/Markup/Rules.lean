import UsedSelectors.Markup.TableRules

/-!
# The rules of a document

What each token does in each insertion mode, and in foreign elements. A token that changes the mode
without being done with is looked at again.
-/

namespace UsedSelectors.Markup.Builder

def startTag (tag : Tag) (b : Builder) : Step :=
  match b.mode with
  | .initial => b.leaveInitial
  | .beforeHtml => b.startBeforeHtml tag
  | .beforeHead => b.startBeforeHead tag
  | .inHead => b.startInHead tag
  | .inHeadNoscript => b.startInHeadNoscript tag
  | .afterHead => b.startAfterHead tag
  | .inBody => .done (b.startInBody tag)
  | .text => .done b
  | .inTable => b.startInTable tag
  | .inTableText => .again b.flushTableText
  | .inCaption => b.startInCaption tag
  | .inColumnGroup => b.startInColumnGroup tag
  | .inTableBody => b.startInTableBody tag
  | .inRow => b.startInRow tag
  | .inCell => b.startInCell tag
  | .inTemplate => b.startInTemplate tag
  | .afterBody | .afterAfterBody =>
    if tag.name = "html" then .done (b.mergeRoot tag) else .again (b.goTo .inBody)
  | .inFrameset =>
    if tag.name = "html" then .done (b.mergeRoot tag)
    else if tag.name = "frameset" then .done (b.openTag tag)
    else if tag.name = "frame" then .done (b.insertVoid tag)
    else if tag.name = "noframes" then b.startInHead tag
    else .done b
  | .afterFrameset | .afterAfterFrameset =>
    if tag.name = "html" then .done (b.mergeRoot tag)
    else if tag.name = "noframes" then b.startInHead tag
    else .done b

def endTag (name : String) (b : Builder) : Step :=
  match b.mode with
  | .initial => b.leaveInitial
  | .beforeHtml => b.endBeforeHead leaveBeforeHtml name
  | .beforeHead => b.endBeforeHead leaveBeforeHead name
  | .inHead => b.endInHead name
  | .inHeadNoscript => b.endInHeadNoscript name
  | .afterHead => b.endAfterHead name
  | .inBody => b.endInBody name
  | .text => .done (b.closeCurrent.goTo b.modeAfterText)
  | .inTable => b.endInTable name
  | .inTableText => .again b.flushTableText
  | .inCaption => b.endInCaption name
  | .inColumnGroup => b.endInColumnGroup name
  | .inTableBody => b.endInTableBody name
  | .inRow => b.endInRow name
  | .inCell => b.endInCell name
  | .inTemplate => b.endInTemplate name
  | .afterBody => if name = "html" then .done (b.goTo .afterAfterBody) else .again (b.goTo .inBody)
  | .afterAfterBody => .again (b.goTo .inBody)
  | .inFrameset =>
    if name = "frameset" ∧ b.opened.length > 1 then
      let b := b.closeCurrent
      .done (if b.currentIs (named ["frameset"]) then b else b.goTo .afterFrameset)
    else .done b
  | .afterFrameset => .done (if name = "html" then b.goTo .afterAfterFrameset else b)
  | .afterAfterFrameset => .done b

def charInTableOrBody (c : Char) (b : Builder) : Step :=
  if b.currentIs (fun e => isTablePart e || e.isHtml ["template"]) then b.charInTable
  else .done (b.fosterWith (charInBody c))

def spaceOr (leave : Builder → Step) (c : Char) (b : Builder) : Step :=
  if isMarkupSpace c then .done b.insertText else leave b

def noSpaceOr (leave : Builder → Step) (c : Char) (b : Builder) : Step :=
  if isMarkupSpace c then .done b else leave b

def char (c : Char) (b : Builder) : Step :=
  match b.mode with
  | .initial => b.noSpaceOr leaveInitial c
  | .beforeHtml => b.noSpaceOr leaveBeforeHtml c
  | .beforeHead => b.noSpaceOr leaveBeforeHead c
  | .inHead => b.spaceOr leaveInHead c
  | .inHeadNoscript => b.spaceOr leaveInHeadNoscript c
  | .afterHead => b.spaceOr leaveAfterHead c
  | .inBody | .inCaption | .inCell | .inTemplate => .done (b.charInBody c)
  | .text => .done b.insertText
  | .inTable | .inTableBody | .inRow => b.charInTableOrBody c
  | .inTableText => .done (if c == '\x00' then b else { b with tableText := c :: b.tableText })
  | .inColumnGroup => b.spaceOr leaveColumnGroup c
  | .afterBody | .afterAfterBody =>
    if isMarkupSpace c then .done (b.charInBody c) else .again (b.goTo .inBody)
  | .inFrameset | .afterFrameset => .done (if isMarkupSpace c then b.insertText else b)
  | .afterAfterFrameset => .done (if isMarkupSpace c then b.charInBody c else b)

def comment (b : Builder) : Step :=
  match b.mode with
  | .initial | .beforeHtml | .afterAfterBody | .afterAfterFrameset =>
    .done (b.insertAt ⟨Dom.document, none⟩ .comment)
  | .afterBody =>
    .done (b.insertAt ⟨b.opened.getLast?.getD Dom.document, none⟩ .comment)
  | .inTableText => .again b.flushTableText
  | _ => .done b.insertComment

/-- A document type, in the current mode. It counts only at the beginning. -/
def doctype (d : Doctype) (b : Builder) : Step :=
  match b.mode with
  | .initial =>
    let b := b.insertAt ⟨Dom.document, none⟩ .doctype
    .done { b with quirks := d.isOld, mode := .beforeHtml }
  | .inTableText => .again b.flushTableText
  | _ => .done b

/-- The end of the document, in the current mode. What is missing is made, and templates that are
still open are closed. -/
def finish (b : Builder) : Step :=
  match b.mode with
  | .initial => b.leaveInitial
  | .beforeHtml => b.leaveBeforeHtml
  | .beforeHead => b.leaveBeforeHead
  | .inHead => b.leaveInHead
  | .inHeadNoscript => b.leaveInHeadNoscript
  | .afterHead => b.leaveAfterHead
  | .text => .again (b.closeCurrent.goTo b.modeAfterText)
  | .inTableText => .again b.flushTableText
  | .inBody | .inTable | .inCaption | .inColumnGroup | .inTableBody | .inRow | .inCell
  | .inTemplate =>
    if !b.templateModes.isEmpty && b.hasTemplate then .again b.closeTemplate else .done b
  | _ => .done b

/-! ## Foreign elements -/

def breaksOut (tag : Tag) : Bool :=
  ["b", "big", "blockquote", "body", "br", "center", "code", "dd", "div", "dl", "dt", "em",
    "embed", "h1", "h2", "h3", "h4", "h5", "h6", "head", "hr", "i", "img", "li", "listing", "menu",
    "meta", "nobr", "ol", "p", "pre", "ruby", "s", "small", "span", "strong", "strike", "sub",
    "sup", "table", "tt", "u", "ul", "var"].contains tag.name ||
  (tag.name == "font" &&
    tag.attributes.any (fun a => ["color", "face", "size"].contains a.name))

def leaveForeign (b : Builder) : Builder :=
  b.closeWhile (fun e => e.ns != .html && !e.isMathText && !e.isDocumentIsland)

def startInForeign (ns : Namespace) (tag : Tag) (b : Builder) : Step :=
  if breaksOut tag then b.leaveForeign.startTag tag
  else
    let b := b.openForeign ns tag
    .done (if tag.selfClosing then b.closeCurrent else b)

/-- Closes foreign elements by an end tag; one that is for an element of a document is left to the
mode. -/
def closeForeign (name : String) (b : Builder) : List NodeId → Step
  | [] => .done b
  | id :: rest =>
    match b.dom.element? id with
    | none => .done b
    | some e =>
      if e.ns == .html then b.endTag name
      else if e.name == name then
        .done { b with opened := (b.opened.dropWhile (· != id)).drop 1 }
      else b.closeForeign name rest

def endInForeign (name : String) (b : Builder) : Step :=
  if name = "br" ∨ name = "p" then b.leaveForeign.endTag name else b.closeForeign name b.opened

def charInForeign (c : Char) (b : Builder) : Builder :=
  let b := b.insertText
  if c == '\x00' || isMarkupSpace c then b else b.withoutFrameset

/-! ## Tokens -/

inductive Piece where
  | char (c : Char)
  | startTag (tag : Tag)
  | endTag (name : String)
  | comment
  | doctype (d : Doctype)
  | finish

def foreign? (piece : Piece) (b : Builder) : Option ElementData :=
  match b.opened.head?.bind b.dom.element? with
  | none => none
  | some e =>
    let byMode :=
      match piece with
      | .finish => true
      | .char _ => e.isMathText || e.isDocumentIsland
      | .startTag tag =>
        (e.isMathText && tag.name != "mglyph" && tag.name != "malignmark") ||
          (e.ns == .math && e.name == "annotation-xml" && tag.name == "svg") ||
          e.isDocumentIsland
      | _ => false
    if e.ns == .html || byMode then none else some e

def take (piece : Piece) (b : Builder) : Step :=
  match b.foreign? piece, piece with
  | some _, .char c => .done (b.charInForeign c)
  | some e, .startTag tag => b.startInForeign e.ns tag
  | some _, .endTag name => b.endInForeign name
  | some _, .comment => .done b.insertComment
  | some _, .doctype _ => .done b
  | some _, .finish => .done b
  | none, .char c => b.char c
  | none, .startTag tag => b.startTag tag
  | none, .endTag name => b.endTag name
  | none, .comment => b.comment
  | none, .doctype d => b.doctype d
  | none, .finish => b.finish

def takeAgain (piece : Piece) : Nat → Builder → Builder
  | 0, b => b
  | times + 1, b =>
    match b.take piece with
    | .done b => b
    | .again b => b.takeAgain piece times

/-- What a piece does. Each time it is looked at again an element is closed or one of the steps
from the beginning of a document to a cell is made, so the number of times is bounded. -/
def feed (piece : Piece) (b : Builder) : Builder :=
  b.takeAgain piece (b.opened.length + b.templateModes.length + 32)

/-- What a character does; a line feed at the beginning of preformatted text is left out. -/
def feedChar (b : Builder) (c : Char) : Builder :=
  if b.skipsLineFeed then
    let b := { b with skipsLineFeed := false }
    if c == '\n' then b else b.feed (.char c)
  else b.feed (.char c)

def feedToken (token : Token) (b : Builder) : Builder :=
  match token with
  | .text cs => cs.foldl feedChar b
  | .startTag tag => feed (.startTag tag) { b with skipsLineFeed := false, content := .data }
  | .endTag name => feed (.endTag name) { b with skipsLineFeed := false, content := .data }
  | .comment => feed .comment { b with skipsLineFeed := false }
  | .doctype d => feed (.doctype d) { b with skipsLineFeed := false }

def isInForeign (b : Builder) : Bool := b.currentIs (fun e => e.ns != .html)

def read (b : Builder) : List Char → Builder
  | [] => b.feed .finish
  | c :: rest =>
    let found := Tokenizer.next b.content b.isInForeign c rest
    read (b.feedToken found.1) (rest.drop found.2)
termination_by cs => cs.length
decreasing_by simp only [List.length_drop, List.length_cons]; omega

end UsedSelectors.Markup.Builder
