import UsedSelectors.Markup.Tokenizer
import UsedSelectors.Markup.Vocabulary

/-!
# The state of reading a document

Besides the nodes there are the open elements, innermost first, the open formatting elements, which
are opened again where a block cuts them off, and the insertion mode, which says what the document
may go on with.
-/

namespace UsedSelectors.Markup

inductive InsertionMode where
  | initial
  | beforeHtml
  | beforeHead
  | inHead
  | inHeadNoscript
  | afterHead
  | inBody
  | text
  | inTable
  | inTableText
  | inCaption
  | inColumnGroup
  | inTableBody
  | inRow
  | inCell
  | inTemplate
  | afterBody
  | inFrameset
  | afterFrameset
  | afterAfterBody
  | afterAfterFrameset
  deriving DecidableEq, Inhabited

inductive FormattingEntry where
  | element (id : NodeId)
  | marker
  deriving DecidableEq, Inhabited

structure Builder where
  dom : Dom
  mode : InsertionMode
  modeAfterText : InsertionMode
  /-- The modes of the open templates, innermost first. -/
  templateModes : List InsertionMode
  /-- The open elements, innermost first. -/
  opened : List NodeId
  /-- The formatting elements, last one first. -/
  formatting : List FormattingEntry
  head : Option NodeId
  form : Option NodeId
  framesetOk : Bool
  fostering : Bool
  quirks : Bool
  /-- The text inside a table that is still to be put somewhere, last character first. -/
  tableText : List Char
  skipsLineFeed : Bool
  content : ContentModel
  deriving Inhabited

namespace Builder

def initial : Builder where
  dom := .empty
  mode := .initial
  modeAfterText := .initial
  templateModes := []
  opened := []
  formatting := []
  head := none
  form := none
  framesetOk := true
  fostering := false
  quirks := false
  tableText := []
  skipsLineFeed := false
  content := .data

def check (b : Builder) (test : ElementData → Bool) (id : NodeId) : Bool :=
  (b.dom.element? id).any test

def currentIs (b : Builder) (test : ElementData → Bool) : Bool := b.opened.head?.any (b.check test)

def findsBefore (b : Builder) (bound target : ElementData → Bool) : List NodeId → Bool
  | [] => false
  | id :: rest =>
    if b.check target id then true
    else if b.check bound id then false
    else b.findsBefore bound target rest

def hasOpen (b : Builder) (bound : ElementData → Bool) (names : List String) : Bool :=
  b.findsBefore bound (named names) b.opened

def inScope (b : Builder) : List String → Bool := b.hasOpen ElementData.boundsScope

def hasParagraph (b : Builder) : Bool := b.hasOpen ElementData.boundsButtonScope ["p"]

def inTableScope (b : Builder) : List String → Bool := b.hasOpen ElementData.boundsTableScope

def hasTemplate (b : Builder) : Bool := b.opened.any (b.check (named ["template"]))

def closeWhile (test : ElementData → Bool) (b : Builder) : Builder :=
  { b with opened := b.opened.dropWhile (b.check test) }

def closeThrough (test : ElementData → Bool) (b : Builder) : Builder :=
  { b with opened := (b.opened.dropWhile (fun id => !b.check test id)).drop 1 }

def closeCurrent (b : Builder) : Builder := { b with opened := b.opened.drop 1 }

def closeImplied (kept : List String) (b : Builder) : Builder :=
  b.closeWhile (fun e => e.endsImplicitly && !kept.contains e.name)

def closeElement (names : List String) (b : Builder) : Builder :=
  (b.closeImplied []).closeThrough (named names)

def closeParagraph (b : Builder) : Builder :=
  if b.hasParagraph then (b.closeImplied ["p"]).closeThrough (named ["p"]) else b

def fosterPlace (b : Builder) : List NodeId → Place
  | [] => ⟨b.dom.containerOf Dom.document, none⟩
  | [id] => ⟨b.dom.containerOf id, none⟩
  | id :: outer :: rest =>
    if b.check (named ["template"]) id then ⟨b.dom.containerOf id, none⟩
    else if b.check (named ["table"]) id then
      match b.dom.parent? id with
      | some parent => ⟨parent, some id⟩
      | none => ⟨b.dom.containerOf outer, none⟩
    else b.fosterPlace (outer :: rest)

def isTablePart : ElementData → Bool := named ["table", "tbody", "tfoot", "thead", "tr"]

def placeIn (b : Builder) (target : NodeId) : Place :=
  if b.fostering && b.check isTablePart target then b.fosterPlace b.opened
  else ⟨b.dom.containerOf target, none⟩

def place (b : Builder) : Place := b.placeIn (b.opened.head?.getD Dom.document)

def insertAt (place : Place) (kind : DomKind) (b : Builder) : Builder :=
  let added := b.dom.add kind
  { b with dom := added.2.put place added.1 }

def insertComment (b : Builder) : Builder := b.insertAt b.place .comment

/-- Puts text at the next place, unless there is text in front of it already. A document itself
holds no text. -/
def insertText (b : Builder) : Builder :=
  let place := b.place
  if place.parent == Dom.document then b
  else if (b.dom.previous? place).any b.dom.isText then b
  else b.insertAt place .text

def openAt (place : Place) (data : ElementData) (b : Builder) : Builder :=
  let added := b.dom.addElement data
  { b with dom := added.2.put place added.1, opened := added.1 :: b.opened }

def openForeign (ns : Namespace) (tag : Tag) (b : Builder) : Builder :=
  b.openAt b.place (elementOf ns tag)

def openTag (tag : Tag) (b : Builder) : Builder := b.openForeign .html tag

def openName (name : String) (b : Builder) : Builder := b.openTag ⟨name, [], false⟩

/-- Puts the element of a start tag at the next place; it cannot hold anything. -/
def insertVoid (tag : Tag) (b : Builder) : Builder := (b.openTag tag).closeCurrent

def goTo (mode : InsertionMode) (b : Builder) : Builder := { b with mode := mode }

def withoutFrameset (b : Builder) : Builder := { b with framesetOk := false }

def openText (tag : Tag) (content : ContentModel) (b : Builder) : Builder :=
  { b.openTag tag with modeAfterText := b.mode, mode := .text, content := content }

def clearToMarker (b : Builder) : Builder :=
  { b with formatting := (b.formatting.dropWhile (· != .marker)).drop 1 }

def addMarker (b : Builder) : Builder := { b with formatting := .marker :: b.formatting }

def modeFor (b : Builder) : List NodeId → InsertionMode
  | [] => .inBody
  | id :: rest =>
    match b.dom.element? id with
    | none => b.modeFor rest
    | some e =>
      if e.ns != .html then b.modeFor rest
      else if (e.name == "td" || e.name == "th") && !rest.isEmpty then .inCell
      else if e.name == "tr" then .inRow
      else if e.name == "tbody" || e.name == "thead" || e.name == "tfoot" then .inTableBody
      else if e.name == "caption" then .inCaption
      else if e.name == "colgroup" then .inColumnGroup
      else if e.name == "table" then .inTable
      else if e.name == "template" then b.templateModes.head?.getD .inBody
      else if e.name == "head" && !rest.isEmpty then .inHead
      else if e.name == "body" then .inBody
      else if e.name == "frameset" then .inFrameset
      else if e.name == "html" then (if b.head.isNone then .beforeHead else .afterHead)
      else b.modeFor rest

def resetMode (b : Builder) : Builder := b.goTo (b.modeFor b.opened)

def closeTemplate (b : Builder) : Builder :=
  let b := (b.closeThrough (named ["template"])).clearToMarker
  { b with templateModes := b.templateModes.drop 1 }.resetMode

end Builder

end UsedSelectors.Markup
