import UsedSelectors.Markup.HeadRules

/-!
# What the body holds

Start tags and end tags in the body. An end tag closes what is open in its own scope and no more;
start tags close paragraphs and list items that cannot hold what they begin.
-/

namespace UsedSelectors.Markup.Builder

def blockNames : List String := [
  "address", "article", "aside", "blockquote", "center", "details", "dialog", "dir", "div", "dl",
  "fieldset", "figcaption", "figure", "footer", "header", "hgroup", "main", "menu", "nav", "ol",
  "p", "search", "section", "summary", "ul"]

def closedNames : List String := [
  "address", "article", "aside", "blockquote", "button", "center", "details", "dialog", "dir",
  "div", "dl", "fieldset", "figcaption", "figure", "footer", "header", "hgroup", "listing", "main",
  "menu", "nav", "ol", "pre", "search", "section", "select", "summary", "ul"]

def formattingNames : List String :=
  ["b", "big", "code", "em", "font", "i", "s", "small", "strike", "strong", "tt", "u"]

def openBlock (tag : Tag) (b : Builder) : Builder := b.closeParagraph.openTag tag

def openFormatting (tag : Tag) (b : Builder) : Builder := (b.reconstruct.openTag tag).addFormatting

def mergeBody (tag : Tag) (b : Builder) : Builder :=
  match b.opened.reverse[1]? with
  | some body =>
    if b.check (named ["body"]) body && !b.hasTemplate then
      { b with framesetOk := false, dom := b.dom.addAttributes body tag.attributes }
    else b
  | none => b

def replaceBody (tag : Tag) (b : Builder) : Builder :=
  match b.opened.reverse with
  | root :: body :: _ =>
    if b.check (named ["body"]) body && b.framesetOk then
      (openTag tag { b with dom := b.dom.detach body, opened := [root] }).goTo .inFrameset
    else b
  | _ => b

def closeItem (names : List String) (b : Builder) : List NodeId → Builder
  | [] => b
  | id :: rest =>
    match b.dom.element? id with
    | none => b.closeItem names rest
    | some e =>
      if e.isHtml names then (b.closeImplied [e.name]).closeThrough (named [e.name])
      else if e.isSpecial && !e.isHtml ["address", "div", "p"] then b
      else b.closeItem names rest

def openItem (names : List String) (tag : Tag) (b : Builder) : Builder :=
  ((b.withoutFrameset.closeItem names b.opened).closeParagraph).openTag tag

def openHeading (tag : Tag) (b : Builder) : Builder :=
  let b := b.closeParagraph
  (if b.currentIs (named headings) then b.closeCurrent else b).openTag tag

def openPreformatted (tag : Tag) (b : Builder) : Builder :=
  { (b.openBlock tag).withoutFrameset with skipsLineFeed := true }

def openForm (tag : Tag) (b : Builder) : Builder :=
  if b.hasTemplate then b.openBlock tag
  else if b.form.isSome then b
  else
    let b := b.openBlock tag
    { b with form := b.opened.head? }

def openButton (tag : Tag) (b : Builder) : Builder :=
  let b := if b.inScope ["button"] then b.closeElement ["button"] else b
  (b.reconstruct.openTag tag).withoutFrameset

def openLink (tag : Tag) (b : Builder) : Builder :=
  match b.formattingElement? "a" with
  | none => b.openFormatting tag
  | some id =>
    let b := (b.closeFormatting "a").forget id
    openFormatting tag { b with opened := b.opened.erase id }

/-- Opens text that is not broken; such texts are not put into one another. -/
def openUnbroken (tag : Tag) (b : Builder) : Builder :=
  let b := b.reconstruct
  let b := if b.inScope ["nobr"] then (b.closeFormatting "nobr").reconstruct else b
  (b.openTag tag).addFormatting

def openTable (tag : Tag) (b : Builder) : Builder :=
  let b := if b.quirks then b else b.closeParagraph
  ((b.openTag tag).withoutFrameset).goTo .inTable

def closeSelect (b : Builder) : Builder := b.closeThrough (named ["select"])

/-- Puts a field for input at the next place; a menu of choices cannot hold it. -/
def insertInput (tag : Tag) (b : Builder) : Builder :=
  let b := if b.inScope ["select"] then b.closeSelect else b
  let b := b.reconstruct.insertVoid tag
  if ElementData.hasValue tag.attributes "type" "hidden" then b else b.withoutFrameset

def openSelect (tag : Tag) (b : Builder) : Builder :=
  if b.inScope ["select"] then b.closeSelect
  else (b.reconstruct.openTag tag).withoutFrameset

def closeOption (kept : List String) (b : Builder) : Builder :=
  if b.inScope ["select"] then b.closeImplied kept
  else if b.currentIs (named ["option"]) then b.closeCurrent
  else b

def insertRule (tag : Tag) (b : Builder) : Builder :=
  let b := b.closeParagraph
  let b := if b.inScope ["select"] then b.closeImplied [] else b
  (b.insertVoid tag).withoutFrameset

def openRuby (kept : List String) (tag : Tag) (b : Builder) : Builder :=
  (if b.inScope ["ruby"] then b.closeImplied kept else b).openTag tag

def openIsland (ns : Namespace) (tag : Tag) (b : Builder) : Builder :=
  let b := b.reconstruct.openForeign ns tag
  if tag.selfClosing then b.closeCurrent else b

def startInBody (tag : Tag) (b : Builder) : Builder :=
  let name := tag.name
  if name = "html" then b.mergeRoot tag
  else if name = "body" then b.mergeBody tag
  else if name = "frameset" then b.replaceBody tag
  else if blockNames.contains name then b.openBlock tag
  else if headings.contains name then b.openHeading tag
  else if name = "pre" ∨ name = "listing" then b.openPreformatted tag
  else if name = "form" then b.openForm tag
  else if name = "li" then b.openItem ["li"] tag
  else if name = "dd" ∨ name = "dt" then b.openItem ["dd", "dt"] tag
  else if name = "plaintext" then { b.openBlock tag with content := .plain }
  else if name = "button" then b.openButton tag
  else if name = "a" then b.openLink tag
  else if formattingNames.contains name then b.openFormatting tag
  else if name = "nobr" then b.openUnbroken tag
  else if ["applet", "marquee", "object"].contains name then
    (b.reconstruct.openTag tag).addMarker.withoutFrameset
  else if name = "table" then b.openTable tag
  else if ["area", "br", "embed", "img", "keygen", "wbr"].contains name then
    (b.reconstruct.insertVoid tag).withoutFrameset
  else if name = "input" then b.insertInput tag
  else if ["param", "source", "track"].contains name then b.insertVoid tag
  else if name = "hr" then b.insertRule tag
  else if name = "image" then
    (b.reconstruct.insertVoid { tag with name := "img" }).withoutFrameset
  else if name = "textarea" then
    { (b.openText tag (.references name)).withoutFrameset with skipsLineFeed := true }
  else if name = "xmp" then (b.closeParagraph.reconstruct.withoutFrameset).openText tag (.raw name)
  else if name = "iframe" then b.withoutFrameset.openText tag (.raw name)
  else if name = "noembed" then b.openText tag (.raw name)
  else if name = "select" then b.openSelect tag
  else if name = "option" then ((b.closeOption ["optgroup"]).reconstruct).openTag tag
  else if name = "optgroup" then ((b.closeOption []).reconstruct).openTag tag
  else if name = "rb" ∨ name = "rtc" then b.openRuby [] tag
  else if name = "rp" ∨ name = "rt" then b.openRuby ["rtc"] tag
  else if name = "math" then b.openIsland .math tag
  else if name = "svg" then b.openIsland .svg tag
  else if ["caption", "col", "colgroup", "frame", "head", "tbody", "td", "tfoot", "th", "thead",
      "tr"].contains name then b
  else
    match b.startInHead? tag with
    | some b => b
    | none => b.reconstruct.openTag tag

def endForm (b : Builder) : Builder :=
  if b.hasTemplate then
    if b.inScope ["form"] then b.closeElement ["form"] else b
  else
    let form := b.form
    let b := { b with form := none }
    match form with
    | none => b
    | some id =>
      let inner := b.opened.takeWhile (· != id)
      if !b.opened.contains id || inner.any (b.check ElementData.boundsScope) then b
      else
        let b := b.closeImplied []
        { b with opened := b.opened.erase id }

def endParagraph (b : Builder) : Builder :=
  (if b.hasParagraph then b else b.openName "p").closeParagraph

def endBody (b : Builder) : Builder :=
  if b.inScope ["body"] then b.goTo .afterBody else b

def endInBody (name : String) (b : Builder) : Step :=
  if name = "template" then .done b.endTemplate
  else if name = "body" then .done b.endBody
  else if name = "html" then
    if b.inScope ["body"] then .again (b.goTo .afterBody) else .done b
  else if closedNames.contains name then
    .done (if b.inScope [name] then b.closeElement [name] else b)
  else if name = "form" then .done b.endForm
  else if name = "p" then .done b.endParagraph
  else if name = "li" then
    .done (if b.hasOpen ElementData.boundsListScope ["li"] then
      (b.closeImplied ["li"]).closeThrough (named ["li"]) else b)
  else if name = "dd" ∨ name = "dt" then
    .done (if b.inScope [name] then (b.closeImplied [name]).closeThrough (named [name]) else b)
  else if headings.contains name then
    .done (if b.inScope headings then b.closeElement headings else b)
  else if name = "a" ∨ name = "nobr" ∨ formattingNames.contains name then
    .done (b.closeFormatting name)
  else if ["applet", "marquee", "object"].contains name then
    .done (if b.inScope [name] then (b.closeElement [name]).clearToMarker else b)
  else if name = "br" then
    .done (b.reconstruct.insertVoid ⟨"br", [], false⟩).withoutFrameset
  else .done (b.closeOther name b.opened)

def charInBody (c : Char) (b : Builder) : Builder :=
  if c == '\x00' then b
  else
    let b := b.reconstruct.insertText
    if isMarkupSpace c then b else b.withoutFrameset

end UsedSelectors.Markup.Builder
