import UsedSelectors.Markup.Formatting

/-!
# What the head holds

Elements of the head, which are also allowed elsewhere, and the modes up to the body.
-/

namespace UsedSelectors.Markup

/-- What comes of a token: it is done with, or it has to be looked at again in the new state. -/
inductive Step where
  | done (b : Builder)
  | again (b : Builder)

/-- What a document type asks for: old document types, and broken or missing ones, have their
documents read as old documents are. -/
def Doctype.isOld (d : Doctype) : Bool :=
  let publicId := (d.publicId.getD "").toLower
  let starts := fun (start : String) => start.toList.isPrefixOf publicId.toList
  d.isBroken || d.name != some "html" ||
    ["-//w3o//dtd w3 html strict 3.0//en//", "-/w3c/dtd html 4.0 transitional/en",
      "html"].contains publicId ||
    d.systemId.map String.toLower ==
      some "http://www.ibm.com/data/dtd/v11/ibmxhtml1-transitional.dtd" ||
    ["+//silmaril//dtd html pro v0r11 19970101//", "-//as//dtd html 3.0 aswedit + extensions//",
      "-//advasoft ltd//dtd html 3.0 aswedit + extensions//", "-//ietf//dtd html 2.0 level 1//",
      "-//ietf//dtd html 2.0 level 2//", "-//ietf//dtd html 2.0 strict level 1//",
      "-//ietf//dtd html 2.0 strict level 2//", "-//ietf//dtd html 2.0 strict//",
      "-//ietf//dtd html 2.0//", "-//ietf//dtd html 2.1e//", "-//ietf//dtd html 3.0//",
      "-//ietf//dtd html 3.2 final//", "-//ietf//dtd html 3.2//", "-//ietf//dtd html 3//",
      "-//ietf//dtd html level 0//", "-//ietf//dtd html level 1//",
      "-//ietf//dtd html level 2//", "-//ietf//dtd html level 3//",
      "-//ietf//dtd html strict level 0//", "-//ietf//dtd html strict level 1//",
      "-//ietf//dtd html strict level 2//", "-//ietf//dtd html strict level 3//",
      "-//ietf//dtd html strict//", "-//ietf//dtd html//", "-//metrius//dtd metrius presentational//",
      "-//microsoft//dtd internet explorer 2.0 html strict//",
      "-//microsoft//dtd internet explorer 2.0 html//",
      "-//microsoft//dtd internet explorer 2.0 tables//",
      "-//microsoft//dtd internet explorer 3.0 html strict//",
      "-//microsoft//dtd internet explorer 3.0 html//",
      "-//microsoft//dtd internet explorer 3.0 tables//", "-//netscape comm. corp.//dtd html//",
      "-//netscape comm. corp.//dtd strict html//", "-//o'reilly and associates//dtd html 2.0//",
      "-//o'reilly and associates//dtd html extended 1.0//",
      "-//o'reilly and associates//dtd html extended relaxed 1.0//",
      "-//sq//dtd html 2.0 hotmetal + extensions//",
      "-//softquad software//dtd hotmetal pro 6.0::19990601::extensions to html 4.0//",
      "-//softquad//dtd hotmetal pro 4.0::19971010::extensions to html 4.0//",
      "-//spyglass//dtd html 2.0 extended//", "-//sun microsystems corp.//dtd hotjava html//",
      "-//sun microsystems corp.//dtd hotjava strict html//",
      "-//w3c//dtd html 3 1995-03-24//", "-//w3c//dtd html 3.2 draft//",
      "-//w3c//dtd html 3.2 final//", "-//w3c//dtd html 3.2//", "-//w3c//dtd html 3.2s draft//",
      "-//w3c//dtd html 4.0 frameset//", "-//w3c//dtd html 4.0 transitional//",
      "-//w3c//dtd html experimental 19960712//", "-//w3c//dtd html experimental 970421//",
      "-//w3c//dtd w3 html//", "-//w3o//dtd w3 html 3.0//", "-//webtechs//dtd mozilla html 2.0//",
      "-//webtechs//dtd mozilla html//"].any starts ||
    (d.systemId.isNone &&
      ["-//w3c//dtd html 4.01 frameset//", "-//w3c//dtd html 4.01 transitional//"].any starts)

namespace Builder

def mergeRoot (tag : Tag) (b : Builder) : Builder :=
  if b.hasTemplate then b
  else
    match b.opened.getLast? with
    | some root => { b with dom := b.dom.addAttributes root tag.attributes }
    | none => b

def openTemplate (tag : Tag) (b : Builder) : Builder :=
  let b := (b.openTag tag).addMarker.withoutFrameset
  { b with mode := .inTemplate, templateModes := .inTemplate :: b.templateModes }

def endTemplate (b : Builder) : Builder :=
  if b.hasTemplate then (b.closeWhile ElementData.endsWithTemplate).closeTemplate else b

def startInHead? (tag : Tag) (b : Builder) : Option Builder :=
  if ["base", "basefont", "bgsound", "link", "meta"].contains tag.name then some (b.insertVoid tag)
  else if tag.name = "title" then some (b.openText tag (.references tag.name))
  else if tag.name = "noframes" ∨ tag.name = "style" then some (b.openText tag (.raw tag.name))
  else if tag.name = "script" then some (b.openText tag .script)
  else if tag.name = "template" then some (b.openTemplate tag)
  else none

def beginsBody (name : String) : Bool := ["body", "html", "br"].contains name

def leaveInitial (b : Builder) : Step := .again { b with quirks := true, mode := .beforeHtml }

def openRoot (tag : Tag) (b : Builder) : Builder :=
  (b.openAt ⟨Dom.document, none⟩ (elementOf .html tag)).goTo .beforeHead

def leaveBeforeHtml (b : Builder) : Step := .again (b.openRoot ⟨"html", [], false⟩)

def openHead (tag : Tag) (b : Builder) : Builder :=
  let b := b.openTag tag
  { b with head := b.opened.head?, mode := .inHead }

def leaveBeforeHead (b : Builder) : Step := .again (b.openHead ⟨"head", [], false⟩)

def leaveInHead (b : Builder) : Step := .again (b.closeCurrent.goTo .afterHead)

def leaveInHeadNoscript (b : Builder) : Step := .again (b.closeCurrent.goTo .inHead)

def leaveAfterHead (b : Builder) : Step := .again ((b.openName "body").goTo .inBody)

def startBeforeHtml (tag : Tag) (b : Builder) : Step :=
  if tag.name = "html" then .done (b.openRoot tag) else b.leaveBeforeHtml

def startBeforeHead (tag : Tag) (b : Builder) : Step :=
  if tag.name = "html" then .done (b.mergeRoot tag)
  else if tag.name = "head" then .done (b.openHead tag)
  else b.leaveBeforeHead

/-- The modes `beforeHtml` and `beforeHead`, for end tags: a few of them make the document go on,
all others are left out. -/
def endBeforeHead (leave : Builder → Step) (name : String) (b : Builder) : Step :=
  if name = "head" ∨ beginsBody name then leave b else .done b

def startInHead (tag : Tag) (b : Builder) : Step :=
  if tag.name = "html" then .done (b.mergeRoot tag)
  else if tag.name = "noscript" then .done ((b.openTag tag).goTo .inHeadNoscript)
  else if tag.name = "head" then .done b
  else
    match b.startInHead? tag with
    | some b => .done b
    | none => b.leaveInHead

def endInHead (name : String) (b : Builder) : Step :=
  if name = "head" then .done (b.closeCurrent.goTo .afterHead)
  else if name = "template" then .done b.endTemplate
  else if beginsBody name then b.leaveInHead
  else .done b

def startInHeadNoscript (tag : Tag) (b : Builder) : Step :=
  if tag.name = "html" then .done (b.mergeRoot tag)
  else if ["basefont", "bgsound", "link", "meta", "noframes", "style"].contains tag.name then
    b.startInHead tag
  else if tag.name = "head" ∨ tag.name = "noscript" then .done b
  else b.leaveInHeadNoscript

def endInHeadNoscript (name : String) (b : Builder) : Step :=
  if name = "noscript" then .done (b.closeCurrent.goTo .inHead)
  else if name = "br" then b.leaveInHeadNoscript
  else .done b

def startLateInHead? (tag : Tag) (b : Builder) : Option Builder :=
  match b.head with
  | none => b.startInHead? tag
  | some head =>
    (startInHead? tag { b with opened := head :: b.opened }).map
      (fun b => { b with opened := b.opened.erase head })

def startAfterHead (tag : Tag) (b : Builder) : Step :=
  if tag.name = "html" then .done (b.mergeRoot tag)
  else if tag.name = "body" then .done ((b.openTag tag).withoutFrameset.goTo .inBody)
  else if tag.name = "frameset" then .done ((b.openTag tag).goTo .inFrameset)
  else if tag.name = "head" then .done b
  else
    match b.startLateInHead? tag with
    | some b => .done b
    | none => b.leaveAfterHead

def endAfterHead (name : String) (b : Builder) : Step :=
  if name = "template" then .done b.endTemplate
  else if beginsBody name then b.leaveAfterHead
  else .done b

end Builder

end UsedSelectors.Markup
