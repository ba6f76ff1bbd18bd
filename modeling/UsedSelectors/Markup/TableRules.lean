import UsedSelectors.Markup.BodyRules

/-!
# What a table holds

Rows, cells, captions and columns. A part of a table that is begun without those around it gets
them; what is no part of a table is put in front of it.
-/

namespace UsedSelectors.Markup.Builder

def rowGroups : List String := ["tbody", "tfoot", "thead"]

def tableParts : List String :=
  ["caption", "col", "colgroup", "tbody", "td", "tfoot", "th", "thead", "tr"]

def closeTo (names : List String) (b : Builder) : Builder :=
  b.closeWhile (fun e => !e.isHtml (["html", "template"] ++ names))

def closeToTable (b : Builder) : Builder := b.closeTo ["table"]

def closeToRowGroup (b : Builder) : Builder := b.closeTo rowGroups

def closeToRow (b : Builder) : Builder := b.closeTo ["tr"]

def fosterWith (f : Builder → Builder) (b : Builder) : Builder :=
  { f { b with fostering := true } with fostering := false }

def fosterStep (f : Builder → Step) (b : Builder) : Step :=
  match f { b with fostering := true } with
  | .done b => .done { b with fostering := false }
  | .again b => .again { b with fostering := false }

def closeTable (b : Builder) : Builder := (b.closeThrough (named ["table"])).resetMode

def startInTable (tag : Tag) (b : Builder) : Step :=
  let name := tag.name
  if name = "caption" then
    .done ((b.closeToTable.addMarker.openTag tag).goTo .inCaption)
  else if name = "colgroup" then .done ((b.closeToTable.openTag tag).goTo .inColumnGroup)
  else if name = "col" then .again ((b.closeToTable.openName "colgroup").goTo .inColumnGroup)
  else if rowGroups.contains name then .done ((b.closeToTable.openTag tag).goTo .inTableBody)
  else if ["td", "th", "tr"].contains name then
    .again ((b.closeToTable.openName "tbody").goTo .inTableBody)
  else if name = "table" then
    if b.inTableScope ["table"] then .again b.closeTable else .done b
  else if ["style", "script", "template"].contains name then b.startInHead tag
  else if name = "input" ∧ ElementData.hasValue tag.attributes "type" "hidden" then
    .done (b.insertVoid tag)
  else if name = "form" then
    if b.hasTemplate || b.form.isSome then .done b
    else
      let opened := b.openTag tag
      .done { opened.closeCurrent with form := opened.opened.head? }
  else .done (b.fosterWith (startInBody tag))

def endInTable (name : String) (b : Builder) : Step :=
  if name = "table" then
    .done (if b.inTableScope ["table"] then b.closeTable else b)
  else if (["body", "html"] ++ tableParts).contains name then .done b
  else if name = "template" then .done b.endTemplate
  else b.fosterStep (endInBody name)

def charInTable (b : Builder) : Step :=
  .again { b with tableText := [], modeAfterText := b.mode, mode := .inTableText }

def flushTableText (b : Builder) : Builder :=
  let cs := b.tableText.reverse
  let b := { b with tableText := [], mode := b.modeAfterText }
  if cs.all isMarkupSpace then cs.foldl (fun b _ => b.insertText) b
  else cs.foldl (fun b c => b.fosterWith (charInBody c)) b

def closeCaption (b : Builder) : Builder :=
  (b.closeElement ["caption"]).clearToMarker.goTo .inTable

def startInCaption (tag : Tag) (b : Builder) : Step :=
  if tableParts.contains tag.name then
    if b.inTableScope ["caption"] then .again b.closeCaption else .done b
  else .done (b.startInBody tag)

def endInCaption (name : String) (b : Builder) : Step :=
  if name = "caption" then
    .done (if b.inTableScope ["caption"] then b.closeCaption else b)
  else if name = "table" then
    if b.inTableScope ["caption"] then .again b.closeCaption else .done b
  else if (["body", "html"] ++ tableParts).contains name then .done b
  else b.endInBody name

def leaveColumnGroup (b : Builder) : Step :=
  if b.currentIs (named ["colgroup"]) then .again (b.closeCurrent.goTo .inTable) else .done b

def startInColumnGroup (tag : Tag) (b : Builder) : Step :=
  if tag.name = "html" then .done (b.mergeRoot tag)
  else if tag.name = "col" then .done (b.insertVoid tag)
  else if tag.name = "template" then .done (b.openTemplate tag)
  else b.leaveColumnGroup

def endInColumnGroup (name : String) (b : Builder) : Step :=
  if name = "colgroup" then
    .done (if b.currentIs (named ["colgroup"]) then b.closeCurrent.goTo .inTable else b)
  else if name = "col" then .done b
  else if name = "template" then .done b.endTemplate
  else b.leaveColumnGroup

def closeRowGroup (b : Builder) : Builder := b.closeToRowGroup.closeCurrent.goTo .inTable

def startInTableBody (tag : Tag) (b : Builder) : Step :=
  let name := tag.name
  if name = "tr" then .done ((b.closeToRowGroup.openTag tag).goTo .inRow)
  else if name = "th" ∨ name = "td" then .again ((b.closeToRowGroup.openName "tr").goTo .inRow)
  else if (["caption", "col", "colgroup"] ++ rowGroups).contains name then
    if b.inTableScope rowGroups then .again b.closeRowGroup else .done b
  else b.startInTable tag

def endInTableBody (name : String) (b : Builder) : Step :=
  if rowGroups.contains name then
    .done (if b.inTableScope [name] then b.closeRowGroup else b)
  else if name = "table" then
    if b.inTableScope rowGroups then .again b.closeRowGroup else .done b
  else if (["body", "html"] ++ tableParts).contains name then .done b
  else b.endInTable name

def closeRow (b : Builder) : Builder := b.closeToRow.closeCurrent.goTo .inTableBody

def startInRow (tag : Tag) (b : Builder) : Step :=
  let name := tag.name
  if name = "th" ∨ name = "td" then
    .done ((b.closeToRow.openTag tag).goTo .inCell).addMarker
  else if tableParts.contains name then
    if b.inTableScope ["tr"] then .again b.closeRow else .done b
  else b.startInTable tag

def endInRow (name : String) (b : Builder) : Step :=
  if name = "tr" then .done (if b.inTableScope ["tr"] then b.closeRow else b)
  else if name = "table" then
    if b.inTableScope ["tr"] then .again b.closeRow else .done b
  else if rowGroups.contains name then
    if b.inTableScope [name] && b.inTableScope ["tr"] then .again b.closeRow else .done b
  else if (["body", "html"] ++ tableParts).contains name then .done b
  else b.endInTable name

def closeCell (b : Builder) : Builder :=
  (b.closeElement ["td", "th"]).clearToMarker.goTo .inRow

def startInCell (tag : Tag) (b : Builder) : Step :=
  if tableParts.contains tag.name then
    if b.inTableScope ["td", "th"] then .again b.closeCell else .done b
  else .done (b.startInBody tag)

def endInCell (name : String) (b : Builder) : Step :=
  if name = "td" ∨ name = "th" then
    .done (if b.inTableScope [name] then
      (b.closeElement [name]).clearToMarker.goTo .inRow else b)
  else if ["body", "caption", "col", "colgroup", "html"].contains name then .done b
  else if (["table", "tr"] ++ rowGroups).contains name then
    if b.inTableScope [name] then .again b.closeCell else .done b
  else b.endInBody name

def modeInTemplate (name : String) : InsertionMode :=
  if (["caption", "colgroup"] ++ rowGroups).contains name then .inTable
  else if name = "col" then .inColumnGroup
  else if name = "tr" then .inTableBody
  else if name = "td" ∨ name = "th" then .inRow
  else .inBody

def startInTemplate (tag : Tag) (b : Builder) : Step :=
  match b.startInHead? tag with
  | some b => .done b
  | none =>
    let mode := modeInTemplate tag.name
    .again { b with mode := mode, templateModes := mode :: b.templateModes.drop 1 }

def endInTemplate (name : String) (b : Builder) : Step :=
  .done (if name = "template" then b.endTemplate else b)

end UsedSelectors.Markup.Builder
