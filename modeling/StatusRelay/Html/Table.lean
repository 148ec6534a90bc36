/-
# The rules for tokens in tables, selections and templates

A table, its groups of rows, its rows and its cells each have rules of their own. What belongs to a
part closes down to that part, and opens the parts in between that are missing; what belongs to no
part goes before the table by the rules of a body. A cell and a caption hold a body.

A selection keeps its options and drops every other element, though not the text in it. A template
takes the rules of the part of a table that its first element belongs to, or those of a body.
-/

import StatusRelay.Html.Body

namespace StatusRelay
namespace Html
namespace Builder

/-- Parts of a table that are not cells. -/
def groupNames : List String := ["tbody", "tfoot", "thead"]

/-- Parts of a table. -/
def partNames : List String :=
  ["caption", "col", "colgroup", "tbody", "td", "tfoot", "th", "thead", "tr"]

/-- A token by the rules of a body, going before the table where it would go into it. -/
def foster (b : Builder) (t : Token) : Builder :=
  { { b with fostering := true }.bodyToken t with fostering := false }

/-! ### Tables -/

/-- Closes elements down to the table or template. -/
def backToTable (b : Builder) : Builder :=
  b.popWhile fun n => !b.isOne ["table", "template", "html"] n

/-- Closes elements down to the group of rows. -/
def backToGroup (b : Builder) : Builder :=
  b.popWhile fun n => !b.isOne (["template", "html"] ++ groupNames) n

/-- Closes elements down to the row. -/
def backToRow (b : Builder) : Builder :=
  b.popWhile fun n => !b.isOne ["tr", "template", "html"] n

/-- The end of the table, if there is one. -/
def endTable? (b : Builder) : Option Builder :=
  if b.inTableScope ["table"] then some (b.popUntil ["table"]).resetMode else none

/-- A start tag in a table. -/
def tableOpening (b : Builder) (tag : Tag) : Outcome :=
  let name := tag.name
  let t : Token := .opening tag
  if name = "caption" then .done { b.backToTable.mark.openTag tag with mode := .caption }
  else if name = "colgroup" then .done { b.backToTable.openTag tag with mode := .columnGroup }
  else if name = "col" then
    .again { b.backToTable.openNamed "colgroup" with mode := .columnGroup } t
  else if groupNames.contains name then
    .done { b.backToTable.openTag tag with mode := .tableBody }
  else if ["td", "th", "tr"].contains name then
    .again { b.backToTable.openNamed "tbody" with mode := .tableBody } t
  else if name = "table" then
    match b.endTable? with
    | some b => .again b t
    | none => .done b
  else if ["style", "script", "template"].contains name then .done (b.openHead tag)
  else if name = "input" ∧ (tag.attribute? "type").any fun v =>
      v.toList.map Char.toLower == "hidden".toList then .done (b.addVoid tag)
  else if name = "form" then
    if b.form.isSome ∨ b.hasOpen "template" then .done b
    else
      let b := b.openTag tag
      .done { b with form := b.stack.head? }.pop
  else .done (b.foster t)

/-- A token in a table. Text directly in it waits until it is clear whether it is blank. -/
def tableToken (b : Builder) (t : Token) : Outcome :=
  match t with
  | .opening tag => b.tableOpening tag
  | .closing tag =>
    if tag.name = "table" then .done (b.endTable?.getD b)
    else if tag.name = "template" then .done b.closeTemplate
    else if (["body", "html"] ++ partNames).contains tag.name then .done b
    else .done (b.foster t)
  | .text _ =>
    if b.currentIs (["table", "template", "tr"] ++ groupNames) then
      .again { b with tableText := [], returnMode := b.mode, mode := .tableText } t
    else .done (b.foster t)
  | .finish => .done b

/-- A token while text waits in a table: more of the text, or what decides about it. -/
def tableTextToken (b : Builder) (t : Token) : Outcome :=
  match t with
  | .text content =>
    .done { b with tableText := b.tableText ++ content.filter fun c => c.toNat != 0 }
  | _ =>
    let text := b.tableText
    let b := { b with tableText := [], mode := b.returnMode }
    .again (if text.all isGap then b.addText text else b.foster (.text text)) t

/-- The end of the caption, if there is one. -/
def endCaption? (b : Builder) : Option Builder :=
  if b.inTableScope ["caption"] then
    some { ((b.closeImplied "").popUntil ["caption"]).clearToMark with mode := .table }
  else none

/-- What is done again when a part could be ended, and nothing otherwise. -/
def againAfter (ended : Option Builder) (b : Builder) (t : Token) : Outcome :=
  match ended with
  | some b => .again b t
  | none => .done b

/-- A token in a caption. -/
def captionToken (b : Builder) (t : Token) : Outcome :=
  match t with
  | .opening tag =>
    if partNames.contains tag.name then againAfter b.endCaption? b t else .done (b.bodyToken t)
  | .closing tag =>
    if tag.name = "caption" then .done (b.endCaption?.getD b)
    else if tag.name = "table" then againAfter b.endCaption? b t
    else if (["body", "html"] ++ partNames).contains tag.name then .done b
    else .done (b.bodyToken t)
  | _ => .done (b.bodyToken t)

/-- The end of the group of columns, if there is one. -/
def endColumns? (b : Builder) : Option Builder :=
  if b.currentIs ["colgroup"] then some { b.pop with mode := .table } else none

/-- A token in a group of columns. -/
def columnToken (b : Builder) (t : Token) : Outcome :=
  match t with
  | .text content =>
    let b := b.addText (content.takeWhile isGap)
    match content.dropWhile isGap with
    | [] => .done b
    | rest => againAfter b.endColumns? b (.text rest)
  | .opening tag =>
    if tag.name = "html" then .done b
    else if tag.name = "col" then .done (b.addVoid tag)
    else if tag.name = "template" then .done (b.openHead tag)
    else againAfter b.endColumns? b t
  | .closing tag =>
    if tag.name = "colgroup" then .done (b.endColumns?.getD b)
    else if tag.name = "col" then .done b
    else if tag.name = "template" then .done b.closeTemplate
    else againAfter b.endColumns? b t
  | .finish => .done b

/-- The end of the group of rows, if there is one. -/
def endGroup? (b : Builder) : Option Builder :=
  if b.inTableScope groupNames then some { b.backToGroup.pop with mode := .table } else none

/-- A token in a group of rows. -/
def groupToken (b : Builder) (t : Token) : Outcome :=
  match t with
  | .opening tag =>
    if tag.name = "tr" then .done { b.backToGroup.openTag tag with mode := .row }
    else if ["td", "th"].contains tag.name then
      .again { b.backToGroup.openNamed "tr" with mode := .row } t
    else if (["caption", "col", "colgroup"] ++ groupNames).contains tag.name then
      againAfter b.endGroup? b t
    else b.tableToken t
  | .closing tag =>
    if groupNames.contains tag.name then
      if b.inTableScope [tag.name] then .done { b.backToGroup.pop with mode := .table }
      else .done b
    else if tag.name = "table" then againAfter b.endGroup? b t
    else if ["body", "caption", "col", "colgroup", "html", "td", "th", "tr"].contains tag.name then
      .done b
    else b.tableToken t
  | _ => b.tableToken t

/-- The end of the row, if there is one. -/
def endRow? (b : Builder) : Option Builder :=
  if b.inTableScope ["tr"] then some { b.backToRow.pop with mode := .tableBody } else none

/-- A token in a row. -/
def rowToken (b : Builder) (t : Token) : Outcome :=
  match t with
  | .opening tag =>
    if ["td", "th"].contains tag.name then
      .done { b.backToRow.openTag tag with mode := .cell }.mark
    else if partNames.contains tag.name then againAfter b.endRow? b t
    else b.tableToken t
  | .closing tag =>
    if tag.name = "tr" then .done (b.endRow?.getD b)
    else if tag.name = "table" then againAfter b.endRow? b t
    else if groupNames.contains tag.name then
      if b.inTableScope [tag.name] then againAfter b.endRow? b t else .done b
    else if ["body", "caption", "col", "colgroup", "html", "td", "th"].contains tag.name then
      .done b
    else b.tableToken t
  | _ => b.tableToken t

/-- The end of the cell. -/
def endCell (b : Builder) (names : List String) : Builder :=
  { ((b.closeImplied "").popUntil names).clearToMark with mode := .row }

/-- A token in a cell. -/
def cellToken (b : Builder) (t : Token) : Outcome :=
  match t with
  | .opening tag =>
    if partNames.contains tag.name then
      if b.inTableScope ["td", "th"] then .again (b.endCell ["td", "th"]) t else .done b
    else .done (b.bodyToken t)
  | .closing tag =>
    if ["td", "th"].contains tag.name then
      .done (if b.inTableScope [tag.name] then b.endCell [tag.name] else b)
    else if (["table", "tr"] ++ groupNames).contains tag.name then
      if b.inTableScope [tag.name] then .again (b.endCell ["td", "th"]) t else .done b
    else if ["body", "caption", "col", "colgroup", "html"].contains tag.name then .done b
    else .done (b.bodyToken t)
  | _ => .done (b.bodyToken t)

/-! ### Selections -/

/-- The end of the selection, if there is one in scope. -/
def endSelect? (b : Builder) : Option Builder :=
  if b.inSelectScope ["select"] then some (b.popUntil ["select"]).resetMode else none

/-- A token in a selection. -/
def selectToken (b : Builder) (t : Token) : Outcome :=
  let leave (names : List String) (b : Builder) : Builder :=
    if b.currentIs names then b.pop else b
  match t with
  | .text content => .done (b.addText (content.filter fun c => c.toNat != 0))
  | .opening tag =>
    let name := tag.name
    if name = "option" then .done ((leave ["option"] b).openTag tag)
    else if name = "optgroup" then
      .done ((leave ["optgroup"] (leave ["option"] b)).openTag tag)
    else if name = "hr" then .done ((leave ["optgroup"] (leave ["option"] b)).addVoid tag)
    else if name = "select" then .done (b.endSelect?.getD b)
    else if ["input", "keygen", "textarea"].contains name then againAfter b.endSelect? b t
    else if name = "script" ∨ name = "template" then .done (b.openHead tag)
    else .done b
  | .closing tag =>
    let name := tag.name
    if name = "optgroup" then
      let inGroup := (b.stack.drop 1).head?.any (b.isOne ["optgroup"])
      .done (leave ["optgroup"] (if inGroup then leave ["option"] b else b))
    else if name = "option" then .done (leave ["option"] b)
    else if name = "select" then .done (b.endSelect?.getD b)
    else if name = "template" then .done b.closeTemplate
    else .done b
  | .finish => .done b

/-- A token in a selection in a table, which the parts of the table end. -/
def selectInTableToken (b : Builder) (t : Token) : Outcome :=
  let names := ["caption", "table", "tbody", "tfoot", "thead", "tr", "td", "th"]
  let ended : Builder := (b.popUntil ["select"]).resetMode
  match t with
  | .opening tag => if names.contains tag.name then .again ended t else b.selectToken t
  | .closing tag =>
    if names.contains tag.name then
      if b.inTableScope [tag.name] then .again ended t else .done b
    else b.selectToken t
  | _ => b.selectToken t

/-! ### Templates -/

/-- The mode that a start tag asks for in a template. -/
def templateMode (name : String) : Mode :=
  if (["caption", "colgroup"] ++ groupNames).contains name then .table
  else if name = "col" then .columnGroup
  else if name = "tr" then .tableBody
  else if name = "td" ∨ name = "th" then .row
  else .body

/-- A token in a template. -/
def templateToken (b : Builder) (t : Token) : Outcome :=
  match t with
  | .text _ => .done (b.bodyToken t)
  | .opening tag =>
    if headNames.contains tag.name then .done (b.openHead tag)
    else
      let mode := templateMode tag.name
      .again { b with mode := mode, templateModes := mode :: b.templateModes.drop 1 } t
  | .closing tag => if tag.name = "template" then .done b.closeTemplate else .done b
  | .finish => if b.hasOpen "template" then .again b.endTemplate t else .done b

end Builder
end Html
end StatusRelay
