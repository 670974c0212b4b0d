import Estate.Html.Rules.Body

/-!
What a token does in a table. Text and elements that cannot stand between the parts of a table go
before the table.
-/

namespace Estate.Html

open Builder

def clearTo (names : List String) : Build Unit := popTo (names ++ ["html", "template"])

/-- A token that does not belong in a table. -/
def fosterRule : Rule := fun t => do
  modify fun b => { b with fostering := true }
  let more ← bodyRule t
  modify fun b => { b with fostering := false }
  return more

def tableText (t : Token) : Build Unit :=
  modify fun b => { b with tableText := t :: b.tableText }

def closeTable : Build Bool := do
  if (← get).inScope .table ["table"] then
    popThrough ["table"]
    resetMode
    again
  else done

def inTableRule : Rule := fun t => do
  match t with
  | .nul | .blank _ | .text _ =>
    if (← get).currentIs ["table", "tbody", "template", "tfoot", "thead", "tr"] then
      modify fun b => { b with tableText := [], resumed := b.mode, mode := .inTableText }
      again
    else fosterRule t
  | .comment s =>
    insertComment s
    done
  | .doctype _ _ _ _ => done
  | .startTag head =>
    match head.name with
    | "caption" =>
      clearTo ["table"]
      addMarker
      openHtml head
      setMode .inCaption
      done
    | "colgroup" =>
      clearTo ["table"]
      openHtml head
      setMode .inColumnGroup
      done
    | "col" =>
      clearTo ["table"]
      openNamed "colgroup"
      againIn .inColumnGroup
    | "tbody" | "tfoot" | "thead" =>
      clearTo ["table"]
      openHtml head
      setMode .inTableBody
      done
    | "td" | "th" | "tr" =>
      clearTo ["table"]
      openNamed "tbody"
      againIn .inTableBody
    | "table" => closeTable
    | "style" | "script" | "template" =>
      headTag head
      done
    | "input" =>
      if isHidden head then
        insertVoid head
        done
      else fosterRule t
    | "form" =>
      let b ← get
      if b.form.isNone && !b.hasOpen ["template"] then
        openHtml head
        modify fun b => { b with form := b.stack.head? }
        pop
      done
    | _ => fosterRule t
  | .endTag name =>
    if name == "table" then
      discard closeTable
      done
    else if name == "template" then closeTemplate
    else if ["body", "caption", "col", "colgroup", "html", "tbody", "td", "tfoot", "th", "thead",
        "tr"].contains name then done
    else fosterRule t
  | .finish => bodyRule t

def isTextToken : Token → Bool
  | .text _ => true
  | _ => false

/-- The text between the parts of a table stays there only if it is blank. -/
def inTableTextRule : Rule := fun t => do
  match t with
  | .nul => done
  | .blank _ | .text _ =>
    tableText t
    done
  | _ =>
    let tokens := (← get).tableText.reverse
    let outside := tokens.any isTextToken
    for token in tokens do
      match token with
      | .blank s => if outside then discard (fosterRule token) else insertText s
      | _ => discard (fosterRule token)
    modify fun b => { b with tableText := [], mode := b.resumed }
    again

def closeCaption : Build Bool := do
  if (← get).inScope .table ["caption"] then
    closeImplied ""
    popThrough ["caption"]
    clearToMarker
    setMode .inTable
    again
  else done

def tablePartNames : List String :=
  ["caption", "col", "colgroup", "tbody", "td", "tfoot", "th", "thead", "tr"]

def inCaptionRule : Rule := fun t => do
  match t with
  | .startTag head =>
    if tablePartNames.contains head.name then closeCaption else bodyRule t
  | .endTag name =>
    if name == "caption" then
      discard closeCaption
      done
    else if name == "table" then closeCaption
    else if ["body", "col", "colgroup", "html", "tbody", "td", "tfoot", "th", "thead", "tr"].contains
        name then done
    else bodyRule t
  | _ => bodyRule t

def inColumnGroupRule : Rule := fun t => do
  let otherwise : Build Bool := do
    if (← get).currentIs ["colgroup"] then
      pop
      againIn .inTable
    else done
  match t with
  | .blank s =>
    insertText s
    done
  | .comment s =>
    insertComment s
    done
  | .doctype _ _ _ _ => done
  | .startTag head =>
    match head.name with
    | "html" => mergeRoot head
    | "col" =>
      insertVoid head
      done
    | "template" =>
      headTag head
      done
    | _ => otherwise
  | .endTag name =>
    match name with
    | "colgroup" =>
      discard otherwise
      done
    | "col" => done
    | "template" => closeTemplate
    | _ => otherwise
  | .finish => bodyRule t
  | _ => otherwise

def rowGroupNames : List String := ["tbody", "tfoot", "thead"]

def leaveRowGroup : Build Bool := do
  if (← get).inScope .table rowGroupNames then
    clearTo rowGroupNames
    pop
    againIn .inTable
  else done

def inTableBodyRule : Rule := fun t => do
  match t with
  | .startTag head =>
    match head.name with
    | "tr" =>
      clearTo rowGroupNames
      openHtml head
      setMode .inRow
      done
    | "th" | "td" =>
      clearTo rowGroupNames
      openNamed "tr"
      againIn .inRow
    | "caption" | "col" | "colgroup" | "tbody" | "tfoot" | "thead" => leaveRowGroup
    | _ => inTableRule t
  | .endTag name =>
    if rowGroupNames.contains name then
      if (← get).inScope .table [name] then
        clearTo rowGroupNames
        pop
        setMode .inTable
      done
    else if name == "table" then leaveRowGroup
    else if ["body", "caption", "col", "colgroup", "html", "td", "th", "tr"].contains name then done
    else inTableRule t
  | _ => inTableRule t

def leaveRow : Build Bool := do
  if (← get).inScope .table ["tr"] then
    clearTo ["tr"]
    pop
    againIn .inTableBody
  else done

def inRowRule : Rule := fun t => do
  match t with
  | .startTag head =>
    match head.name with
    | "th" | "td" =>
      clearTo ["tr"]
      openHtml head
      addMarker
      setMode .inCell
      done
    | "caption" | "col" | "colgroup" | "tbody" | "tfoot" | "thead" | "tr" => leaveRow
    | _ => inTableRule t
  | .endTag name =>
    if name == "tr" then
      discard leaveRow
      done
    else if name == "table" then leaveRow
    else if rowGroupNames.contains name then
      if (← get).inScope .table [name] then leaveRow else done
    else if ["body", "caption", "col", "colgroup", "html", "td", "th"].contains name then done
    else inTableRule t
  | _ => inTableRule t

def closeCell (names : List String) : Build Unit := do
  closeImplied ""
  popThrough names
  clearToMarker
  setMode .inRow

def inCellRule : Rule := fun t => do
  match t with
  | .startTag head =>
    if tablePartNames.contains head.name then
      if (← get).inScope .table ["td", "th"] then
        closeCell ["td", "th"]
        again
      else done
    else bodyRule t
  | .endTag name =>
    if name == "td" || name == "th" then
      if (← get).inScope .table [name] then closeCell [name]
      done
    else if ["body", "caption", "col", "colgroup", "html"].contains name then done
    else if ["table", "tbody", "tfoot", "thead", "tr"].contains name then
      if (← get).inScope .table [name] then
        closeCell ["td", "th"]
        again
      else done
    else bodyRule t
  | _ => bodyRule t

end Estate.Html
