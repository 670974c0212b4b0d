import Estate.Html.Rules.Table

/-!
What a token does in a list of choices, in a template, in a set of frames and after the end of the
page.
-/

namespace Estate.Html

open Builder

def closeSelect : Build Bool := do
  if (← get).inScope .select ["select"] then
    popThrough ["select"]
    resetMode
    again
  else done

def inSelectRule : Rule := fun t => do
  match t with
  | .nul | .doctype _ _ _ _ => done
  | .blank s | .text s =>
    insertText s
    done
  | .comment s =>
    insertComment s
    done
  | .startTag head =>
    match head.name with
    | "html" => mergeRoot head
    | "option" =>
      if (← get).currentIs ["option"] then pop
      openHtml head
      done
    | "optgroup" | "hr" =>
      if (← get).currentIs ["option"] then pop
      if (← get).currentIs ["optgroup"] then pop
      if head.name == "hr" then insertVoid head else openHtml head
      done
    | "select" =>
      discard closeSelect
      done
    | "input" | "keygen" | "textarea" => closeSelect
    | "script" | "template" =>
      headTag head
      done
    | _ => done
  | .endTag name =>
    match name with
    | "optgroup" =>
      let b ← get
      match b.stack with
      | i :: j :: _ => if b.isHtml i ["option"] && b.isHtml j ["optgroup"] then pop
      | _ => pure ()
      if (← get).currentIs ["optgroup"] then pop
      done
    | "option" =>
      if (← get).currentIs ["option"] then pop
      done
    | "select" =>
      discard closeSelect
      done
    | "template" => closeTemplate
    | _ => done
  | .finish => bodyRule t

def inSelectInTableRule : Rule := fun t => do
  let names := ["caption", "table", "tbody", "tfoot", "thead", "tr", "td", "th"]
  match t with
  | .startTag head =>
    if names.contains head.name then
      popThrough ["select"]
      resetMode
      again
    else inSelectRule t
  | .endTag name =>
    if names.contains name then
      if (← get).inScope .table [name] then
        popThrough ["select"]
        resetMode
        again
      else done
    else inSelectRule t
  | _ => inSelectRule t

/-- Read on in a template as in another part of the page. -/
def switchTemplate (m : Mode) : Build Bool := do
  modify fun b => { b with templateModes := m :: b.templateModes.tail }
  againIn m

def inTemplateRule : Rule := fun t => do
  match t with
  | .startTag head =>
    match head.name with
    | "base" | "basefont" | "bgsound" | "link" | "meta" | "noframes" | "script" | "style"
    | "template" | "title" =>
      headTag head
      done
    | "caption" | "colgroup" | "tbody" | "tfoot" | "thead" => switchTemplate .inTable
    | "col" => switchTemplate .inColumnGroup
    | "tr" => switchTemplate .inTableBody
    | "td" | "th" => switchTemplate .inRow
    | _ => switchTemplate .inBody
  | .endTag name => if name == "template" then closeTemplate else done
  | .finish => finishTemplate
  | _ => bodyRule t

def afterBodyRule : Rule := fun t => do
  match t with
  | .blank _ => bodyRule t
  | .comment s =>
    insertCommentIn (((← get).stack.getLast?).getD 0) s
    done
  | .doctype _ _ _ _ | .finish => done
  | .startTag head => if head.name == "html" then mergeRoot head else againIn .inBody
  | .endTag name =>
    if name == "html" then
      setMode .afterAfterBody
      done
    else againIn .inBody
  | _ => againIn .inBody

def keepBlanks (s : String) : Build Unit :=
  let blanks := s.toList.filter isSpace
  if blanks.isEmpty then pure () else insertText (.ofList blanks)

def inFramesetRule : Rule := fun t => do
  match t with
  | .blank s | .text s =>
    keepBlanks s
    done
  | .comment s =>
    insertComment s
    done
  | .startTag head =>
    match head.name with
    | "html" => mergeRoot head
    | "frameset" =>
      openHtml head
      done
    | "frame" =>
      insertVoid head
      done
    | "noframes" =>
      headTag head
      done
    | _ => done
  | .endTag name =>
    if name == "frameset" && (← get).stack.length > 1 then
      pop
      if !(← get).currentIs ["frameset"] then setMode .afterFrameset
    done
  | _ => done

def afterFramesetRule : Rule := fun t => do
  match t with
  | .blank s | .text s =>
    keepBlanks s
    done
  | .comment s =>
    insertComment s
    done
  | .startTag head =>
    match head.name with
    | "html" => mergeRoot head
    | "noframes" =>
      headTag head
      done
    | _ => done
  | .endTag name =>
    if name == "html" then setMode .afterAfterFrameset
    done
  | _ => done

def afterAfterBodyRule : Rule := fun t => do
  match t with
  | .blank _ => bodyRule t
  | .comment s =>
    insertCommentIn 0 s
    done
  | .doctype _ _ _ _ | .finish => done
  | .startTag head => if head.name == "html" then mergeRoot head else againIn .inBody
  | _ => againIn .inBody

def afterAfterFramesetRule : Rule := fun t => do
  match t with
  | .blank _ => bodyRule t
  | .comment s =>
    insertCommentIn 0 s
    done
  | .startTag head =>
    match head.name with
    | "html" => mergeRoot head
    | "noframes" =>
      headTag head
      done
    | _ => done
  | _ => done

end Estate.Html
