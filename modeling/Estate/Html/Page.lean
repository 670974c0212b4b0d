import Estate.Html.Rules.Select

/-!
The tree of a page, read from its text.
-/

namespace Estate.Html

open Builder

/-- The content of an element that is text, and its end. -/
def textRule : Rule := fun t => do
  match t with
  | .blank s | .text s =>
    insertText s
    done
  | .finish =>
    pop
    againIn (← get).resumed
  | .endTag _ =>
    pop
    setMode (← get).resumed
    done
  | _ => done

def Mode.rule : Mode → Rule
  | initial => initialRule
  | beforeHtml => beforeHtmlRule
  | beforeHead => beforeHeadRule
  | inHead => headRule
  | afterHead => afterHeadRule
  | inBody => bodyRule
  | text => textRule
  | inTable => inTableRule
  | inTableText => inTableTextRule
  | inCaption => inCaptionRule
  | inColumnGroup => inColumnGroupRule
  | inTableBody => inTableBodyRule
  | inRow => inRowRule
  | inCell => inCellRule
  | inSelect => inSelectRule
  | inSelectInTable => inSelectInTableRule
  | inTemplate => inTemplateRule
  | afterBody => afterBodyRule
  | inFrameset => inFramesetRule
  | afterFrameset => afterFramesetRule
  | afterAfterBody => afterAfterBodyRule
  | afterAfterFrameset => afterAfterFramesetRule

/-- Apply rules to a token until it has been dealt with, at most so many. -/
def applyRules (t : Token) : Nat → Build Unit
  | 0 => pure ()
  | n + 1 => do
    let b ← get
    let more ← if isForeign b t then foreignRule b.mode.rule t else b.mode.rule t
    if more then applyRules t n

/-- The token without a line feed at its start, if one is to be dropped. -/
def Token.trimmedFor (t : Token) (b : Builder) : Option Token :=
  let cut (build : String → Token) (s : String) : Option Token :=
    match s.toList with
    | ['\n'] => none
    | '\n' :: rest => some (build (.ofList rest))
    | _ => some t
  if b.dropLineFeed then
    match t with
    | .blank s => cut .blank s
    | .text s => cut .text s
    | _ => some t
  else some t

/-- Each token leads out of at most this many parts of the page, and out of all open templates. -/
def ruleLimit (b : Builder) : Nat := 40 + 2 * b.stack.length

def take (t : Token) : Build Unit := do
  let b ← get
  modify fun b => { b with dropLineFeed := false }
  match t.trimmedFor b with
  | some t => applyRules t (ruleLimit b)
  | none => pure ()

/-- Read a text to its end. Each round takes at least one character, but for the last and those
that take no text into an element whose content is text. -/
def readAll : Nat → List Char → Build Unit
  | 0, _ => pure ()
  | rounds + 1, cs => do
    let b ← get
    let (body, rest) := b.content.span cs
    if !body.isEmpty then
      modify fun b => { b with content := .markup }
      take (.text body)
      readAll rounds rest
    else
      modify fun b => { b with content := .markup }
      let dataAllowed := (b.stack.head?.bind b.cells.tag?).any (·.vocabulary != .html)
      let (token, rest) := nextToken dataAllowed rest
      if let some t := token then take t
      if !cs.isEmpty then readAll rounds rest

/-- The trees of a page: its root element, and comments beside it. -/
def ofText (s : String) : List Node :=
  let cs := sourceText s
  ((readAll (cs.length + 2) cs).run .start).2.cells.nodes

end Estate.Html
