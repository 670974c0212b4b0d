import Estate.Html.Foreign
import Estate.Html.Rules.Head

/-!
What a token does in the body of a page.
-/

namespace Estate.Html

open Builder

/-- Close the paragraph that is open. -/
def closeParagraph : Build Unit := do
  closeImplied "p"
  popThrough ["p"]

def endParagraph : Build Unit := do
  if (← get).inScope .button ["p"] then closeParagraph

/-- Close the innermost element of the name, unless a special element is met before it. -/
def closeOther (name : String) : Build Unit := do
  let b ← get
  let inner := b.stack.takeWhile fun i => !b.isHtml i [name] && !b.isSpecial i
  match (b.stack.drop inner.length).head? with
  | some i =>
    if b.isHtml i [name] then
      closeImplied name
      modify fun b => { b with stack := (b.stack.dropWhile (· != i)).tail }
  | none => pure ()

/-! ### Formatting that does not nest -/

/-- What is moved when a formatting element is closed inside a special one: the last node placed, and
the copy behind which the new entry for the formatting element goes. -/
structure Moving where
  last : Nat
  bookmark : Option Nat

/-- Copy one of the elements between a special element and the formatting element it stands in; the
first three of them are kept open if they are formatting elements. -/
def copyBetween (furthest : Nat) (m : Moving) (k i : Nat) : Build Moving := do
  let entry := (← get).formats.find? (·.cell? == some i)
  match entry with
  | some (.element _ tag) =>
    if k ≥ 3 then
      removeFormat i
      removeOpen i
      return m
    else
      let new ← createElement tag
      replaceFormat i (.element new tag)
      modify fun b => { b with
        stack := b.stack.map fun j => if j == i then new else j
        cells := b.cells.put m.last ⟨new, none⟩ }
      return ⟨new, if m.last == furthest then some new else m.bookmark⟩
  | _ =>
    removeOpen i
    return m

/-- Put the entry for a formatting element in place of an old one, or behind a bookmark. -/
def moveFormat (old : Nat) (bookmark : Option Nat) (new : Format) : Build Unit :=
  match bookmark with
  | none => replaceFormat old new
  | some mark => do
    removeFormat old
    modify fun b => { b with
      formats := b.formats.flatMap fun f => if f.cell? == some mark then [new, f] else [f] }

/-- Close one formatting element of the name. The answer tells whether there may be another. -/
def closeFormatOnce (name : String) : Build Bool := do
  let b ← get
  match latestFormat? b name with
  | none =>
    closeOther name
    return false
  | some (i, tag) =>
    if !b.stack.contains i then
      removeFormat i
      return false
    else if !b.cellInScope i then return false
    else
      let inner := b.stack.takeWhile (· != i)
      match (inner.filter b.isSpecial).getLast? with
      | none =>
        modify fun b => { b with stack := (b.stack.dropWhile (· != i)).tail }
        removeFormat i
        return false
      | some furthest =>
        let ancestor := ((b.stack.dropWhile (· != i)).tail).headD 0
        let between := (inner.dropWhile (· != furthest)).tail
        let mut m : Moving := ⟨furthest, none⟩
        for (k, j) in (List.range between.length).zip between do
          m ← copyBetween furthest m k j
        modify fun b => { b with cells := b.cells.put m.last (placeIn b ancestor) }
        let new ← createElement tag
        modify fun b => { b with cells := (b.cells.giveChildren furthest new).put new ⟨furthest, none⟩ }
        moveFormat i m.bookmark (.element new tag)
        removeOpen i
        modify fun b => { b with
          stack := b.stack.flatMap fun j => if j == furthest then [new, j] else [j] }
        return true

/-- Close a formatting element; what follows it in a special element is formatted again. -/
def closeFormat (name : String) : Build Unit := do
  let b ← get
  let atTop := b.currentIs [name] && !b.formats.any fun f => f.cell? == b.stack.head?
  if atTop then pop
  else
    let mut more := true
    for _ in List.range 8 do
      if more then more ← closeFormatOnce name

/-! ### Start tags -/

def blockNames : List String :=
  ["address", "article", "aside", "blockquote", "center", "details", "dialog", "dir", "div", "dl",
    "fieldset", "figcaption", "figure", "footer", "header", "hgroup", "main", "menu", "nav", "ol",
    "search", "section", "summary", "ul"]

def headingNames : List String := ["h1", "h2", "h3", "h4", "h5", "h6"]

def formattingNames : List String :=
  ["b", "big", "code", "em", "font", "i", "s", "small", "strike", "strong", "tt", "u"]

def openFormat (head : TagHead) : Build Unit := do
  let tag := htmlTag head
  let i ← openElement tag
  addFormat i tag

/-- Close an open item of one of the names, unless another special element is met before it. -/
def closeItem (names : List String) : Build Unit := do
  let b ← get
  let passes (i : Nat) : Bool :=
    !b.isHtml i names && (!b.isSpecial i || b.isHtml i ["address", "div", "p"])
  match (b.stack.dropWhile passes).head? with
  | some i =>
    if b.isHtml i names then
      let name := ((b.cells.tag? i).map (·.name)).getD ""
      closeImplied name
      popThrough [name]
  | none => pure ()

def openFrameset (head : TagHead) : Build Unit := do
  let b ← get
  match b.stack.reverse with
  | root :: second :: _ =>
    if b.isHtml second ["body"] && b.framesetOk then
      modify fun b => { b with cells := b.cells.remove second, stack := [root] }
      openHtml head
      setMode .inFrameset
  | _ => pure ()

def mergeBody (head : TagHead) : Build Unit := do
  let b ← get
  match b.stack.reverse with
  | _ :: second :: _ =>
    if b.isHtml second ["body"] && !b.hasOpen ["template"] then
      refuseFrameset
      addAttributes second head.attributes
  | _ => pure ()

def openForm (head : TagHead) : Build Unit := do
  let inTemplate := (← get).hasOpen ["template"]
  if (← get).form.isNone || inTemplate then
    endParagraph
    openHtml head
    if !inTemplate then modify fun b => { b with form := b.stack.head? }

def openSelect (head : TagHead) : Build Unit := do
  reopenFormats
  openHtml head
  refuseFrameset
  let inTable := [Mode.inTable, .inCaption, .inTableBody, .inRow, .inCell].contains (← get).mode
  setMode (if inTable then .inSelectInTable else .inSelect)

def isHidden (head : TagHead) : Bool :=
  (head.attributes.lookup "type").any fun t => Text.asciiLower t == "hidden"

def openAnchor (head : TagHead) : Build Unit := do
  match latestFormat? (← get) "a" with
  | some (i, _) =>
    closeFormat "a"
    removeFormat i
    removeOpen i
  | none => pure ()
  reopenFormats
  openFormat head

/-- A start tag in the body. -/
def bodyStart (head : TagHead) : Build Unit := do
  let name := head.name
  let inNames (names : List String) : Bool := names.contains name
  if name == "html" then discard (mergeRoot head)
  else if headNames.contains name then headTag head
  else if name == "body" then mergeBody head
  else if name == "frameset" then openFrameset head
  else if name == "p" || blockNames.contains name then
    endParagraph
    openHtml head
  else if headingNames.contains name then
    endParagraph
    if (← get).currentIs headingNames then pop
    openHtml head
  else if inNames ["pre", "listing"] then
    endParagraph
    openHtml head
    modify fun b => { b with dropLineFeed := true, framesetOk := false }
  else if name == "form" then openForm head
  else if inNames ["li", "dd", "dt"] then
    refuseFrameset
    closeItem (if name == "li" then ["li"] else ["dd", "dt"])
    endParagraph
    openHtml head
  else if name == "plaintext" then
    endParagraph
    openHtml head
    modify fun b => { b with content := .plain }
  else if name == "button" then
    if (← get).inScope .general ["button"] then
      closeImplied ""
      popThrough ["button"]
    reopenFormats
    openHtml head
    refuseFrameset
  else if name == "a" then openAnchor head
  else if formattingNames.contains name then
    reopenFormats
    openFormat head
  else if name == "nobr" then
    reopenFormats
    if (← get).inScope .general ["nobr"] then
      closeFormat "nobr"
      reopenFormats
    openFormat head
  else if inNames ["applet", "marquee", "object"] then
    reopenFormats
    openHtml head
    addMarker
    refuseFrameset
  else if name == "table" then
    if !(← get).oldLayout then endParagraph
    openHtml head
    refuseFrameset
    setMode .inTable
  else if inNames ["area", "br", "embed", "img", "keygen", "wbr", "image"] then
    reopenFormats
    insertVoid (if name == "image" then { head with name := "img" } else head)
    refuseFrameset
  else if name == "input" then
    reopenFormats
    insertVoid head
    if !isHidden head then refuseFrameset
  else if inNames ["param", "source", "track"] then insertVoid head
  else if name == "hr" then
    endParagraph
    insertVoid head
    refuseFrameset
  else if name == "textarea" then
    refuseFrameset
    openText head (.decoded name)
    modify fun b => { b with dropLineFeed := true }
  else if name == "xmp" then
    endParagraph
    reopenFormats
    refuseFrameset
    openText head (.raw name)
  else if name == "iframe" then
    refuseFrameset
    openText head (.raw name)
  else if inNames ["noembed", "noscript"] then openText head (.raw name)
  else if name == "select" then openSelect head
  else if inNames ["optgroup", "option"] then
    if (← get).currentIs ["option"] then pop
    reopenFormats
    openHtml head
  else if inNames ["rb", "rtc", "rp", "rt"] then
    if (← get).inScope .general ["ruby"] then
      closeImplied (if inNames ["rp", "rt"] then "rtc" else "")
    openHtml head
  else if inNames ["math", "svg"] then
    reopenFormats
    openForeign (if name == "svg" then .svg else .mathml) head
  else if inNames ["caption", "col", "colgroup", "frame", "head", "tbody", "td", "tfoot", "th",
      "thead", "tr"] then pure ()
  else
    reopenFormats
    openHtml head

/-! ### End tags -/

def closeForm : Build Unit := do
  let b ← get
  if b.hasOpen ["template"] then
    if b.inScope .general ["form"] then
      closeImplied ""
      popThrough ["form"]
  else
    modify fun b => { b with form := none }
    match b.form with
    | some i =>
      if b.cellInScope i then
        closeImplied ""
        removeOpen i
    | none => pure ()

/-- An end tag in the body, other than those of the body and the page. -/
def bodyEnd (name : String) : Build Unit := do
  let inNames (names : List String) : Bool := names.contains name
  let b ← get
  if name == "template" then discard closeTemplate
  else if blockNames.contains name || inNames ["button", "listing", "pre"] then
    if b.inScope .general [name] then
      closeImplied ""
      popThrough [name]
  else if name == "form" then closeForm
  else if name == "p" then
    if !b.inScope .button ["p"] then openNamed "p"
    closeParagraph
  else if name == "li" then
    if b.inScope .listItem ["li"] then
      closeImplied "li"
      popThrough ["li"]
  else if inNames ["dd", "dt"] then
    if b.inScope .general [name] then
      closeImplied name
      popThrough [name]
  else if headingNames.contains name then
    if b.inScope .general headingNames then
      closeImplied ""
      popThrough headingNames
  else if formattingNames.contains name || inNames ["a", "nobr"] then closeFormat name
  else if inNames ["applet", "marquee", "object"] then
    if b.inScope .general [name] then
      closeImplied ""
      popThrough [name]
      clearToMarker
  else if name == "br" then
    reopenFormats
    insertVoid ⟨"br", [], false⟩
    refuseFrameset
  else closeOther name

/-- The end of the page inside a template. -/
def finishTemplate : Build Bool := do
  if (← get).hasOpen ["template"] then
    leaveTemplate
    again
  else done

def bodyRule : Rule := fun t => do
  match t with
  | .nul => done
  | .blank s =>
    reopenFormats
    insertText s
    done
  | .text s =>
    reopenFormats
    insertText s
    refuseFrameset
    done
  | .comment s =>
    insertComment s
    done
  | .doctype _ _ _ _ => done
  | .startTag head =>
    bodyStart head
    done
  | .endTag name =>
    if name == "body" || name == "html" then
      if (← get).inScope .general ["body"] then
        setMode .afterBody
        return name == "html"
      else done
    else
      bodyEnd name
      done
  | .finish => if (← get).templateModes.isEmpty then done else finishTemplate

/-- What a token does in an element of another vocabulary; the rule given is for end tags that
close nothing there. -/
def foreignRule (outside : Rule) : Rule := fun t => do
  match t with
  | .nul =>
    insertText "\ufffd"
    done
  | .blank s =>
    insertText s
    done
  | .text s =>
    insertText s
    refuseFrameset
    done
  | .comment s =>
    insertComment s
    done
  | .doctype _ _ _ _ | .finish => done
  | .startTag head =>
    if breaksOut head then
      leaveForeign
      again
    else
      let b ← get
      openForeign (((b.stack.head?.bind b.cells.tag?).map (·.vocabulary)).getD .html) head
      done
  | .endTag name =>
    if name == "br" || name == "p" then
      leaveForeign
      again
    else
      let b ← get
      match b.closeForeign name b.stack with
      | some stack =>
        modify fun b => { b with stack }
        done
      | none => outside t

end Estate.Html
