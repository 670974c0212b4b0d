import Estate.Html.Cells
import Estate.Html.Token

/-!
The state in which the tokens of a page become a tree: the elements still open, the formatting that
is to be opened again, and the part of the page that is being read.
-/

namespace Estate.Html

/-- The part of the page that is being read. -/
inductive Mode where
  | initial
  | beforeHtml
  | beforeHead
  | inHead
  | afterHead
  | inBody
  | text
  | inTable
  | inTableText
  | inCaption
  | inColumnGroup
  | inTableBody
  | inRow
  | inCell
  | inSelect
  | inSelectInTable
  | inTemplate
  | afterBody
  | inFrameset
  | afterFrameset
  | afterAfterBody
  | afterAfterFrameset
deriving DecidableEq

/-- An entry in the list of formatting elements. -/
inductive Format where
  | marker
  | element (cell : Nat) (tag : Tag)

def Format.isMarker : Format → Bool
  | marker => true
  | element _ _ => false

def Format.cell? : Format → Option Nat
  | marker => none
  | element i _ => some i

structure Builder where
  cells : Cells
  /-- The open elements, the innermost first. -/
  stack : List Nat
  /-- Formatting elements, the latest first. -/
  formats : List Format
  mode : Mode
  /-- The mode that goes on behind a text. -/
  resumed : Mode
  templateModes : List Mode
  head : Option Nat
  form : Option Nat
  framesetOk : Bool
  fostering : Bool
  /-- The page does not say that it keeps to the standard layout: tables may stand in paragraphs. -/
  oldLayout : Bool
  dropLineFeed : Bool
  /-- Text read between the parts of a table, back to front. -/
  tableText : List Token
  /-- How the text behind the last tag is read. -/
  content : Content

def Builder.start : Builder where
  cells := .empty
  stack := []
  formats := []
  mode := .initial
  resumed := .initial
  templateModes := []
  head := none
  form := none
  framesetOk := true
  fostering := false
  oldLayout := false
  dropLineFeed := false
  tableText := []
  content := .markup

/-- A step of construction. -/
abbrev Build := StateM Builder

namespace Builder

def isHtml (b : Builder) (i : Nat) (names : List String) : Bool :=
  (b.cells.tag? i).any fun t => t.vocabulary == .html && names.contains t.name

def currentIs (b : Builder) (names : List String) : Bool := b.stack.head?.any (b.isHtml · names)

/-- Some open element has one of the names. -/
def hasOpen (b : Builder) (names : List String) : Bool := b.stack.any (b.isHtml · names)

/-- Elements of other vocabularies that text in them is read in as in a page. -/
def isTextHost (t : Tag) : Bool :=
  match t.vocabulary with
  | .html => false
  | .mathml => ["mi", "mo", "mn", "ms", "mtext", "annotation-xml"].contains t.name
  | .svg => ["foreignObject", "desc", "title"].contains t.name

def scopeNames : List String :=
  ["applet", "caption", "html", "table", "td", "th", "marquee", "object", "template"]

/-- The limits of what an end tag can close. -/
inductive Scope where
  | general
  | listItem
  | button
  | table
  | select

def Scope.ends (scope : Scope) (t : Tag) : Bool :=
  let among (names : List String) := t.vocabulary == .html && names.contains t.name
  match scope with
  | .general => among scopeNames || isTextHost t
  | .listItem => among (scopeNames ++ ["ol", "ul"]) || isTextHost t
  | .button => among (scopeNames ++ ["button"]) || isTextHost t
  | .table => among ["html", "table", "template"]
  | .select => !among ["optgroup", "option"]

/-- The innermost open element that is wanted is met before the scope ends. -/
def reaches (b : Builder) (scope : Scope) (wanted : Nat → Bool) : List Nat → Bool
  | [] => false
  | i :: rest =>
    wanted i || (!(b.cells.tag? i).any scope.ends && b.reaches scope wanted rest)

def inScope (b : Builder) (scope : Scope) (names : List String) : Bool :=
  b.reaches scope (b.isHtml · names) b.stack

def cellInScope (b : Builder) (i : Nat) : Bool := b.reaches .general (· == i) b.stack

def specialNames : List String :=
  ["address", "applet", "area", "article", "aside", "base", "basefont", "bgsound", "blockquote",
    "body", "br", "button", "caption", "center", "col", "colgroup", "dd", "details", "dir", "div",
    "dl", "dt", "embed", "fieldset", "figcaption", "figure", "footer", "form", "frame", "frameset",
    "h1", "h2", "h3", "h4", "h5", "h6", "head", "header", "hgroup", "hr", "html", "iframe", "img",
    "input", "isindex", "li", "link", "listing", "main", "marquee", "menu", "meta", "nav", "noembed",
    "noframes", "noscript", "object", "ol", "p", "param", "plaintext", "pre", "script", "section",
    "select", "source", "style", "summary", "table", "tbody", "td", "template", "textarea", "tfoot",
    "th", "thead", "title", "tr", "track", "ul", "wbr", "xmp"]

def isSpecial (b : Builder) (i : Nat) : Bool :=
  (b.cells.tag? i).any fun t =>
    (t.vocabulary == .html && specialNames.contains t.name) || isTextHost t

end Builder

open Builder

def setMode (m : Mode) : Build Unit := modify fun b => { b with mode := m }

def refuseFrameset : Build Unit := modify fun b => { b with framesetOk := false }

def push (i : Nat) : Build Unit := modify fun b => { b with stack := i :: b.stack }

def pop : Build Unit := modify fun b => { b with stack := b.stack.tail }

/-- Close elements up to and with the innermost of the names. -/
def popThrough (names : List String) : Build Unit :=
  modify fun b => { b with stack := (b.stack.dropWhile (!b.isHtml · names)).tail }

/-- Close elements up to but without the innermost of the names. -/
def popTo (names : List String) : Build Unit :=
  modify fun b => { b with stack := b.stack.dropWhile (!b.isHtml · names) }

def removeOpen (i : Nat) : Build Unit :=
  modify fun b => { b with stack := b.stack.filter (· != i) }

def impliedNames : List String :=
  ["dd", "dt", "li", "optgroup", "option", "p", "rb", "rp", "rt", "rtc"]

/-- Close the elements whose end is implied, except one name. -/
def closeImplied (except : String) : Build Unit :=
  popWhile (impliedNames.filter (· != except))
where
  popWhile (names : List String) : Build Unit :=
    modify fun b => { b with stack := b.stack.dropWhile (b.isHtml · names) }

def closeAllImplied : Build Unit :=
  closeImplied.popWhile
    (impliedNames ++ ["caption", "colgroup", "tbody", "td", "tfoot", "th", "thead", "tr"])

/-- Where a node goes inside an element. In a table it goes before the table, if it is fostered. -/
def placeIn (b : Builder) (target : Nat) : Place :=
  if b.fostering && b.isHtml target ["table", "tbody", "tfoot", "thead", "tr"] then
    let inner := b.stack.takeWhile (!b.isHtml · ["table", "template"])
    match b.stack.drop inner.length with
    | [] => ⟨(b.stack.getLast?).getD 0, none⟩
    | host :: above =>
      if b.isHtml host ["template"] then ⟨host, none⟩
      else match b.cells.parent? host with
        | some parent => ⟨parent, some host⟩
        | none => ⟨above.headD 0, none⟩
  else ⟨target, none⟩

def place (b : Builder) : Place := placeIn b (b.stack.headD 0)

def insertText (s : String) : Build Unit :=
  modify fun b => { b with cells := b.cells.putText s (place b) }

def insertComment (s : String) : Build Unit :=
  modify fun b =>
    let (i, cells) := b.cells.create (.comment s)
    { b with cells := cells.put i (place b) }

/-- A comment at the end of a cell. -/
def insertCommentIn (target : Nat) (s : String) : Build Unit :=
  modify fun b =>
    let (i, cells) := b.cells.create (.comment s)
    { b with cells := cells.put i ⟨target, none⟩ }

/-- The order in which attributes are kept. -/
def Attribute.precedes (a b : Attribute) : Bool :=
  match a.mark, b.mark with
  | none, some _ => true
  | some _, none => false
  | none, none => a.name ≤ b.name
  | some s, some t => s < t || (s == t && a.name ≤ b.name)

def plainAttributes (attributes : List (String × String)) : List Attribute :=
  (attributes.map fun (name, value) => ⟨none, name, value⟩).mergeSort Attribute.precedes

def createElement (tag : Tag) : Build Nat :=
  modifyGet fun b =>
    let (i, cells) := b.cells.create (.element tag)
    (i, { b with cells })

/-- Open an element at the place for new nodes. -/
def openElement (tag : Tag) : Build Nat := do
  let i ← createElement tag
  modify fun b => { b with cells := b.cells.put i (place b) }
  push i
  return i

def htmlTag (head : TagHead) : Tag := ⟨.html, head.name, plainAttributes head.attributes⟩

def openHtml (head : TagHead) : Build Unit := discard (openElement (htmlTag head))

def openNamed (name : String) : Build Unit := discard (openElement ⟨.html, name, []⟩)

/-- An element without content. -/
def insertVoid (head : TagHead) : Build Unit := do
  openHtml head
  pop

/-- An element whose content is text. -/
def openText (head : TagHead) (content : Content) : Build Unit := do
  openHtml head
  modify fun b => { b with resumed := b.mode, mode := .text, content }

/-- Attributes that an element does not have yet. -/
def addAttributes (i : Nat) (attributes : List (String × String)) : Build Unit :=
  modify fun b => { b with
    cells := b.cells.change i fun c =>
      match c.content with
      | .element tag =>
        let new := attributes.filter fun a => (tag.value? a.1).isNone
        let all := (tag.attributes ++ plainAttributes new).mergeSort Attribute.precedes
        { c with content := .element { tag with attributes := all } }
      | _ => c }

/-! ### Formatting elements -/

def addMarker : Build Unit := modify fun b => { b with formats := .marker :: b.formats }

def clearToMarker : Build Unit :=
  modify fun b => { b with formats := (b.formats.dropWhile (!·.isMarker)).tail }

def removeFormat (i : Nat) : Build Unit :=
  modify fun b => { b with formats := b.formats.filter (·.cell? != some i) }

/-- The entries behind the last marker. -/
def latestFormats (b : Builder) : List Format := b.formats.takeWhile (!·.isMarker)

/-- The latest formatting element of a name behind the last marker. -/
def latestFormat? (b : Builder) (name : String) : Option (Nat × Tag) :=
  (latestFormats b).findSome? fun f =>
    match f with
    | .element i tag => if tag.name == name then some (i, tag) else none
    | .marker => none

/-- Add a formatting element; of more than three alike the earliest is dropped. -/
def addFormat (i : Nat) (tag : Tag) : Build Unit :=
  modify fun b =>
    let alike := (latestFormats b).filterMap fun f =>
      match f with
      | .element j t => if t == tag then some j else none
      | .marker => none
    let formats := match alike.drop 2 with
      | [] => b.formats
      | earliest :: more =>
        b.formats.filter (·.cell? != some (more.getLastD earliest))
    { b with formats := .element i tag :: formats }

def replaceFormat (old : Nat) (new : Format) : Build Unit :=
  modify fun b => { b with formats := b.formats.map fun f => if f.cell? == some old then new else f }

/-- Open again the formatting elements that have been closed since the last marker. -/
def reopenFormats : Build Unit := do
  let b ← get
  let closed := b.formats.takeWhile fun f =>
    match f.cell? with
    | some i => !b.stack.contains i
    | none => false
  for f in closed.reverse do
    match f with
    | .marker => pure ()
    | .element old tag =>
      let new ← openElement tag
      replaceFormat old (.element new tag)

/-! ### Choosing the part of the page anew -/

def modeFor (b : Builder) (i : Nat) (isLast : Bool) : Option Mode :=
  match (b.cells.tag? i).filter (·.vocabulary == .html) |>.map (·.name) with
  | some "select" =>
    let above := (b.stack.dropWhile (· != i)).tail
    let enclosing := above.takeWhile (!b.isHtml · ["template"])
    some (if enclosing.any (b.isHtml · ["table"]) then .inSelectInTable else .inSelect)
  | some "td" | some "th" => if isLast then none else some .inCell
  | some "tr" => some .inRow
  | some "tbody" | some "thead" | some "tfoot" => some .inTableBody
  | some "caption" => some .inCaption
  | some "colgroup" => some .inColumnGroup
  | some "table" => some .inTable
  | some "template" => b.templateModes.head?
  | some "head" => if isLast then none else some .inHead
  | some "body" => some .inBody
  | some "frameset" => some .inFrameset
  | some "html" => some (if b.head.isNone then .beforeHead else .afterHead)
  | _ => none

def resetMode : Build Unit :=
  modify fun b =>
    let found := b.stack.findSome? fun i => modeFor b i (b.stack.getLast? == some i)
    { b with mode := found.getD .inBody }

end Estate.Html
