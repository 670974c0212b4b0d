import Estate.Html.Builder

/-!
What a token does before the body of a page. A rule tells whether the token has still to be dealt
with, in the mode it has led to.
-/

namespace Estate.Html

open Builder

abbrev Rule := Token → Build Bool

def done : Build Bool := return false

def again : Build Bool := return true

def againIn (m : Mode) : Build Bool := do
  setMode m
  return true

/-- Document types written for old browsers. -/
def oldPublicStarts : List String :=
  ["-//advasoft ltd//dtd html 3.0 aswedit + extensions//", "-//as//dtd html 3.0 aswedit + extensions//",
    "-//ietf//dtd html 2.0 level 1//", "-//ietf//dtd html 2.0 level 2//",
    "-//ietf//dtd html 2.0 strict level 1//", "-//ietf//dtd html 2.0 strict level 2//",
    "-//ietf//dtd html 2.0 strict//", "-//ietf//dtd html 2.0//", "-//ietf//dtd html 2.1e//",
    "-//ietf//dtd html 3.0//", "-//ietf//dtd html 3.2 final//", "-//ietf//dtd html 3.2//",
    "-//ietf//dtd html 3//", "-//ietf//dtd html level 0//", "-//ietf//dtd html level 1//",
    "-//ietf//dtd html level 2//", "-//ietf//dtd html level 3//",
    "-//ietf//dtd html strict level 0//", "-//ietf//dtd html strict level 1//",
    "-//ietf//dtd html strict level 2//", "-//ietf//dtd html strict level 3//",
    "-//ietf//dtd html strict//", "-//ietf//dtd html//", "-//metrius//dtd metrius presentational//",
    "-//microsoft//dtd internet explorer 2.0 html strict//",
    "-//microsoft//dtd internet explorer 2.0 html//",
    "-//microsoft//dtd internet explorer 2.0 tables//",
    "-//microsoft//dtd internet explorer 3.0 html strict//",
    "-//microsoft//dtd internet explorer 3.0 html//",
    "-//microsoft//dtd internet explorer 3.0 tables//", "-//netscape comm. corp.//dtd html//",
    "-//netscape comm. corp.//dtd strict html//", "-//o'reilly and associates//dtd html 2.0//",
    "-//o'reilly and associates//dtd html extended 1.0//",
    "-//o'reilly and associates//dtd html extended relaxed 1.0//",
    "-//softquad software//dtd hotmetal pro 6.0::19990601::extensions to html 4.0//",
    "-//softquad//dtd hotmetal pro 4.0::19971010::extensions to html 4.0//",
    "-//spyglass//dtd html 2.0 extended//", "-//sq//dtd html 2.0 hotmetal + extensions//",
    "-//sun microsystems corp.//dtd hotjava html//",
    "-//sun microsystems corp.//dtd hotjava strict html//", "-//w3c//dtd html 3 1995-03-24//",
    "-//w3c//dtd html 3.2 draft//", "-//w3c//dtd html 3.2 final//", "-//w3c//dtd html 3.2//",
    "-//w3c//dtd html 3.2s draft//", "-//w3c//dtd html 4.0 frameset//",
    "-//w3c//dtd html 4.0 transitional//", "-//w3c//dtd html experimental 19960712//",
    "-//w3c//dtd html experimental 970421//", "-//w3c//dtd w3 html//", "-//w3o//dtd w3 html 3.0//",
    "-//webtechs//dtd mozilla html 2.0//", "-//webtechs//dtd mozilla html//"]

/-- The document type asks for the ways of old browsers. -/
def isOldType (name publicId systemId : Option String) (faulty : Bool) : Bool :=
  let publicId := publicId.map Text.asciiLower
  let systemId := systemId.map Text.asciiLower
  let starts (list : List String) := publicId.any fun id => list.any fun start => id.startsWith start
  faulty || name != some "html" ||
    publicId.any ["-//w3o//dtd w3 html strict 3.0//en//", "-/w3c/dtd html 4.0 transitional/en",
      "html"].contains ||
    systemId == some "http://www.ibm.com/data/dtd/v11/ibmxhtml1-transitional.dtd" ||
    starts oldPublicStarts ||
    (systemId.isNone &&
      starts ["-//w3c//dtd html 4.01 frameset//", "-//w3c//dtd html 4.01 transitional//"])

def initialRule : Rule
  | .blank _ => done
  | .comment s => do
    insertCommentIn 0 s
    done
  | .doctype name publicId systemId faulty => do
    modify fun b => { b with oldLayout := isOldType name publicId systemId faulty }
    setMode .beforeHtml
    done
  | _ => do
    modify fun b => { b with oldLayout := true }
    againIn .beforeHtml

/-- Open the root of the page. -/
def openRoot (attributes : List (String × String)) : Build Unit := do
  let i ← createElement ⟨.html, "html", plainAttributes attributes⟩
  modify fun b => { b with cells := b.cells.put i ⟨0, none⟩ }
  push i
  setMode .beforeHead

/-- End tags that stand for what they would close. -/
def impliesBody (name : String) : Bool := ["body", "html", "br"].contains name

def beforeHtmlRule : Rule := fun t => do
  let otherwise : Build Bool := do
    openRoot []
    again
  match t with
  | .doctype _ _ _ _ | .blank _ => done
  | .comment s =>
    insertCommentIn 0 s
    done
  | .startTag head =>
    if head.name == "html" then
      openRoot head.attributes
      done
    else otherwise
  | .endTag name => if impliesBody name || name == "head" then otherwise else done
  | _ => otherwise

/-- A start tag of the root inside the page gives the root its new attributes. -/
def mergeRoot (head : TagHead) : Build Bool := do
  let b ← get
  match b.stack.getLast? with
  | some root => if b.hasOpen ["template"] then pure () else addAttributes root head.attributes
  | none => pure ()
  done

def openHead (attributes : List (String × String)) : Build Unit := do
  let i ← openElement ⟨.html, "head", plainAttributes attributes⟩
  modify fun b => { b with head := some i }
  setMode .inHead

def beforeHeadRule : Rule := fun t => do
  let otherwise : Build Bool := do
    openHead []
    again
  match t with
  | .doctype _ _ _ _ | .blank _ => done
  | .comment s =>
    insertComment s
    done
  | .startTag head =>
    if head.name == "html" then mergeRoot head
    else if head.name == "head" then
      openHead head.attributes
      done
    else otherwise
  | .endTag name => if impliesBody name || name == "head" then otherwise else done
  | _ => otherwise

/-- Tags of the head that may stand elsewhere too. -/
def headNames : List String :=
  ["base", "basefont", "bgsound", "link", "meta", "noframes", "script", "style", "template", "title"]

def openTemplate (head : TagHead) : Build Unit := do
  openHtml head
  addMarker
  refuseFrameset
  modify fun b => { b with mode := .inTemplate, templateModes := .inTemplate :: b.templateModes }

def leaveTemplate : Build Unit := do
  popThrough ["template"]
  clearToMarker
  modify fun b => { b with templateModes := b.templateModes.tail }
  resetMode

/-- The tags of the head, wherever they stand. -/
def headTag (head : TagHead) : Build Unit :=
  match head.name with
  | "title" => openText head (.decoded "title")
  | "noscript" | "noframes" | "style" => openText head (.raw head.name)
  | "script" => openText head .script
  | "template" => openTemplate head
  | _ => insertVoid head

def closeTemplate : Build Bool := do
  if (← get).hasOpen ["template"] then
    closeAllImplied
    leaveTemplate
  done

def headRule : Rule := fun t => do
  let otherwise : Build Bool := do
    pop
    againIn .afterHead
  match t with
  | .blank s =>
    insertText s
    done
  | .comment s =>
    insertComment s
    done
  | .doctype _ _ _ _ => done
  | .startTag head =>
    if head.name == "html" then mergeRoot head
    else if head.name == "head" then done
    else if head.name == "noscript" || headNames.contains head.name then
      headTag head
      done
    else otherwise
  | .endTag name =>
    if name == "head" then
      pop
      setMode .afterHead
      done
    else if name == "template" then closeTemplate
    else if impliesBody name then otherwise
    else done
  | _ => otherwise

def afterHeadRule : Rule := fun t => do
  let otherwise : Build Bool := do
    openNamed "body"
    againIn .inBody
  match t with
  | .blank s =>
    insertText s
    done
  | .comment s =>
    insertComment s
    done
  | .doctype _ _ _ _ => done
  | .startTag head =>
    match head.name with
    | "html" => mergeRoot head
    | "body" =>
      openHtml head
      refuseFrameset
      setMode .inBody
      done
    | "frameset" =>
      openHtml head
      setMode .inFrameset
      done
    | "head" => done
    | name =>
      if headNames.contains name then
        match (← get).head with
        | some i =>
          push i
          headTag head
          removeOpen i
        | none => headTag head
        done
      else otherwise
  | .endTag name =>
    if name == "template" then closeTemplate
    else if impliesBody name then otherwise
    else done
  | _ => otherwise

end Estate.Html
