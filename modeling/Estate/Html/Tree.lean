import Estate.Keyed

/-!
The tree of a page: elements with their attributes and content, texts and comments; the text of an
element, and its content written as markup.
-/

namespace Estate.Html

/-- The vocabulary an element belongs to. -/
inductive Vocabulary where
  | html
  | svg
  | mathml
deriving DecidableEq

/-- An attribute. One from another vocabulary has a mark before its name, which may be empty. -/
structure Attribute where
  mark : Option String
  name : String
  value : String
deriving DecidableEq

/-- An element without its content. -/
structure Tag where
  vocabulary : Vocabulary
  name : String
  attributes : List Attribute
deriving DecidableEq

/-- The value of an attribute without a mark. -/
def Tag.value? (t : Tag) (name : String) : Option String :=
  (t.attributes.find? fun a => a.mark.isNone && a.name == name).map (·.value)

/-- The elements of a page are numbered in the order in which they are opened. -/
inductive Node where
  | element (serial : Nat) (tag : Tag) (children : List Node)
  | text (s : String)
  | comment (s : String)

namespace Node

mutual

/-- The texts inside a node, in the order of the page. -/
def texts : Node → List String
  | element _ _ children => textsOf children
  | text s => [s]
  | comment _ => []

def textsOf : List Node → List String
  | [] => []
  | n :: ns => texts n ++ textsOf ns

end

def innerText (n : Node) : String := .join n.texts

/-- Elements written without an end tag. -/
def voidNames : List String :=
  ["area", "base", "basefont", "bgsound", "br", "col", "embed", "frame", "hr", "img", "input",
    "keygen", "link", "meta", "param", "source", "track", "wbr"]

/-- Elements whose text is written as it is. -/
def rawNames : List String :=
  ["style", "script", "xmp", "iframe", "noembed", "noframes", "plaintext"]

def escapeChar (inAttribute : Bool) (c : Char) : String :=
  match c with
  | '&' => "&amp;"
  | '\u00a0' => "&nbsp;"
  | '"' => if inAttribute then "&quot;" else "\""
  | '<' => if inAttribute then "<" else "&lt;"
  | '>' => if inAttribute then ">" else "&gt;"
  | _ => c.toString

def escape (inAttribute : Bool) (s : String) : String :=
  .join (s.toList.map (escapeChar inAttribute))

def attributeMarkup (a : Attribute) : String :=
  let mark := match a.mark with
    | some mark => if mark.isEmpty then "" else mark ++ ":"
    | none => ""
  " " ++ mark ++ a.name ++ "=\"" ++ escape true a.value ++ "\""

mutual

/-- A node written as markup, in an element whose text is written as it is or not. -/
def markup (raw : Bool) : Node → String
  | text s => if raw then s else escape false s
  | comment s => "<!--" ++ s ++ "-->"
  | element _ tag children =>
    let isHtml := tag.vocabulary == .html
    let start := "<" ++ tag.name ++ .join (tag.attributes.map attributeMarkup) ++ ">"
    if isHtml && voidNames.contains tag.name then start
    else start ++ markupOf (isHtml && rawNames.contains tag.name) children ++ "</" ++ tag.name ++ ">"

def markupOf (raw : Bool) : List Node → String
  | [] => ""
  | n :: ns => markup raw n ++ markupOf raw ns

end

/-- The content of an element as markup. Its own text is always escaped. -/
def innerMarkup : Node → String
  | element _ _ children => markupOf false children
  | _ => ""

end Node

end Estate.Html
