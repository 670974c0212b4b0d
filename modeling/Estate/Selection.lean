import Estate.Json.Path
import Estate.Json.Term
import Estate.LookupError
import Estate.Selector.Match

/-!
What is read of the elements that a selector selects.
-/

namespace Estate.Selection

open Html

inductive Reading where
  | text
  | markup
  | attribute (name : String)
  /-- A path into the JSON value of an attribute. -/
  | attributePath (name path : String)
deriving DecidableEq

/-- Without an accessor the text is read. An attribute is named, with a path behind a point. -/
def Reading.ofAccessor (accessor : Option String) : Reading :=
  match accessor.getD "text" with
  | "text" | "innerText" => .text
  | "html" | "innerHTML" => .markup
  | name =>
    match Text.cutAt? ['.'] name.toList with
    | some (name, path) => .attributePath (.ofList name) (.ofList path)
    | none => .attribute name

def Reading.value? (r : Reading) (s : Spot) : Except LookupError (Option String) :=
  match r with
  | .text => .ok (some (Text.trimmed s.innerText))
  | .markup => .ok (some s.innerMarkup)
  | .attribute name => .ok (s.attribute? name)
  | .attributePath name path =>
    match s.attribute? name with
    | none => .ok none
    | some raw =>
      match Json.Value.ofText? raw with
      | some v => .ok ((v.at? path).bind Json.Value.plainText?)
      | none => .error (.attributeJson name)

/-- One element by its number, the first, or all. -/
def pick (nth : Option Nat) (firstOnly : Bool) (spots : List Spot) : List Spot :=
  match nth with
  | some n => (spots[n]?).toList
  | none => if firstOnly then spots.take 1 else spots

def values (nodes : List Node) (selector : String) (accessor : Option String) (nth : Option Nat)
    (firstOnly : Bool) : Except LookupError (List String) :=
  match Selector.ofText? selector with
  | none => .error (.selector selector)
  | some sel =>
    let spots := pick nth firstOnly (sel.select nodes)
    (spots.mapM (Reading.ofAccessor accessor).value?).map fun found => found.filterMap id

end Estate.Selection
