import Estate.Json.Path
import Estate.Json.Term
import Estate.Selector.Match
import Estate.Text.Case
import Estate.Text.Replace

/-!
Linked data in a page: JSON objects that say of what type they are.
-/

namespace Estate.LinkedData

open Json

/-- Scripts that hold linked data. -/
def selector : Selector :=
  ⟨[.single [.type "script", .attribute ⟨false, "type", some ⟨.equal, "application/ld+json", none⟩⟩]]⟩

/-- The values of the blocks that can be read. -/
def blocks (nodes : List Html.Node) : List Value :=
  (selector.select nodes).filterMap fun s => Value.ofText? (Text.trimmed s.innerMarkup)

def hasType (ms : Members) : Bool := Keyed.contains ms "@type"

mutual

/-- The objects with a type in a value: in lists, in the lists that are the graph of an object, and
then the object itself without its graph. -/
def objectsIn : Value → List Value
  | .array items => objectsAmong items
  | .object ms =>
    let own := Keyed.erase ms "@graph"
    objectsInGraph ms ++ if hasType own then [.object own] else []
  | _ => []

def objectsAmong : List Value → List Value
  | [] => []
  | v :: vs => objectsIn v ++ objectsAmong vs

def objectsInGraph : List (String × Value) → List Value
  | [] => []
  | (key, .array items) :: ms => if key == "@graph" then objectsAmong items else objectsInGraph ms
  | _ :: ms => objectsInGraph ms

end

def ofPage (nodes : List Html.Node) : List Value := objectsAmong (blocks nodes)

/-- The name of a type without the address of the vocabulary. -/
def bareType (s : String) : String :=
  let cs := s.toList
  .ofList (((Text.after? "https://schema.org/".toList cs).or
    (Text.after? "http://schema.org/".toList cs)).getD cs)

def isOfType (v : Value) (type : String) : Bool :=
  let fits (v : Value) : Bool := match v with
    | .string s => Text.sameIgnoringAsciiCase (bareType s) type
    | _ => false
  match v.member? "@type" with
  | some (.array types) => types.any fits
  | some t => fits t
  | none => false

/-- The value at a path in the first object, of a type if one is given, that has one there. -/
def find? (objects : List Value) (type : Option String) (path : String) : Option Value :=
  (objects.filter fun v => type.all (isOfType v)).findSome? fun v =>
    (v.at? path).filter (!·.isNull)

end Estate.LinkedData
