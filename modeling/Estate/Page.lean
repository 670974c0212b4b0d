import Estate.Flight
import Estate.Html.Page
import Estate.LinkedData
import Estate.Script.Scan
import Estate.Script.Value

/-!
A page, and the structured data in it.
-/

namespace Estate

/-- The text of a page, its address, how deep references in its streamed data are followed, and its
tree. -/
structure Page where
  source : String
  address : String
  flightDepth : Nat
  nodes : List Html.Node

namespace Page

def read (source address : String) (flightDepth : Nat) : Page :=
  ⟨source, address, flightDepth, Html.ofText source⟩

def linkedData (p : Page) : List Json.Value := LinkedData.ofPage p.nodes

def flight (p : Page) : Flight := { Flight.ofSource p.source with depth := p.flightDepth }

/-- Scripts written in the page: those without a type and those with a type for scripts. -/
def scriptSelector : Selector :=
  ⟨.single [.type "script", .noneOf [.single [.attribute ⟨false, "type", none⟩]]] ::
    ["text/javascript", "application/javascript", "module"].map fun type =>
      .single [.type "script", .attribute ⟨false, "type", some ⟨.equal, type, none⟩⟩]⟩

/-- The variables of the scripts in the page; a later value takes the place of an earlier one. -/
def scriptValues (p : Page) : Json.Members :=
  Keyed.ofList ((scriptSelector.select p.nodes).flatMap fun s =>
    let source := s.node.innerText
    if source.toList.all Text.isBlank then [] else Script.valuesOf source)

/-- The name of a variable without that of the object that holds it. -/
def bareName (name : String) : String :=
  .ofList ((Text.after? "window.".toList name.toList).getD name.toList)

/-- The value a name has among those of variables, with or without the object that holds it. -/
def known? (values : Json.Members) (name : String) : Option Json.Value :=
  (Keyed.get? values name).or (Keyed.get? values (bareName name))

/-- The value that an assignment in the text of the page gives to a name. -/
def scanned? (p : Page) (name : String) : Option Json.Value :=
  Script.scan? p.source (bareName name)

/-- The value of a variable: as the scripts say, or else as an assignment in the text of the page
says. -/
def lookUp? (p : Page) (name : String) : Option Json.Value :=
  (known? p.scriptValues name).or (p.scanned? name)

end Page

end Estate
