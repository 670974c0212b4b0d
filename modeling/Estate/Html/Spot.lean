import Estate.Html.Tree
import Estate.Text.Blank

/-!
An element together with where it stands: the nodes before and after it, and its parent.
-/

namespace Estate.Html

/-- An element in its place. The nodes before it stand back to front. -/
inductive Spot where
  | mk (node : Node) (before after : List Node) (parent : Option Spot)

namespace Spot

def node : Spot → Node
  | mk node _ _ _ => node

def before : Spot → List Node
  | mk _ before _ _ => before

def after : Spot → List Node
  | mk _ _ after _ => after

def parent? : Spot → Option Spot
  | mk _ _ _ parent => parent

def tag (s : Spot) : Tag :=
  match s.node with
  | .element _ tag _ => tag
  | _ => ⟨.html, "", []⟩

def serial (s : Spot) : Nat :=
  match s.node with
  | .element serial _ _ => serial
  | _ => 0

def children (s : Spot) : List Node :=
  match s.node with
  | .element _ _ children => children
  | _ => []

def ancestors : Spot → List Spot
  | mk _ _ _ none => []
  | mk _ _ _ (some p) => p :: ancestors p

/-- The elements of a list of nodes behind others, in their places. -/
def rowFrom (parent : Option Spot) (before : List Node) : List Node → List Spot
  | [] => []
  | .element i tag children :: ns =>
    mk (.element i tag children) before ns parent ::
      rowFrom parent (.element i tag children :: before) ns
  | n :: ns => rowFrom parent (n :: before) ns

/-- The same, the nearest first, for nodes that stand back to front before others. -/
def rowBack (parent : Option Spot) (after : List Node) : List Node → List Spot
  | [] => []
  | .element i tag children :: ns =>
    mk (.element i tag children) ns after parent ::
      rowBack parent (.element i tag children :: after) ns
  | n :: ns => rowBack parent (n :: after) ns

/-- The sibling elements before, the nearest first. -/
def previous (s : Spot) : List Spot := rowBack s.parent? (s.node :: s.after) s.before

/-- The sibling elements after. -/
def following (s : Spot) : List Spot := rowFrom s.parent? (s.node :: s.before) s.after

/-- All elements among nodes and inside them, in the order of the page. -/
def allFrom (parent : Option Spot) (before : List Node) : List Node → List Spot
  | [] => []
  | .element i tag children :: ns =>
    let here := mk (.element i tag children) before ns parent
    here :: (allFrom (some here) [] children ++
      allFrom parent (.element i tag children :: before) ns)
  | n :: ns => allFrom parent (n :: before) ns

def all (nodes : List Node) : List Spot := allFrom none [] nodes

/-- All elements inside an element. -/
def inside (s : Spot) : List Spot := allFrom (some s) [] s.children

def innerText (s : Spot) : String := s.node.innerText

def innerMarkup (s : Spot) : String := s.node.innerMarkup

def attribute? (s : Spot) (name : String) : Option String := s.tag.value? name

/-- Blanks part the classes of an element. -/
def classes (s : Spot) : List String :=
  (s.tag.attributes.filter (·.name == "class")).flatMap fun a =>
    ((a.value.toList.splitOnP Text.isBlank).filter (!·.isEmpty)).map String.ofList

def id? (s : Spot) : Option String :=
  (s.tag.attributes.find? (·.name == "id")).map (·.value)

end Spot

end Estate.Html
