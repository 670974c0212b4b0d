import Estate.Html.Tree

/-!
A tree under construction: numbered cells that know their parent and their children, so that a
node can be moved after it has been placed.
-/

namespace Estate.Html

inductive CellContent where
  | page
  | element (tag : Tag)
  | text (s : String)
  | comment (s : String)

structure Cell where
  content : CellContent
  parent : Option Nat
  children : List Nat

/-- All cells; the first is the page. -/
structure Cells where
  all : Array Cell

/-- Where a node goes: behind the last child of a cell, or before one of its children. -/
structure Place where
  parent : Nat
  before : Option Nat

namespace Cells

def empty : Cells := ⟨#[⟨.page, none, []⟩]⟩

def content? (cells : Cells) (i : Nat) : Option CellContent := (cells.all[i]?).map Cell.content

def tag? (cells : Cells) (i : Nat) : Option Tag :=
  match cells.content? i with
  | some (.element tag) => some tag
  | _ => none

def parent? (cells : Cells) (i : Nat) : Option Nat := cells.all[i]?.bind (·.parent)

def children (cells : Cells) (i : Nat) : List Nat := (cells.all[i]?.map (·.children)).getD []

def change (cells : Cells) (i : Nat) (f : Cell → Cell) : Cells := ⟨cells.all.modify i f⟩

def create (cells : Cells) (content : CellContent) : Nat × Cells :=
  (cells.all.size, ⟨cells.all.push ⟨content, none, []⟩⟩)

def remove (cells : Cells) (i : Nat) : Cells :=
  match cells.parent? i with
  | none => cells
  | some p =>
    (cells.change p fun c => { c with children := c.children.filter (· != i) }).change i
      fun c => { c with parent := none }

def insertBefore (i : Nat) (next : Option Nat) : List Nat → List Nat
  | [] => [i]
  | c :: cs => if some c == next then i :: c :: cs else c :: insertBefore i next cs

/-- Put a cell at a place, away from where it was. -/
def put (cells : Cells) (i : Nat) (place : Place) : Cells :=
  ((cells.remove i).change place.parent fun c =>
    { c with children := insertBefore i place.before c.children }).change i
      fun c => { c with parent := some place.parent }

/-- The child before a place. -/
def previous? (cells : Cells) (place : Place) : Option Nat :=
  let siblings := cells.children place.parent
  match place.before with
  | none => siblings.getLast?
  | some next => (siblings.takeWhile (· != next)).getLast?

/-- Put a text at a place; it becomes part of a text before it. -/
def putText (cells : Cells) (s : String) (place : Place) : Cells :=
  let before := cells.previous? place
  match before, before.bind cells.content? with
  | some i, some (.text old) => cells.change i fun c => { c with content := .text (old ++ s) }
  | _, _ =>
    let (i, cells) := cells.create (.text s)
    cells.put i place

/-- Give the children of a cell to another. -/
def giveChildren (cells : Cells) (source target : Nat) : Cells :=
  (cells.children source).foldl (fun cells i => cells.put i ⟨target, none⟩) cells

/-- The tree below a cell, of at most the given depth. -/
def freeze (cells : Cells) : Nat → Nat → Option Node
  | 0, _ => none
  | depth + 1, i =>
    match cells.all[i]? with
    | none | some ⟨.page, _, _⟩ => none
    | some ⟨.text s, _, _⟩ => some (.text s)
    | some ⟨.comment s, _, _⟩ => some (.comment s)
    | some ⟨.element tag, _, children⟩ =>
      some (.element i tag (children.filterMap (cells.freeze depth)))

/-- The trees of the page. -/
def nodes (cells : Cells) : List Node :=
  (cells.children 0).filterMap (cells.freeze cells.all.size)

end Cells

end Estate.Html
