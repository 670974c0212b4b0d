import Estate.Html.Spot
import Estate.Selector.Parser
import Estate.Text.Replace

/-!
Which elements of a page a selector selects.
-/

namespace Estate.Selector

open Html

/-- Attributes whose values are compared without regard to case. -/
def caselessNames : List String :=
  ["accept", "accept-charset", "align", "alink", "axis", "bgcolor", "charset", "checked", "clear",
    "codetype", "color", "compact", "declare", "defer", "dir", "direction", "disabled", "enctype",
    "face", "frame", "hreflang", "http-equiv", "lang", "language", "link", "media", "method",
    "multiple", "nohref", "noresize", "noshade", "nowrap", "readonly", "rel", "rev", "rules", "scope",
    "scrolling", "selected", "shape", "target", "text", "type", "valign", "valuetype", "vlink"]

/-- An empty text is no part of any value. -/
def Comparison.holds (c : Comparison) (value text : List Char) : Bool :=
  match c with
  | .equal => value == text
  | .word => !text.isEmpty && (value.splitOnP isSpace).contains text
  | .dash => (Text.after? text value).any fun rest => rest.isEmpty || rest.head? == some '-'
  | .start => !text.isEmpty && Text.startsWith value text
  | .finish => !text.isEmpty && Text.startsWith value.reverse text.reverse
  | .part => !text.isEmpty && Text.occursIn text value

def ValueTest.holds (t : ValueTest) (caseless : Bool) (value : String) : Bool :=
  let shown (s : String) := if t.ignoreCase.getD caseless then Text.asciiLower s else s
  t.comparison.holds (shown value).toList (shown t.text).toList

/-- Names in the page itself are in small letters. -/
def nameIn (tag : Tag) (name : String) : String :=
  if tag.vocabulary == .html then Text.asciiLower name else name

def AttributeTest.holds (t : AttributeTest) (tag : Tag) : Bool :=
  let caseless := !t.anyVocabulary && tag.vocabulary == .html &&
    caselessNames.contains (Text.asciiLower t.name)
  tag.attributes.any fun a =>
    (t.anyVocabulary || a.mark.isNone) && a.name == nameIn tag t.name &&
      t.value.all fun v => v.holds caseless a.value

def isAlike (s t : Tag) : Bool := s.vocabulary == t.vocabulary && s.name == t.name

/-- The place of an element among its siblings, the first being 1. -/
def Position.placeOf (p : Position) (s : Spot) : Nat :=
  let others := if p.fromEnd then s.following else s.previous
  (if p.sameType then others.filter fun t => isAlike t.tag s.tag else others).length + 1

/-- Some number from zero on makes the place. -/
def Position.holds (p : Position) (s : Spot) : Bool :=
  let ahead := (p.placeOf s : Int) - p.b
  if p.a == 0 then ahead == 0 else ahead % p.a == 0 && ahead / p.a ≥ 0

def isEmpty (s : Spot) : Bool :=
  s.children.all fun n =>
    match n with
    | .comment _ => true
    | _ => false

mutual

/-- The condition holds of an element, seen from an anchor if there is one. -/
def Condition.holds (anchor : Option Nat) (s : Spot) : Condition → Bool
  | .anything => true
  | .type name => s.tag.name == nameIn s.tag name
  | .noVocabulary => false
  | .id name => s.id? == some name
  | .ofClass name => s.classes.contains name
  | .attribute test => test.holds s.tag
  | .position p => p.holds s
  | .root => s.parent?.isNone
  | .empty => isEmpty s
  | .anchor => anchor == some s.serial
  | .anyOf list => anyFits anchor s list
  | .noneOf list => !anyFits anchor s list
  | .around list => anyAround s list

def allHold (anchor : Option Nat) (s : Spot) : List Condition → Bool
  | [] => true
  | c :: cs => c.holds anchor s && allHold anchor s cs

def Pattern.fits (anchor : Option Nat) (s : Spot) : Pattern → Bool
  | .single conditions => allHold anchor s conditions
  | .joined left how conditions =>
    allHold anchor s conditions &&
      match how with
      | .descendant => s.ancestors.any fun t => left.fits anchor t
      | .child => s.parent?.any fun t => left.fits anchor t
      | .next => s.previous.head?.any fun t => left.fits anchor t
      | .later => s.previous.any fun t => left.fits anchor t

def anyFits (anchor : Option Nat) (s : Spot) : List Pattern → Bool
  | [] => false
  | p :: ps => p.fits anchor s || anyFits anchor s ps

/-- Some element below or after this one fits one of the patterns that start from it. -/
def anyAround (s : Spot) : List Pattern → Bool
  | [] => false
  | p :: ps =>
    let below := p.lead == some .child || p.lead == some .descendant
    let reached := if below then s.inside else s.following.flatMap fun t => t :: t.inside
    (reached.any fun t => p.fits (some s.serial) t) || anyAround s ps

end

end Selector

open Html

def Selector.fits (selector : Selector) (s : Spot) : Bool := Selector.anyFits none s selector.patterns

/-- The elements selected, in the order in which they are opened. -/
def Selector.select (selector : Selector) (nodes : List Node) : List Spot :=
  ((Spot.all nodes).filter selector.fits).mergeSort fun s t => s.serial ≤ t.serial

end Estate
