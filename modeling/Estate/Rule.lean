import Estate.Cleanup
import Estate.Regex.Match

/-!
Extraction rules: where a value is found, how it is cleaned, and which rules are tried when it is
not found.
-/

namespace Estate

/-- Where a value is found. A rule has exactly one place to look. -/
inductive Locator where
  /-- Elements of the page, with what is read of them and which of them counts. -/
  | css (selector : String) (accessor : Option String) (nth : Option Nat)
  /-- Matches in the text of the page. -/
  | scriptRegex (regex : Regex)
  /-- A variable assigned in a script, and a path into its value. -/
  | scriptJson (name path : String)
  /-- A path into the streamed data of the page. -/
  | flightData (path : String)
  /-- A path into the linked data of a type. -/
  | jsonLd (type : Option String) (path : String)
  /-- A segment of the path of the address, or all of the path. -/
  | urlSegment (part : Option Nat)
  | unset

/-- The kinds of locators. -/
inductive LocatorKind where
  | css
  | scriptRegex
  | scriptJson
  | flightData
  | jsonLd
  | urlSegment
  | unset
deriving DecidableEq

def LocatorKind.name : LocatorKind → String
  | css => "css"
  | scriptRegex => "scriptRegex"
  | scriptJson => "scriptJson"
  | flightData => "flightData"
  | jsonLd => "jsonLd"
  | urlSegment => "urlSegment"
  | unset => "unset"

def Locator.kind : Locator → LocatorKind
  | css _ _ _ => .css
  | scriptRegex _ => .scriptRegex
  | scriptJson _ _ => .scriptJson
  | flightData _ => .flightData
  | jsonLd _ _ => .jsonLd
  | urlSegment _ => .urlSegment
  | unset => .unset

/-- A text that is replaced in the addresses of images, to get from a thumbnail to the picture. -/
structure ThumbnailPattern where
  pattern : String
  replacement : String
deriving DecidableEq

/-- How a yes-or-no field reads the text that was found for it. -/
inductive Evaluator where
  | contains (part : String)
  | equals (text : String)
  | present
deriving DecidableEq

/-- A rule without its fallbacks. -/
structure Probe where
  locator : Locator
  cleanup : Cleanup
  modifiers : List String
  thumbnailPatterns : List ThumbnailPattern
  imagePathPrefix : Option String
  /-- The path that is read of each object where a list of objects is found. -/
  itemPath : Option String
  evaluator : Option Evaluator

/-- A rule: a probe, and the rules tried in order when it finds nothing. -/
inductive Rule where
  | mk (probe : Probe) (fallbacks : List Rule)

namespace Rule

def probe : Rule → Probe
  | mk p _ => p

def fallbacks : Rule → List Rule
  | mk _ fs => fs

@[simp] theorem probe_mk (p : Probe) (fs : List Rule) : (mk p fs).probe = p := rfl

@[simp] theorem fallbacks_mk (p : Probe) (fs : List Rule) : (mk p fs).fallbacks = fs := rfl

/-- Fallbacks may nest this deep. -/
def maxDepth : Nat := 10

end Rule

def Probe.at (locator : Locator) : Probe := ⟨locator, .none, [], [], none, none, none⟩

/-- A rule for the text of the first element that matches. -/
def Rule.css (selector : String) : Rule := .mk (.at (.css selector none none)) []

end Estate
