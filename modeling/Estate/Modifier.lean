import Estate.Binary64.Text
import Estate.Text.Blank
import Estate.Text.Case
import Estate.Text.Entity
import Estate.Text.Leading

/-!
Named text modifiers, applied in the order a rule lists them. Unknown names do nothing.
-/

namespace Estate

inductive Modifier where
  | trim
  | int
  | float
  | removeNewline
  | stripPunct
  | stripFirstChar
  | lowercase
  | uppercase
  | collapseWhitespace
  | stripHtmlEntities
  | stripCurrency
  | digitsOnly
deriving DecidableEq

namespace Modifier

/-- Every modifier, in the order they are listed to callers. -/
def all : List Modifier :=
  [trim, int, float, removeNewline, stripPunct, stripFirstChar, lowercase, uppercase,
    collapseWhitespace, stripHtmlEntities, stripCurrency, digitsOnly]

def name : Modifier → String
  | trim => "trim"
  | int => "int"
  | float => "float"
  | removeNewline => "removeNewline"
  | stripPunct => "stripPunct"
  | stripFirstChar => "stripFirstChar"
  | lowercase => "lowercase"
  | uppercase => "uppercase"
  | collapseWhitespace => "collapseWhitespace"
  | stripHtmlEntities => "stripHtmlEntities"
  | stripCurrency => "stripCurrency"
  | digitsOnly => "digitsOnly"

def ofName? (s : String) : Option Modifier := all.find? fun m => m.name == s

def knownNames : List String := all.map name

/-- A line end, of one character or two, becomes a space. -/
def joinLines : List Char → List Char
  | [] => []
  | '\r' :: '\n' :: rest => ' ' :: joinLines rest
  | c :: rest => (if c == '\r' || c == '\n' then ' ' else c) :: joinLines rest

def isPunctuation (c : Char) : Bool :=
  ('!' ≤ c && c ≤ '/') || (':' ≤ c && c ≤ '@') || ('[' ≤ c && c ≤ '`') || ('{' ≤ c && c ≤ '~')

def isCurrencySign (c : Char) : Bool := ['$', '£', '€', '₹', '¥'].contains c

def currencyCodes : List (List Char) := ["USD", "EUR", "GBP", "INR"].map String.toList

/-- A currency code that stands as a word of its own at the start of the text. -/
def startsWithCode (before : Option Char) (cs : List Char) : Bool :=
  !before.any Text.isWord && currencyCodes.contains (cs.take 3) &&
    !(cs.drop 3).head?.any Text.isWord

/-- Drop currency signs and codes; the first `skip` characters belong to a code. -/
def withoutCurrency (before : Option Char) : Nat → List Char → List Char
  | _, [] => []
  | skip + 1, c :: cs => withoutCurrency (some c) skip cs
  | 0, c :: cs =>
    if isCurrencySign c then withoutCurrency (some c) 0 cs
    else if startsWithCode before (c :: cs) then withoutCurrency (some c) 2 cs
    else c :: withoutCurrency (some c) 0 cs

def integerText (n : Int) : List Char :=
  if n < 0 then '-' :: Nat.toDigits 10 n.natAbs else Nat.toDigits 10 n.natAbs

def applyChars (m : Modifier) (cs : List Char) : List Char :=
  match m with
  | trim => Text.trim cs
  | int => integerText (Text.leadingInt cs)
  | float => (Text.leadingFloat cs).render Binary64.plain
  | removeNewline => Text.trim (joinLines cs)
  | stripPunct => cs.filter fun c => !isPunctuation c
  | stripFirstChar => cs.drop 1
  | lowercase => Text.lowerFrom [] cs
  | uppercase => cs.flatMap Text.upperChar
  | collapseWhitespace => Text.squeezeBlanks (Text.trim cs)
  | stripHtmlEntities => Text.decodeReferences cs
  | stripCurrency => Text.trim (withoutCurrency none 0 cs)
  | digitsOnly => cs.filter Text.isAsciiDigit

def apply (m : Modifier) (s : String) : String := .ofList (m.applyChars s.toList)

/-- Apply the modifier of a name, if it has one. -/
def applyNamed? (name : String) (s : String) : Option String := (ofName? name).map (·.apply s)

/-- Apply modifiers from left to right, passing over unknown names. -/
def applyAll (names : List String) (s : String) : String :=
  names.foldl (fun text name => (applyNamed? name text).getD text) s

end Modifier

end Estate
