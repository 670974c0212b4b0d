/-!
Selectors: conditions on elements and on what stands around them.
-/

namespace Estate

namespace Selector

/-- Where an element stands, seen from one before or above it. -/
inductive Combinator where
  | descendant
  | child
  | next
  | later
deriving DecidableEq

/-- How the value of an attribute compares with a text. -/
inductive Comparison where
  | equal
  | word
  | dash
  | start
  | finish
  | part
deriving DecidableEq

/-- A condition on the value of an attribute. Case is ignored, or not, or ignored where the name of
the attribute says so. -/
structure ValueTest where
  comparison : Comparison
  text : String
  ignoreCase : Option Bool

/-- A condition on an attribute, of any vocabulary or of none. -/
structure AttributeTest where
  anyVocabulary : Bool
  name : String
  value : Option ValueTest

/-- A place among siblings, counted from either end, that is `a` times some number plus `b`; only
siblings of the same type may count. -/
structure Position where
  fromEnd : Bool
  sameType : Bool
  a : Int
  b : Int

mutual

inductive Condition where
  | anything
  | type (name : String)
  /-- No element of a page is without a vocabulary. -/
  | noVocabulary
  | id (name : String)
  | ofClass (name : String)
  | attribute (test : AttributeTest)
  | position (p : Position)
  | root
  | empty
  /-- The element that a condition on what is around it starts from. -/
  | anchor
  | anyOf (list : List Pattern)
  | noneOf (list : List Pattern)
  | around (list : List Pattern)

/-- Conditions on an element, and patterns for elements above or before it. -/
inductive Pattern where
  | single (conditions : List Condition)
  | joined (left : Pattern) (how : Combinator) (conditions : List Condition)

end

/-- How the first element of a pattern is found from the anchor. -/
def Pattern.lead : Pattern → Option Combinator
  | .single _ => none
  | .joined (.single _) how _ => some how
  | .joined left _ _ => left.lead

end Selector

/-- An element is selected if one of the patterns fits it. -/
structure Selector where
  patterns : List Selector.Pattern

end Estate
