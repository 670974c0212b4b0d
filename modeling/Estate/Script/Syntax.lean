import Estate.Binary64.Basic

/-!
Scripts, as far as they can give values to variables.
-/

namespace Estate.Script

/-- The key of a member of an object. -/
inductive Key where
  | name (s : String)
  | number (x : Option Binary64)
  /-- A key that has to be worked out, or has no text. -/
  | unknown

inductive Expression where
  /-- Nothing stands for a text with half a surrogate pair. -/
  | text (s : Option String)
  /-- Nothing stands for a number too great. -/
  | number (x : Option Binary64)
  | bool (b : Bool)
  | null
  | name (s : String)
  | member (object : Expression) (name : String)
  /-- A member whose name is worked out, or that may not be there, or is private. -/
  | place
  | call (callee : Expression) (arguments : List Expression)
  /-- The members written with a key and a value. -/
  | object (members : List (Key × Expression))
  /-- Nothing stands for an element left out. -/
  | array (items : List (Option Expression))
  | negative (e : Expression)
  /-- A template without expressions, as it is written. -/
  | template (s : String)
  | grouped (e : Expression)
  /-- An assignment by a sign, which may also take the former value into account. -/
  | assign (sign : String) (target value : Expression)
  /-- An expression of any other form. -/
  | other

/-- A value can be assigned to the expression. -/
def Expression.isTarget : Expression → Bool
  | name _ | member _ _ | place | grouped _ => true
  | _ => false

/-- The expression has the shape of a list or an object, whose parts can be assigned to. -/
def Expression.isPattern : Expression → Bool
  | object _ | array _ => true
  | _ => false

inductive Statement where
  /-- Declared variables with the values given to them; one that is taken apart has no name. -/
  | declare (bindings : List (Option String × Option Expression))
  | expression (e : Expression)
  | other

abbrev Program := List Statement

end Estate.Script
