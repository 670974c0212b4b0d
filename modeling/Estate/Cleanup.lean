import Estate.Modifier
import Estate.Text.Replace

/-!
Cleaning of a raw value: take one part of it, strip a text and the first character, then apply
modifiers.
-/

namespace Estate

/-- What is done to a raw value before its modifiers. A negative index counts from the end. -/
structure Cleanup where
  splitAt : Option String
  splitIndex : Int
  strip : Option String
  stripFirstChar : Bool
deriving DecidableEq

namespace Cleanup

def none : Cleanup := ⟨.none, 0, .none, false⟩

/-- The part at an index, empty when there is none. -/
def pick (parts : List (List Char)) (index : Int) : List Char :=
  let i := if index < 0 then parts.length + index else index
  if i < 0 then [] else parts.getD i.toNat []

def splitPart (c : Cleanup) (cs : List Char) : List Char :=
  match c.splitAt with
  | some sep => Text.trim (pick (Text.splitAtText sep.toList cs) c.splitIndex)
  | .none => cs

def stripText (c : Cleanup) (cs : List Char) : List Char :=
  match c.strip with
  | some text => Text.trim (Text.replaceText text.toList [] cs)
  | .none => cs

def stripFirst (c : Cleanup) (cs : List Char) : List Char :=
  if c.stripFirstChar then Text.trim (cs.drop 1) else cs

def apply (c : Cleanup) (modifiers : List String) (raw : String) : String :=
  Modifier.applyAll modifiers
    (.ofList (c.stripFirst (c.stripText (c.splitPart (Text.trim raw.toList)))))

end Cleanup

end Estate
