/-!
Finding, replacing and splitting at a fixed text. Occurrences are taken from the left and do not
overlap.
-/

namespace Estate.Text

/-- What is left of a text after a given beginning. -/
def after? : List Char → List Char → Option (List Char)
  | [], cs => some cs
  | _ :: _, [] => none
  | p :: ps, c :: cs => if p == c then after? ps cs else none

def startsWith (cs start : List Char) : Bool := (after? start cs).isSome

def occursIn (needle : List Char) : List Char → Bool
  | [] => needle.isEmpty
  | c :: cs => startsWith (c :: cs) needle || occursIn needle cs

/-- The text before the first occurrence and the text after it. -/
def cutAt? (sep : List Char) : List Char → Option (List Char × List Char)
  | [] => if sep.isEmpty then some ([], []) else none
  | c :: cs =>
    match after? sep (c :: cs) with
    | some rest => some ([], rest)
    | none => (cutAt? sep cs).map fun (before, rest) => (c :: before, rest)

/-- Parts between the occurrences of a separator, the first `skip` characters belonging to the
occurrence before. -/
def partsFrom (sep : List Char) : List Char → Nat → List Char → List (List Char)
  | [], _, part => [part.reverse]
  | _ :: cs, skip + 1, part => partsFrom sep cs skip part
  | c :: cs, 0, part =>
    if startsWith (c :: cs) sep then part.reverse :: partsFrom sep cs (sep.length - 1) []
    else partsFrom sep cs 0 (c :: part)

/-- An empty separator stands before, between and after all characters. -/
def splitAtText (sep cs : List Char) : List (List Char) :=
  if sep.isEmpty then [] :: (cs.map fun c => [c]) ++ [[]] else partsFrom sep cs 0 []

def replaceText (old new cs : List Char) : List Char :=
  if old.isEmpty then cs else (partsFrom old cs 0 []).intersperse new |>.flatten

end Estate.Text
