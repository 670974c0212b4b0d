import Estate.Json.Printer
import Estate.Text.Blank
import Estate.Text.Replace

/-!
Paths into a JSON value. Segments between dots name members or count items; indices in brackets
count items. Blank segments say nothing.
-/

namespace Estate.Json

/-- One move into a value. An index that is no number leads nowhere. -/
inductive Step where
  | name (key : List Char)
  | item (index : Option Nat)
deriving DecidableEq

def segmentSteps (segment : List Char) : List Step :=
  let field := segment.takeWhile (· != '[')
  let indices := (segment.dropWhile (· != '[')).splitOnP (fun c => c == '[' || c == ']')
  (if field.isEmpty then [] else [.name field]) ++
    (indices.filter (!·.isEmpty)).map fun i => .item (Text.index? i)

def pathSteps (path : List Char) : List Step :=
  ((path.splitOn '.').map Text.trim).flatMap segmentSteps

def Value.item? (v : Value) (i : Nat) : Option Value :=
  match v with
  | .array items => items[i]?
  | _ => none

def Value.member? (v : Value) (key : String) : Option Value :=
  match v with
  | .object ms => Keyed.get? ms key
  | _ => none

/-- A name is looked up among the members first and read as an index second. -/
def Value.step? (v : Value) : Step → Option Value
  | .name key => v.member? (.ofList key) <|> (Text.index? key).bind v.item?
  | .item i => i.bind v.item?

def Value.at? (v : Value) (path : String) : Option Value :=
  (pathSteps path.toList).foldlM Value.step? v

end Estate.Json
