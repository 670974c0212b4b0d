import Estate.Json.Term
import Estate.Script.Parser

/-!
The values that expressions of a script have without running it.
-/

namespace Estate.Script

/-- Integral numbers within reach of 64-bit integers are written without a fraction. -/
def numberValue? (x : Option Binary64) : Option Json.Value :=
  x.map fun x =>
    match x.toInt? with
    | some n =>
      if Text.minInt64 ≤ n && n ≤ Text.maxInt64 + 1 then .ofInt (Text.clampInt64 n)
      else .number (.float x)
    | none => .number (.float x)

def Key.text? : Key → Option String
  | .name s => some s
  | .number (some x) => some x.toPlainText
  | .number none => some "inf"
  | .unknown => none

def parsesJson : Expression → Bool
  | .member (.name "JSON") "parse" => true
  | _ => false

mutual

/-- The value of an expression; parts of an object or a list that have none are null. -/
def Expression.value? : Expression → Option Json.Value
  | .text s => some (.string (s.getD ""))
  | .number x => numberValue? x
  | .bool b => some (.bool b)
  | .null => some .null
  | .object list => (memberValues? list).map fun pairs => .object (Keyed.ofList pairs)
  | .array list => some (.array (itemValues list))
  | .call callee arguments =>
    match parsesJson callee, arguments with
    | true, .text (some s) :: _ => Json.Value.ofText? s
    | _, _ => none
  | .negative (.number x) => numberValue? (x.map Binary64.neg)
  | .template s => some (.string s)
  | .grouped e => e.value?
  | _ => none

/-- The members with their values. One key without a text spoils them all. -/
def memberValues? : List (Key × Expression) → Option (List (String × Json.Value))
  | [] => some []
  | (key, e) :: rest =>
    match key.text?, memberValues? rest with
    | some key, some pairs => some ((key, (e.value?).getD .null) :: pairs)
    | _, _ => none

def itemValues : List (Option Expression) → List Json.Value
  | [] => []
  | some e :: rest => (e.value?).getD .null :: itemValues rest
  | none :: rest => .null :: itemValues rest

end

/-- The names of the object that holds the variables of a page. -/
def pageNames : List String := ["window", "self", "globalThis"]

/-- The names a value is known by, once it is assigned to a target. -/
def targetNames : Expression → List String
  | .name s => [s]
  | .member (.name object) s =>
    (object ++ "." ++ s) :: (if pageNames.contains object then [s] else [])
  | _ => []

/-- The variables that get a value in a statement. -/
def Statement.values : Statement → List (String × Json.Value)
  | .declare list => list.filterMap fun (name, e) =>
      match name, e.bind Expression.value? with
      | some name, some v => some (name, v)
      | _, _ => none
  | .expression (.assign _ target e) =>
    match e.value? with
    | some v => (targetNames target).map fun name => (name, v)
    | none => []
  | .expression _ => []
  | .other => []

/-- The variables that get a value in a script, with the last value of each; nothing comes of a
script that is not well formed. -/
def valuesOf (source : String) : List (String × Json.Value) :=
  match Program.ofText? source with
  | some program => program.flatMap Statement.values
  | none => []

end Estate.Script
