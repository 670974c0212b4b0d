import Estate.Json.Printer
import Estate.Json.Term
import Estate.Text.Case

/-!
Reading of terms as records of known fields. A record is an object, in which unknown keys mean
nothing and known keys stand once, or an array with the fields in their order. Arrays and objects
count toward the depth a reader is allowed.
-/

namespace Estate.Json

/-- The names a field goes by, its own one first. -/
abbrev Shape := List (List String)

/-- The fields of a record that are present, by their own names. -/
abbrev Fields := List (String × Term)

namespace Shape

/-- The own name of the field that a key means. -/
def fieldOf? (shape : Shape) (key : String) : Option String :=
  (shape.find? fun names => names.contains key).bind List.head?

/-- The fields of an object in the order they are written. -/
def ofMembers? (shape : Shape) : List (Option String × Term) → Option Fields
  | [] => some []
  | (none, _) :: _ => none
  | (some key, t) :: rest => do
    let fields ← shape.ofMembers? rest
    match shape.fieldOf? key with
    | none => return fields
    | some name => if (fields.lookup name).isSome then none else return (name, t) :: fields

def read? (shape : Shape) : Term → Option Fields
  | .object members => shape.ofMembers? members
  | .array items =>
    if items.length ≤ shape.length then some ((shape.filterMap List.head?).zip items) else none
  | _ => none

end Shape

namespace Fields

variable {α : Type}

/-- A field by its reader, with a value for its absence. -/
def get? (fields : Fields) (name : String) (absent : α) (reader : Term → Option α) : Option α :=
  match fields.lookup name with
  | some t => reader t
  | none => some absent

end Fields

namespace Term

def string? : Term → Option String
  | .text s => s
  | _ => none

/-- A text or null. -/
def optionalString? : Term → Option (Option String)
  | .null => some none
  | .text s => s.map some
  | _ => none

/-- A value that may be null, of which texts and numbers count, numbers as they are printed. -/
def stringOrNumber? (depth : Nat) (t : Term) : Option (Option String) :=
  (t.value? depth).map fun v =>
    match v with
    | .string s => some s
    | .number n => some (.ofList n.render)
    | _ => none

/-- A value that may mean yes: true, a text that says so, or an integer other than zero. -/
def flexibleBool? (depth : Nat) (t : Term) : Option Bool :=
  (t.value? depth).map fun v =>
    match v with
    | .bool b => b
    | .string s => ["true", "1", "yes"].contains (Text.lower (Text.trimmed s))
    | .number n => n.toInt64?.any (· != 0)
    | _ => false

/-- A list, one level deeper, of what a reader reads. -/
def list? {α : Type} (depth : Nat) (reader : Nat → Term → Option α) : Term → Option (List α)
  | .array items =>
    match depth with
    | 0 => none
    | d + 1 => items.mapM (reader d)
  | _ => none

def strings? (depth : Nat) (t : Term) : Option (List String) := t.list? depth fun _ => string?

def bool? : Term → Option Bool
  | .bool b => some b
  | _ => none

def integer? : Term → Option Int
  | .number (some (.int n)) => some n
  | _ => none

end Term

end Estate.Json
