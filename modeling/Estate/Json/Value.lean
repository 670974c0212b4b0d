import Estate.Json.Number
import Estate.Keyed
import Estate.Text.Blank

/-!
JSON values. The members of an object are kept in ascending order of their keys, each key once.
-/

namespace Estate.Json

inductive Value where
  | null
  | bool (b : Bool)
  | number (n : Number)
  | string (s : String)
  | array (items : List Value)
  | object (members : List (String × Value))

/-- The members of an object. -/
abbrev Members := Keyed Value

namespace Value

def ofInt (n : Int) : Value := .number (.int n)

def ofStrings (texts : List String) : Value := .array (texts.map .string)

def isNull : Value → Bool
  | .null => true
  | _ => false

def string? : Value → Option String
  | .string s => some s
  | _ => none

def binary64? : Value → Option Binary64
  | .number n => some n.toBinary64
  | _ => none

def members? : Value → Option Members
  | .object ms => some ms
  | _ => none

/-- A value counts as filled in unless it is null, a blank text, or empty. -/
def isPopulated : Value → Bool
  | .null => false
  | .string s => s.toList.any fun c => !Text.isBlank c
  | .array items => !items.isEmpty
  | .object ms => !ms.isEmpty
  | _ => true

/-- What holds of an array if it holds of the items, and of an object if it holds of the members,
holds of all values that it holds of that are neither. -/
theorem induction {motive : Value → Prop} (null : motive .null) (bool : ∀ b, motive (.bool b))
    (number : ∀ n, motive (.number n)) (string : ∀ s, motive (.string s))
    (array : ∀ items, (∀ v ∈ items, motive v) → motive (.array items))
    (object : ∀ ms : Members, (∀ m ∈ ms, motive m.2) → motive (.object ms)) (v : Value) :
    motive v :=
  @Value.rec motive (fun items => ∀ v ∈ items, motive v) (fun ms => ∀ m ∈ ms, motive m.2)
    (fun m => motive m.2) null bool number string array object
    (fun _ h => absurd h List.not_mem_nil) (fun _ _ hv hrest => List.forall_mem_cons.2 ⟨hv, hrest⟩)
    (fun _ h => absurd h List.not_mem_nil) (fun _ _ hm hrest => List.forall_mem_cons.2 ⟨hm, hrest⟩)
    (fun _ _ h => h) v

end Value

end Estate.Json
