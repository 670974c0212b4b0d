import Estate.Json.Token
import Estate.Json.Value

/-!
JSON texts as trees of what is written, and the values they stand for. A tree keeps members in
the order and as often as they are written, and may hold texts and numbers that stand for no value.
-/

namespace Estate.Json

/-- A JSON text as a tree. -/
inductive Term where
  | null
  | bool (b : Bool)
  | number (n : Option Number)
  | text (s : Option String)
  | array (items : List Term)
  | object (members : List (Option String × Term))

/-- An array or object that is still open, its parts back to front. -/
inductive Frame where
  | array (items : List Term)
  | object (members : List (Option String × Term)) (key : Option String)

/-- What may come next. -/
inductive Expect where
  | value
  | valueOrEnd
  | keyOrEnd
  | key
  | colon (key : Option String)
  | separator
  | done (t : Term)

structure Assembly where
  frames : List Frame
  expect : Expect

/-- A term is complete. -/
def Assembly.put (frames : List Frame) (t : Term) : Assembly :=
  match frames with
  | [] => ⟨[], .done t⟩
  | .array items :: outer => ⟨.array (t :: items) :: outer, .separator⟩
  | .object members key :: outer => ⟨.object ((key, t) :: members) none :: outer, .separator⟩

def Assembly.begin (frames : List Frame) : Token → Option Assembly
  | .null => some (put frames .null)
  | .bool b => some (put frames (.bool b))
  | .number n => some (put frames (.number n))
  | .text s => some (put frames (.text s))
  | .openBracket => some ⟨.array [] :: frames, .valueOrEnd⟩
  | .openBrace => some ⟨.object [] none :: frames, .keyOrEnd⟩
  | _ => none

def Assembly.close (frames : List Frame) (t : Token) : Option Assembly :=
  match frames, t with
  | .array items :: outer, .closeBracket => some (put outer (.array items.reverse))
  | .object members _ :: outer, .closeBrace => some (put outer (.object members.reverse))
  | _, _ => none

def Assembly.step (a : Assembly) (t : Token) : Option Assembly :=
  match a.expect, t with
  | .value, _ => begin a.frames t
  | .valueOrEnd, .closeBracket => close a.frames t
  | .valueOrEnd, _ => begin a.frames t
  | .keyOrEnd, .closeBrace => close a.frames t
  | .keyOrEnd, .text s => some ⟨a.frames, .colon s⟩
  | .key, .text s => some ⟨a.frames, .colon s⟩
  | .colon key, .colon =>
    match a.frames with
    | .object members _ :: outer => some ⟨.object members key :: outer, .value⟩
    | _ => none
  | .separator, .comma =>
    match a.frames with
    | .array _ :: _ => some ⟨a.frames, .value⟩
    | .object _ _ :: _ => some ⟨a.frames, .key⟩
    | [] => none
  | .separator, _ => close a.frames t
  | _, _ => none

def Term.ofTokens? (ts : List Token) : Option Term :=
  match ts.foldlM Assembly.step ⟨[], .value⟩ with
  | some ⟨[], .done t⟩ => some t
  | _ => none

def Term.ofText? (s : String) : Option Term := (tokens? s.toList).bind Term.ofTokens?

/-- Arrays and objects may be nested this deep. -/
def depthLimit : Nat := 127

mutual

/-- The value of a term that is nested at most `depth` deep. -/
def Term.value? (depth : Nat) : Term → Option Value
  | .null => some .null
  | .bool b => some (.bool b)
  | .number n => n.map .number
  | .text s => s.map .string
  | .array items =>
    match depth with
    | 0 => none
    | d + 1 => (itemValues? d items).map .array
  | .object ms =>
    match depth with
    | 0 => none
    | d + 1 => (memberValues? d ms).map fun vs => .object (Keyed.ofList vs)

def itemValues? (depth : Nat) : List Term → Option (List Value)
  | [] => some []
  | t :: rest => do
    let v ← t.value? depth
    let vs ← itemValues? depth rest
    return v :: vs

def memberValues? (depth : Nat) : List (Option String × Term) → Option (List (String × Value))
  | [] => some []
  | (k, t) :: rest => do
    let key ← k
    let v ← t.value? depth
    let vs ← memberValues? depth rest
    return (key, v) :: vs

end

mutual

/-- The term that writes a value. -/
def Term.ofValue : Value → Term
  | .null => .null
  | .bool b => .bool b
  | .number n => .number (some n)
  | .string s => .text (some s)
  | .array items => .array (ofItems items)
  | .object ms => .object (ofMembers ms)

def ofItems : List Value → List Term
  | [] => []
  | v :: rest => Term.ofValue v :: ofItems rest

def ofMembers : List (String × Value) → List (Option String × Term)
  | [] => []
  | (k, v) :: rest => (some k, Term.ofValue v) :: ofMembers rest

end

mutual

/-- How deep arrays and objects are nested. -/
def Term.depth : Term → Nat
  | .array items => itemsDepth items + 1
  | .object ms => membersDepth ms + 1
  | _ => 0

def itemsDepth : List Term → Nat
  | [] => 0
  | t :: rest => max t.depth (itemsDepth rest)

def membersDepth : List (Option String × Term) → Nat
  | [] => 0
  | (_, t) :: rest => max t.depth (membersDepth rest)

end

def Value.ofText? (s : String) : Option Value := (Term.ofText? s).bind (·.value? depthLimit)

end Estate.Json
