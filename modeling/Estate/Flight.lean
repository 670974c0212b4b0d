import Estate.Json.Path
import Estate.Json.Term
import Estate.Text.Category
import Estate.Text.Replace

/-!
Data streamed to a page in pieces. Scripts push texts, whose lines give JSON values to keys; a text
value of a dollar sign and a key refers to the value of that key.
-/

namespace Estate

/-- The values by their keys, each key where it was first met, and how deep references are
followed. -/
structure Flight where
  chunks : List (String × Json.Value)
  depth : Nat

namespace Flight

open Json

def defaultDepth : Nat := 10

def dropBlanks (cs : List Char) : List Char := cs.dropWhile Text.isBlank

def dropDigits? (cs : List Char) : Option (List Char) :=
  if cs.head?.any Text.isDecimalDigit then some (cs.dropWhile Text.isDecimalDigit) else none

/-- The inside of a quoted text, its escapes as they are written, and the text behind the closing
quote. -/
def quoted? : List Char → Option (List Char × List Char)
  | [] => none
  | '"' :: cs => some ([], cs)
  | '\\' :: c :: cs => (quoted? cs).map fun (body, rest) => ('\\' :: c :: body, rest)
  | c :: cs => if c == '\\' then none else (quoted? cs).map fun (body, rest) => (c :: body, rest)

/-- The payload pushed by a call at the start of a text, and the text behind the call. -/
def call? (cs : List Char) : Option (List Char × List Char) := do
  let cs ← Text.after? "self.__next_f.push([".toList cs
  let cs ← dropDigits? (dropBlanks cs)
  let cs ← Text.after? [','] (dropBlanks cs)
  let cs ← Text.after? ['"'] (dropBlanks cs)
  let (body, cs) ← quoted? cs
  let cs ← Text.after? [']', ')'] (dropBlanks cs)
  return (body, cs)

/-- The payloads of all calls in a text, as they are written. The first characters may belong to the
call before. -/
def callsFrom : Nat → List Char → List (List Char)
  | _, [] => []
  | skip + 1, _ :: cs => callsFrom skip cs
  | 0, c :: cs =>
    match call? (c :: cs) with
    | some (body, rest) => body :: callsFrom (cs.length - rest.length) cs
    | none => callsFrom 0 cs

def escapedChar (c : Char) : Char :=
  match c with
  | 'n' => '\n'
  | 't' => '\t'
  | 'r' => '\r'
  | _ => c

/-- The character with a code in hexadecimal; nothing stands for half a surrogate pair. -/
def codeText (digits : List Char) : List Char :=
  let n := Text.ofHex digits
  if 0xD800 ≤ n && n < 0xE000 then [] else [Char.ofNat n]

def isHex (c : Char) : Bool := (Text.hexDigit? c).isSome

/-- The text a payload stands for. -/
def unescape : List Char → List Char
  | [] => []
  | '\\' :: 'u' :: a :: b :: c :: d :: cs =>
    if [a, b, c, d].all isHex then codeText [a, b, c, d] ++ unescape cs
    else 'u' :: unescape (a :: b :: c :: d :: cs)
  | '\\' :: c :: cs => escapedChar c :: unescape cs
  | c :: cs => c :: unescape cs

def put (chunks : List (String × Value)) (key : String) (v : Value) : List (String × Value) :=
  if (chunks.lookup key).isSome then chunks.map fun e => if e.1 == key then (key, v) else e
  else chunks ++ [(key, v)]

/-- A key of word characters and its JSON value, with a colon between. -/
def lineEntry? (line : List Char) : Option (String × Value) :=
  match Text.cutAt? [':'] line with
  | none => none
  | some (before, behind) =>
    let key := Text.trim before
    if key.isEmpty || !key.all Text.isWord then none
    else (Value.ofText? (.ofList (Text.trim behind))).map fun v => (.ofList key, v)

/-- The values in the lines of a text. Lines that give no value are passed over. -/
def ofPayload (text : List Char) : Flight where
  chunks := ((Text.lines text).filterMap lineEntry?).foldl (fun chunks e => put chunks e.1 e.2) []
  depth := defaultDepth

/-- The values pushed by the scripts of a page. -/
def ofSource (source : String) : Flight :=
  ofPayload (['\n'].intercalate ((callsFrom 0 source.toList).map unescape))

def keys (f : Flight) : List String := f.chunks.map (·.1)

def raw? (f : Flight) (key : String) : Option Value := f.chunks.lookup key

/-- The value a text refers to. -/
def target? (f : Flight) (s : String) : Option Value :=
  match s.toList with
  | '$' :: key => f.raw? (.ofList key)
  | _ => none

/-- The value with its references replaced, down through so many arrays, objects and references. -/
def resolveFrom (f : Flight) : Nat → Value → Value
  | 0, v => v
  | levels + 1, v =>
    match v with
    | .string s =>
      match f.target? s with
      | some w => f.resolveFrom levels w
      | none => v
    | .array items => .array (items.map (f.resolveFrom levels))
    | .object ms => .object (ms.map fun e => (e.1, f.resolveFrom levels e.2))
    | _ => v

def resolve (f : Flight) (v : Value) : Value := f.resolveFrom f.depth v

def resolved (f : Flight) : Members := Keyed.ofList (f.chunks.map fun e => (e.1, f.resolve e.2))

/-- The value at a path, unless it is null. -/
def present? (v : Value) (path : String) : Option Value := (v.at? path).filter (!·.isNull)

/-- The value at a path in the first chunk that has one, or else at a path that starts with a key. -/
def search? (f : Flight) (path : String) : Option Value :=
  (f.chunks.findSome? fun e => present? (f.resolve e.2) path).or
    ((present? (.object (Keyed.ofList f.chunks)) path).map f.resolve)

end Flight

end Estate
