import Estate.Json.Value

/-!
The compact text of a JSON value: no spaces, members in the order of their keys.
-/

namespace Estate.Json

def hexDigit (n : Nat) : Char := Char.ofNat (if n < 10 then 48 + n else 87 + n)

/-- Quotes, backslashes and control characters are escaped, the common ones by a letter. -/
def escape (c : Char) : List Char :=
  match c with
  | '"' => ['\\', '"']
  | '\\' => ['\\', '\\']
  | '\n' => ['\\', 'n']
  | '\r' => ['\\', 'r']
  | '\t' => ['\\', 't']
  | '\x08' => ['\\', 'b']
  | '\x0c' => ['\\', 'f']
  | _ =>
    if c.toNat < 32 then ['\\', 'u', '0', '0', hexDigit (c.toNat / 16), hexDigit (c.toNat % 16)]
    else [c]

def quote (s : String) : List Char := '"' :: (s.toList.flatMap escape ++ ['"'])

mutual

def Value.render : Value → List Char
  | .null => ['n', 'u', 'l', 'l']
  | .bool true => ['t', 'r', 'u', 'e']
  | .bool false => ['f', 'a', 'l', 's', 'e']
  | .number n => n.render
  | .string s => quote s
  | .array items => '[' :: (renderItems items ++ [']'])
  | .object ms => '{' :: (renderMembers ms ++ ['}'])

def renderItems : List Value → List Char
  | [] => []
  | [v] => v.render
  | v :: w :: rest => v.render ++ ',' :: renderItems (w :: rest)

def renderMembers : List (String × Value) → List Char
  | [] => []
  | [(k, v)] => quote k ++ ':' :: v.render
  | (k, v) :: m :: rest => quote k ++ ':' :: (v.render ++ ',' :: renderMembers (m :: rest))

end

def Value.toText (v : Value) : String := .ofList v.render

/-- A text stands for itself, null for nothing, any other value for its compact text. -/
def Value.plainText? : Value → Option String
  | .string s => some s
  | .null => none
  | v => some v.toText

end Estate.Json
