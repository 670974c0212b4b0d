import Estate.Regex.CharSet
import Estate.Text.Property
import Estate.Text.PropertyName

/-!
Character sets named in a pattern: Unicode properties, and the bracketed names of ASCII classes.
-/

namespace Estate.Regex

/-- Names are compared in lower case, without blanks, hyphens and underscores, and without a
leading "is" unless nothing but a "c" would follow it. -/
def normalizeName (cs : List Char) : List Char :=
  let body := match cs.map Text.lowerAscii with
    | 'i' :: 's' :: rest => rest
    | low => low
  let strip (l : List Char) : List Char :=
    l.filter fun c => Text.isAscii c && !(c == ' ' || c == '_' || c == '-')
  let kept := strip body
  if kept == ['c'] && body.length != cs.length then ['i', 's', 'c'] else kept

def ofCategory? (name : String) : Option CharSet :=
  if name == "any" then some .full
  else if name == "assigned" then some (CharSet.ofCategories (· != .cn))
  else if name == "ascii" then some ⟨[(0, 127)]⟩
  else (Text.categoryNamed? name).map fun tag =>
    if tag == "LC" then .ofCategories [.lu, .ll, .lt].contains
    else .ofCategories fun g => g.abbreviation.startsWith tag

def ofScriptName? (name : String) : Option CharSet :=
  (Text.scriptNamed? name).map CharSet.ofScript

def ofBinaryProperty? (name : String) : Option CharSet :=
  if name == "alphabetic" || name == "alpha" then some .alphabetic
  else (Text.properties.find? fun p => p.names.contains name).map fun p =>
    .ofRanges (Text.Ranges.ofWords p.ranges)

/-- A property by its bare name; some abbreviations always mean a general category. -/
def ofBareName? (cs : List Char) : Option CharSet :=
  let name := String.ofList (normalizeName cs)
  let binary := if ["cf", "sc", "lc"].contains name then none else ofBinaryProperty? name
  (binary <|> ofCategory? name) <|> ofScriptName? name

/-- The characters for which a property has a value. -/
def ofPropertyValue? (property value : List Char) : Option CharSet :=
  let p := String.ofList (normalizeName property)
  let v := String.ofList (normalizeName value)
  if p == "gc" || p == "generalcategory" then ofCategory? v
  else if ["sc", "script", "scx", "scriptextensions"].contains p then ofScriptName? v
  else none

/-- An ASCII class such as alpha. -/
def asciiClass? (name : String) : Option CharSet :=
  let lowers := (97, 122)
  let uppers := (65, 90)
  let digits := (48, 57)
  match name with
  | "alnum" => some ⟨[digits, uppers, lowers]⟩
  | "alpha" => some ⟨[uppers, lowers]⟩
  | "ascii" => some ⟨[(0, 127)]⟩
  | "blank" => some ⟨[(9, 9), (32, 32)]⟩
  | "cntrl" => some ⟨[(0, 31), (127, 127)]⟩
  | "digit" => some ⟨[digits]⟩
  | "graph" => some ⟨[(33, 126)]⟩
  | "lower" => some ⟨[lowers]⟩
  | "print" => some ⟨[(32, 126)]⟩
  | "punct" => some ⟨[(33, 47), (58, 64), (91, 96), (123, 126)]⟩
  | "space" => some ⟨[(9, 13), (32, 32)]⟩
  | "upper" => some ⟨[uppers]⟩
  | "word" => some ⟨[digits, uppers, (95, 95), lowers]⟩
  | "xdigit" => some ⟨[digits, (65, 70), (97, 102)]⟩
  | _ => none

end Estate.Regex
