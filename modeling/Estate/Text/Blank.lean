/-!
White space in the sense of Unicode, and the cutting of a text at it.
-/

namespace Estate.Text

def isBlank (c : Char) : Bool :=
  c == ' ' || ('\t' ≤ c && c ≤ '\r') || c == '\u0085' || c == '\u00a0' || c == '\u1680' ||
    ('\u2000' ≤ c && c ≤ '\u200a') || c == '\u2028' || c == '\u2029' || c == '\u202f' ||
    c == '\u205f' || c == '\u3000'

def trimStart (cs : List Char) : List Char := cs.dropWhile isBlank

def trimEnd (cs : List Char) : List Char := (cs.reverse.dropWhile isBlank).reverse

def trim (cs : List Char) : List Char := trimEnd (trimStart cs)

def trimmed (s : String) : String := .ofList (trim s.toList)

/-- The trimmed text, unless nothing is left of it. -/
def nonBlank? (s : String) : Option String :=
  let t := trimmed s
  if t.isEmpty then none else some t

/-- Each run of blanks becomes one space. -/
def squeezeBlanks : List Char → List Char
  | [] => []
  | [c] => if isBlank c then [' '] else [c]
  | c :: d :: rest =>
    if isBlank c then
      if isBlank d then squeezeBlanks (d :: rest) else ' ' :: squeezeBlanks (d :: rest)
    else c :: squeezeBlanks (d :: rest)

/-- Lines end at a line feed, which may follow a carriage return; the text after the last line
feed is a line if it is not empty. -/
def lines (cs : List Char) : List (List Char) :=
  let parts := cs.splitOn '\n'
  let whole := if parts.getLast? == some [] then parts.dropLast else parts
  let lastIndex := parts.length - 1
  whole.mapIdx fun i line =>
    if i < lastIndex && line.getLast? == some '\r' then line.dropLast else line

end Estate.Text
