import Estate.Html.CharacterReference
import Estate.Text.Case
import Estate.Text.Replace

/-!
The tokens of markup: tags, comments, document types and the text between them.
-/

namespace Estate.Html

/-- The head of a start tag; of attributes with one name the first stays. -/
structure TagHead where
  name : String
  attributes : List (String × String)
  selfClosing : Bool

inductive Token where
  | doctype (name publicId systemId : Option String) (faulty : Bool)
  | startTag (head : TagHead)
  | endTag (name : String)
  | comment (s : String)
  /-- White space before other text. -/
  | blank (s : String)
  | text (s : String)
  | nul
  | finish

/-- How the text behind a start tag is read: up to the end tag of that name with references
decoded or not, as a script, or to the end of the page. -/
inductive Content where
  | markup
  | decoded (name : String)
  | raw (name : String)
  | script
  | plain

def isSpace (c : Char) : Bool := c == ' ' || c == '\t' || c == '\n' || c == '\x0c'

def endsName (c : Char) : Bool := isSpace c || c == '/' || c == '>'

def lowerName (cs : List Char) : String :=
  .ofList (cs.map fun c => if c == '\x00' then '\ufffd' else Text.lowerAscii c)

def withoutNul (cs : List Char) : List Char := cs.map fun c => if c == '\x00' then '\ufffd' else c

def decodedValue (cs : List Char) : String := .ofList (withoutNul (decode true cs))

/-- The attributes of a tag, back to front, whether it closes itself, and the text behind it; nothing
if the page ends inside the tag. Each step takes at least one character. -/
def attributesFrom (done : List (String × String)) :
    Nat → List Char → Option (List (String × String) × Bool × List Char)
  | 0, _ | _, [] => none
  | fuel + 1, c :: cs =>
    if isSpace c then attributesFrom done fuel cs
    else if c == '>' then some (done, false, cs)
    else if c == '/' then
      if cs.head? == some '>' then some (done, true, cs.tail) else attributesFrom done fuel cs
    else
      let isPart (d : Char) : Bool := !endsName d && d != '='
      let name := lowerName (c :: cs.takeWhile isPart)
      let put (value : String) := if (done.lookup name).isSome then done else (name, value) :: done
      match (cs.dropWhile isPart).dropWhile isSpace with
      | '=' :: rest =>
        match rest.dropWhile isSpace with
        | [] => none
        | q :: rest =>
          if q == '"' || q == '\'' then
            let value := rest.takeWhile (· != q)
            attributesFrom (put (decodedValue value)) fuel (rest.drop (value.length + 1))
          else
            let value := (q :: rest).takeWhile fun d => !isSpace d && d != '>'
            attributesFrom (put (decodedValue value)) fuel ((q :: rest).drop value.length)
      | rest => attributesFrom (put "") fuel rest

/-- The text of a comment and the text behind it. -/
def commentFrom : List Char → List Char × List Char
  | '-' :: '-' :: '>' :: cs => ([], cs)
  | '-' :: '-' :: '!' :: '>' :: cs => ([], cs)
  | [] | ['-'] | ['-', '-'] | ['-', '-', '!'] => ([], [])
  | c :: cs =>
    let (body, rest) := commentFrom cs
    (c :: body, rest)

def comment (cs : List Char) : Token × List Char :=
  let (body, rest) := match cs with
    | '>' :: rest => ([], rest)
    | '-' :: '>' :: rest => ([], rest)
    | _ => commentFrom cs
  (.comment (.ofList (withoutNul body)), rest)

/-- What is no proper markup is a comment up to the next closing bracket. -/
def falseComment (cs : List Char) : Token × List Char :=
  let body := cs.takeWhile (· != '>')
  (.comment (.ofList (withoutNul body)), cs.drop (body.length + 1))

/-- The text behind a word, which stands at the start in letters of either case. -/
def afterWord? (word : String) (cs : List Char) : Option (List Char) :=
  let n := word.length
  if (cs.take n).map Text.lowerAscii == word.toList then some (cs.drop n) else none

/-- A text in quotes and whether the quote is closed, with what follows. -/
def quoted? (cs : List Char) : Option (String × Bool × List Char) :=
  match cs with
  | q :: cs =>
    if q == '"' || q == '\'' then
      let body := cs.takeWhile fun c => c != q && c != '>'
      some (.ofList (withoutNul body), (cs.drop body.length).head? == some q,
        cs.drop (body.length + 1))
    else none
  | [] => none

/-- The parts of a document type before its closing bracket. -/
def doctype (cs : List Char) : Token × List Char :=
  let skip (cs : List Char) := cs.dropWhile isSpace
  let close (cs : List Char) := (cs.dropWhile (· != '>')).drop 1
  let cs := skip cs
  let nameChars := cs.takeWhile fun c => !isSpace c && c != '>'
  let name := if nameChars.isEmpty then none else some (lowerName nameChars)
  let rest := skip (cs.drop nameChars.length)
  let build (publicId systemId : Option String) (faulty : Bool) (rest : List Char) :=
    (Token.doctype name publicId systemId (faulty || name.isNone || rest.isEmpty), close rest)
  let withSystem (publicId : Option String) (needed : Bool) (cs : List Char) :=
    match quoted? (skip cs) with
    | some (systemId, true, rest) => build publicId (some systemId) false rest
    | some (systemId, false, _) => (Token.doctype name publicId (some systemId) true, close cs)
    | none => build publicId none (needed || (skip cs).head? != some '>') (skip cs)
  match afterWord? "public" rest, afterWord? "system" rest with
  | some rest, _ =>
    match quoted? (skip rest) with
    | some (publicId, true, rest) => withSystem (some publicId) false rest
    | some (publicId, false, _) => (Token.doctype name (some publicId) none true, close rest)
    | none => build none none true rest
  | none, some rest => withSystem none true rest
  | none, none => build none none (rest.head? != some '>') rest

/-- A tag from its name on. Nothing comes of a tag in which the page ends. -/
def tag (isEnd : Bool) (cs : List Char) : Option Token × List Char :=
  let name := cs.takeWhile (!endsName ·)
  match attributesFrom [] (cs.length + 1) (cs.drop name.length) with
  | some (attributes, selfClosing, rest) =>
    (some (if isEnd then .endTag (lowerName name)
      else .startTag ⟨lowerName name, attributes.reverse, selfClosing⟩), rest)
  | none => (none, [])

/-- The markup behind an opening bracket; sections of character data are read where they are
allowed. -/
def markupFrom (dataAllowed : Bool) (cs : List Char) : Option Token × List Char :=
  let some? (p : Token × List Char) : Option Token × List Char := (some p.1, p.2)
  match cs with
  | '/' :: '>' :: rest => (none, rest)
  | '/' :: c :: rest =>
    if Text.isAsciiLetter c then tag true (c :: rest) else some? (falseComment (c :: rest))
  | '!' :: '-' :: '-' :: rest => some? (comment rest)
  | '!' :: rest =>
    match afterWord? "doctype" rest, dataAllowed, Text.after? "[CDATA[".toList rest with
    | some rest, _, _ => some? (doctype rest)
    | none, true, some rest =>
      let (body, rest) := (Text.cutAt? "]]>".toList rest).getD (rest, [])
      (some (.text (.ofList body)), rest)
    | _, _, _ => some? (falseComment rest)
  | '?' :: _ => some? (falseComment cs)
  | c :: _ => if Text.isAsciiLetter c then tag false cs else (some (.text "<"), cs)
  | [] => (some (.text "<"), [])

/-- The next token of markup. -/
def nextToken (dataAllowed : Bool) (cs : List Char) : Option Token × List Char :=
  match cs with
  | [] => (some .finish, [])
  | '<' :: rest => markupFrom dataAllowed rest
  | '\x00' :: rest => (some .nul, rest)
  | c :: _ =>
    if isSpace c then
      let body := cs.takeWhile isSpace
      (some (.blank (.ofList body)), cs.drop body.length)
    else
      let body := cs.takeWhile fun c => c != '<' && c != '\x00'
      (some (.text (.ofList (decode false body))), cs.drop body.length)

/-- An end tag of the name stands at the start of the text. -/
def closes (name : String) (cs : List Char) : Bool :=
  match cs with
  | '<' :: '/' :: rest => ((afterWord? name rest).bind List.head?).any endsName
  | _ => false

/-- The text up to the end tag of a name, and the rest from there. -/
def spanContent (name : String) : List Char → List Char × List Char
  | [] => ([], [])
  | c :: cs =>
    if closes name (c :: cs) then ([], c :: cs)
    else
      let (body, rest) := spanContent name cs
      (c :: body, rest)

/-- Where the text of a script stands: outside comments, in a comment, or in a script inside one. -/
inductive ScriptPart where
  | bare
  | commented
  | nested

/-- The text of a script and the rest from its end tag on. `dashes` counts the hyphens just read
inside a comment, `skip` the characters that belong to what has been recognised. -/
def spanScript (part : ScriptPart) (dashes skip : Nat) : List Char → List Char × List Char
  | [] => ([], [])
  | c :: cs =>
    let go (part : ScriptPart) (dashes skip : Nat) : List Char × List Char :=
      let (body, rest) := spanScript part dashes skip cs
      (c :: body, rest)
    let counted := if c == '-' then dashes + 1 else 0
    match skip, part with
    | n + 1, _ => go part counted n
    | 0, .bare =>
      if closes "script" (c :: cs) then ([], c :: cs)
      else if Text.startsWith (c :: cs) "<!--".toList then go .commented 0 3
      else go .bare 0 0
    | 0, .commented =>
      if closes "script" (c :: cs) then ([], c :: cs)
      else if c == '>' && dashes ≥ 2 then go .bare 0 0
      else if c == '<' && ((afterWord? "script" cs).bind List.head?).any endsName then
        go .nested 0 7
      else go .commented counted 0
    | 0, .nested =>
      if c == '>' && dashes ≥ 2 then go .bare 0 0
      else if closes "script" (c :: cs) then go .commented 0 8
      else go .nested counted 0

/-- The text that is the content of an element, and the rest from its end tag on. -/
def Content.span (content : Content) (cs : List Char) : String × List Char :=
  match content with
  | .markup => ("", cs)
  | .decoded name =>
    let (body, rest) := spanContent name cs
    (.ofList (withoutNul (decode false body)), rest)
  | .raw name =>
    let (body, rest) := spanContent name cs
    (.ofList (withoutNul body), rest)
  | .script =>
    let (body, rest) := spanScript .bare 0 0 cs
    (.ofList (withoutNul body), rest)
  | .plain => (.ofList (withoutNul cs), [])

/-- Line ends are line feeds, and a byte order mark at the start does not count. -/
def normalizeLineEnds : List Char → List Char
  | [] => []
  | '\r' :: '\n' :: cs => '\n' :: normalizeLineEnds cs
  | '\r' :: cs => '\n' :: normalizeLineEnds cs
  | c :: cs => c :: normalizeLineEnds cs

def sourceText (s : String) : List Char :=
  let cs := normalizeLineEnds s.toList
  if cs.head? == some '\ufeff' then cs.tail else cs

end Estate.Html
