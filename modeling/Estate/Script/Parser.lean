import Estate.Script.Syntax
import Estate.Script.Token

/-!
Reading a script. All of a script has to be well formed, though only some of its expressions are
kept. The functions call each other at most as deep as their last argument says.
-/

namespace Estate.Script

/-- Read something at a place of a script, and go on behind it. -/
abbrev Reader := StateT Cursor Option

def here : Reader Token := return (← get).token

def advance : Reader Unit := modify Cursor.next

def refuse {α : Type} : Reader α := fun _ => none

/-- Go past a sign if it stands here. -/
def takeSign (s : String) : Reader Bool := do
  if (← here) == .sign s then
    advance
    return true
  else return false

def takeWord (s : String) : Reader Bool := do
  if (← here) == .word s then
    advance
    return true
  else return false

def isSign (s : String) : Reader Bool := return (← here) == .sign s

def isWord (s : String) : Reader Bool := return (← here) == .word s

def expectSign (s : String) : Reader Unit := do
  if !(← takeSign s) then refuse

/-- Try one reader, and another from the same place if it fails. -/
def either {α : Type} (first second : Reader α) : Reader α := fun c => (first c).or (second c)

/-- Words that are no names. -/
def reservedWords : List String :=
  ["break", "case", "catch", "class", "const", "continue", "debugger", "default", "delete", "do",
    "else", "enum", "export", "extends", "false", "finally", "for", "function", "if", "import", "in",
    "instanceof", "new", "null", "return", "super", "switch", "this", "throw", "true", "try",
    "typeof", "var", "void", "while", "with"]

def takeName : Reader String := do
  match ← here with
  | .word s =>
    if reservedWords.contains s then refuse
    else
      advance
      return s
  | _ => refuse

/-- A name behind a point, which may be any word. -/
def takeAnyName : Reader String := do
  match ← here with
  | .word s =>
    advance
    return s
  | .privateName =>
    advance
    return "#"
  | _ => refuse

/-- The end of a statement: a semicolon, or a place where one may be left out. -/
def endStatement : Reader Unit := do
  let c ← get
  match c.token with
  | .sign ";" => advance
  | .sign "\x7d" | .finish => pure ()
  | _ => if c.fresh then pure () else refuse

/-- Signs between two operands. -/
def binarySigns : List String :=
  ["||", "&&", "??", "|", "^", "&", "==", "!=", "===", "!==", "<", ">", "<=", ">=", "<<", ">>",
    ">>>", "+", "-", "*", "/", "%", "**"]

def assignSigns : List String :=
  ["=", "+=", "-=", "*=", "/=", "%=", "**=", "<<=", ">>=", ">>>=", "&=", "|=", "^=", "&&=", "||=",
    "??="]

/-- Go past a sign of a list. -/
def takeAmong (list : List String) : Reader Bool := do
  match ← here with
  | .sign s =>
    if list.contains s then
      advance
      return true
    else return false
  | _ => return false

/-- Go past a sign or word between two operands. -/
def takeBinary (inAllowed : Bool) : Reader Bool := do
  match ← here with
  | .word s =>
    if s == "instanceof" || (s == "in" && inAllowed) then
      advance
      return true
    else return false
  | _ => takeAmong binarySigns

/-- The text of a template up to an expression or its end, whether it ends, and the text behind. -/
def templatePart : List Char → Option (List Char × Bool × List Char)
  | [] => none
  | '`' :: cs => some ([], true, cs)
  | '$' :: '\x7b' :: cs => some ([], false, cs)
  | '\\' :: c :: cs => (templatePart cs).map fun (part, rest) => ('\\' :: c :: part, rest)
  | c :: cs => (templatePart cs).map fun (part, rest) => (c :: part, rest)

/-- All escapes in a part of a template stand for something. -/
def escapesHold (part : List Char) : Bool :=
  match part with
  | [] => true
  | '\\' :: cs => templateEscapeHolds cs && escapesHold (cs.drop 1)
  | _ :: cs => escapesHold cs
termination_by part.length

/-- Read a part of a template behind its quote or an expression, and tell whether it ends there. -/
def templatePiece (tagged : Bool) : Reader (List Char × Bool) := do
  match templatePart (← get).rest with
  | none => refuse
  | some (part, ends, rest) =>
    if !tagged && !escapesHold part then refuse
    set (Cursor.at false rest)
    return (part, ends)

/-- A word that changes what follows it in an object or a class, unless it is a name itself. -/
def takeModifier (s : String) : Reader Bool := do
  if ← isWord s then
    let next := (← get).next
    let standsAlone := match next.token with
      | .sign t => t != "[" && t != "*"
      | .finish | .fault => true
      | _ => false
    if standsAlone || (s == "async" && next.fresh) then return false
    else
      set next
      return true
  else return false

mutual

/-- Expressions with commas between. -/
def expression (inAllowed : Bool) : Nat → Reader Expression
  | 0 => refuse
  | depth + 1 => do
    let first ← assignment inAllowed depth
    if ← isSign "," then
      moreExpressions inAllowed depth
      return .other
    else return first

def moreExpressions (inAllowed : Bool) : Nat → Reader Unit
  | 0 => refuse
  | depth + 1 => do
    if ← takeSign "," then
      discard (assignment inAllowed depth)
      moreExpressions inAllowed depth

/-- An expression without a comma. -/
def assignment (inAllowed : Bool) : Nat → Reader Expression
  | 0 => refuse
  | depth + 1 =>
    either (arrow inAllowed depth) do
      let left ← conditional inAllowed depth
      match ← here with
      | .sign s =>
        if assignSigns.contains s then
          if !(left.isTarget || (s == "=" && left.isPattern)) then refuse
          advance
          return .assign s left (← assignment inAllowed depth)
        else return left
      | _ => return left

/-- A function written with an arrow. -/
def arrow (inAllowed : Bool) : Nat → Reader Expression
  | 0 => refuse
  | depth + 1 => do
    let next := (← get).next
    if (← isWord "async") && !next.fresh then
      match next.token with
      | .word _ | .sign "(" => set next
      | _ => pure ()
    match ← here with
    | .sign "(" => parameters depth
    | .word _ => discard takeName
    | _ => refuse
    expectSign "=>"
    if ← isSign "\x7b" then block depth else discard (assignment inAllowed depth)
    return .other

/-- Operands with signs between, and a choice between two expressions. -/
def conditional (inAllowed : Bool) : Nat → Reader Expression
  | 0 => refuse
  | depth + 1 => do
    let first ← operand depth
    let e ← operands inAllowed first depth
    if ← takeSign "?" then
      discard (assignment true depth)
      expectSign ":"
      discard (assignment inAllowed depth)
      return .other
    else return e

/-- The operands behind the first one. -/
def operands (inAllowed : Bool) (first : Expression) : Nat → Reader Expression
  | 0 => refuse
  | depth + 1 => do
    if ← takeBinary inAllowed then
      discard (operand depth)
      discard (operands inAllowed .other depth)
      return .other
    else return first

/-- An operand with the signs and words before and behind it. -/
def operand : Nat → Reader Expression
  | 0 => refuse
  | depth + 1 => do
    let c ← get
    match c.token with
    | .sign "-" =>
      advance
      return .negative (← operand depth)
    | .sign "+" | .sign "!" | .sign "~" | .sign "++" | .sign "--" =>
      advance
      discard (operand depth)
      return .other
    | .word "delete" | .word "void" | .word "typeof" =>
      advance
      discard (operand depth)
      return .other
    | .word "await" =>
      either (do advance; discard (operand depth); return .other) (postfixed depth)
    | .word "yield" =>
      either
        (do
          advance
          discard (takeSign "*")
          if (← get).fresh then refuse
          discard (assignment true depth)
          return .other)
        (postfixed depth)
    | .privateName =>
      advance
      if ← isWord "in" then return .other else refuse
    | _ => postfixed depth

/-- An operand that may be counted up or down. -/
def postfixed : Nat → Reader Expression
  | 0 => refuse
  | depth + 1 => do
    let e ← primary depth
    let e ← suffixes true e depth
    let c ← get
    match c.token with
    | .sign "++" | .sign "--" =>
      if c.fresh then return e
      else
        advance
        return .other
    | _ => return e

/-- What may follow an operand: members, calls and templates. -/
def suffixes (callsAllowed : Bool) (e : Expression) : Nat → Reader Expression
  | 0 => refuse
  | depth + 1 => do
    match ← here with
    | .sign "." =>
      advance
      let name ← takeAnyName
      suffixes callsAllowed (if name == "#" then .place else .member e name) depth
    | .sign "[" =>
      advance
      discard (expression true depth)
      expectSign "]"
      suffixes callsAllowed .place depth
    | .sign "(" =>
      if callsAllowed then
        advance
        let list ← arguments depth
        suffixes callsAllowed (.call e list) depth
      else return e
    | .sign "?." =>
      if !callsAllowed then refuse
      advance
      match ← here with
      | .sign "(" =>
        advance
        discard (arguments depth)
      | .sign "[" =>
        advance
        discard (expression true depth)
        expectSign "]"
      | .sign "`" => pure ()
      | _ => discard takeAnyName
      suffixes callsAllowed .place depth
    | .sign "`" =>
      discard (template true depth)
      suffixes callsAllowed .other depth
    | _ => return e

/-- The arguments of a call up to its closing bracket. -/
def arguments : Nat → Reader (List Expression)
  | 0 => refuse
  | depth + 1 => do
    if ← takeSign ")" then return []
    else
      discard (takeSign "...")
      let first ← assignment true depth
      if ← takeSign "," then return first :: (← arguments depth)
      else
        expectSign ")"
        return [first]

/-- A template from its first quote on. One with a tag may have any escapes. -/
def template (tagged : Bool) : Nat → Reader Expression
  | 0 => refuse
  | depth + 1 => do
    let (part, ends) ← templatePiece tagged
    if ends then return .template (.ofList part)
    else
      templateRest tagged depth
      return .other

/-- A template from inside an expression on. -/
def templateRest (tagged : Bool) : Nat → Reader Unit
  | 0 => refuse
  | depth + 1 => do
    discard (expression true depth)
    if !(← isSign "\x7d") then refuse
    let (_, ends) ← templatePiece tagged
    if ends then return () else templateRest tagged depth

/-- An operand by itself. -/
def primary : Nat → Reader Expression
  | 0 => refuse
  | depth + 1 => do
    let c ← get
    match c.token with
    | .number x =>
      advance
      return .number x
    | .bigInteger =>
      advance
      return .other
    | .text s =>
      advance
      return .text s
    | .sign "(" =>
      advance
      let e ← expression true depth
      expectSign ")"
      return .grouped e
    | .sign "[" =>
      advance
      return .array (← items depth)
    | .sign "\x7b" =>
      advance
      return .object (← members depth)
    | .sign "`" => template false depth
    | .sign "/" | .sign "/=" =>
      match c.afterPattern? with
      | some c =>
        set c
        return .other
      | none => refuse
    | .word s =>
      match s with
      | "this" | "super" =>
        advance
        return .other
      | "null" =>
        advance
        return .null
      | "true" | "false" =>
        advance
        return .bool (s == "true")
      | "function" =>
        function false depth
        return .other
      | "class" =>
        classFrom false depth
        return .other
      | "new" =>
        advance
        newFrom depth
        return .other
      | "import" =>
        advance
        if (← isSign "(") || (← isSign ".") then return .other else refuse
      | "async" =>
        let next := c.next
        if next.token == .word "function" && !next.fresh then
          set next
          function false depth
          return .other
        else return .name (← takeName)
      | _ => return .name (← takeName)
    | _ => refuse

/-- What is made anew, and the arguments it is made from. -/
def newFrom : Nat → Reader Unit
  | 0 => refuse
  | depth + 1 => do
    if ← takeSign "." then discard takeAnyName
    else
      if ← takeWord "new" then newFrom depth else discard (primary depth)
      discard (suffixes false .other depth)
      if ← takeSign "(" then discard (arguments depth)

/-- The items of an array up to its closing bracket. -/
def items : Nat → Reader (List (Option Expression))
  | 0 => refuse
  | depth + 1 => do
    if ← takeSign "]" then return []
    else if ← takeSign "," then return none :: (← items depth)
    else
      discard (takeSign "...")
      let first ← assignment true depth
      if ← takeSign "," then return some first :: (← items depth)
      else
        expectSign "]"
        return [some first]

/-- The key of a member. -/
def key : Nat → Reader Key
  | 0 => refuse
  | depth + 1 => do
    match ← here with
    | .word s =>
      advance
      return .name s
    | .text s =>
      advance
      return (s.map Key.name).getD .unknown
    | .number x =>
      advance
      return .number x
    | .bigInteger | .privateName =>
      advance
      return .unknown
    | .sign "[" =>
      advance
      discard (assignment true depth)
      expectSign "]"
      return .unknown
    | _ => refuse

/-- The members of an object up to its closing brace; only those with a key and a value are kept. -/
def members : Nat → Reader (List (Key × Expression))
  | 0 => refuse
  | depth + 1 => do
    if ← takeSign "\x7d" then return []
    else
      let first ← member depth
      if ← takeSign "," then return first.toList ++ (← members depth)
      else
        expectSign "\x7d"
        return first.toList

def member : Nat → Reader (Option (Key × Expression))
  | 0 => refuse
  | depth + 1 => do
    if ← takeSign "..." then
      discard (assignment true depth)
      return none
    else
      let asynchronous ← takeModifier "async"
      let generator ← takeSign "*"
      let accessor ←
        if asynchronous || generator then pure false
        else if ← takeModifier "get" then pure true
        else takeModifier "set"
      let start ← get
      let k ← key depth
      if asynchronous || generator || accessor || (← isSign "(") then
        method depth
        return none
      else if ← takeSign ":" then return some (k, ← assignment true depth)
      else
        if !start.token.isWord then refuse
        if ← takeSign "=" then discard (assignment true depth)
        return none

/-- The parameters and the body of a function. -/
def method : Nat → Reader Unit
  | 0 => refuse
  | depth + 1 => do
    parameters depth
    block depth

/-- A function from its keyword on. -/
def function (named : Bool) : Nat → Reader Unit
  | 0 => refuse
  | depth + 1 => do
    advance
    discard (takeSign "*")
    if named || !(← isSign "(") then discard takeName
    method depth

def parameters : Nat → Reader Unit
  | 0 => refuse
  | depth + 1 => do
    expectSign "("
    parametersFrom depth

def parametersFrom : Nat → Reader Unit
  | 0 => refuse
  | depth + 1 => do
    if ← takeSign ")" then return ()
    else if ← takeSign "..." then
      discard (binding depth)
      expectSign ")"
    else
      bindingWithDefault depth
      if ← takeSign "," then parametersFrom depth else expectSign ")"

/-- A name, or names in the shape of an array or an object. -/
def binding : Nat → Reader (Option String)
  | 0 => refuse
  | depth + 1 => do
    if ← takeSign "[" then
      arrayBinding depth
      return none
    else if ← takeSign "\x7b" then
      objectBinding depth
      return none
    else return some (← takeName)

def bindingWithDefault : Nat → Reader Unit
  | 0 => refuse
  | depth + 1 => do
    discard (binding depth)
    if ← takeSign "=" then discard (assignment true depth)

def arrayBinding : Nat → Reader Unit
  | 0 => refuse
  | depth + 1 => do
    if ← takeSign "]" then return ()
    else if ← takeSign "," then arrayBinding depth
    else
      discard (takeSign "...")
      bindingWithDefault depth
      if ← takeSign "," then arrayBinding depth else expectSign "]"

def objectBinding : Nat → Reader Unit
  | 0 => refuse
  | depth + 1 => do
    if ← takeSign "\x7d" then return ()
    else
      if ← takeSign "..." then discard (binding depth)
      else
        let start ← get
        discard (key depth)
        if ← takeSign ":" then bindingWithDefault depth
        else
          if !start.token.isWord then refuse
          if ← takeSign "=" then discard (assignment true depth)
      if ← takeSign "," then objectBinding depth else expectSign "\x7d"

/-- A class from its keyword on. -/
def classFrom (named : Bool) : Nat → Reader Unit
  | 0 => refuse
  | depth + 1 => do
    advance
    let anonymous := (← isSign "\x7b") || (← isWord "extends")
    if named || !anonymous then discard takeName
    if ← takeWord "extends" then
      let e ← primary depth
      discard (suffixes true e depth)
    expectSign "\x7b"
    classMembers depth

def classMembers : Nat → Reader Unit
  | 0 => refuse
  | depth + 1 => do
    if ← takeSign "\x7d" then return ()
    else if ← takeSign ";" then classMembers depth
    else
      classMember depth
      classMembers depth

def classMember : Nat → Reader Unit
  | 0 => refuse
  | depth + 1 => do
    let next := (← get).next
    if (← isWord "static") && next.token == .sign "\x7b" then
      advance
      block depth
    else
      discard (takeModifier "static")
      let asynchronous ← takeModifier "async"
      let generator ← takeSign "*"
      if !asynchronous && !generator then
        if !(← takeModifier "get") then discard (takeModifier "set")
      discard (key depth)
      if ← isSign "(" then method depth
      else
        if ← takeSign "=" then discard (assignment true depth)
        endStatement

/-- Statements in braces. -/
def block : Nat → Reader Unit
  | 0 => refuse
  | depth + 1 => do
    expectSign "\x7b"
    blockRest depth

def blockRest : Nat → Reader Unit
  | 0 => refuse
  | depth + 1 => do
    if ← takeSign "\x7d" then return ()
    else
      discard (statement depth)
      blockRest depth

/-- Declared variables, with their values. What is taken apart has a value, unless a loop gives
one. -/
def declarations (inAllowed : Bool) : Nat → Reader (List (Option String × Option Expression))
  | 0 => refuse
  | depth + 1 => do
    let name ← binding depth
    let value ← if ← takeSign "=" then some <$> assignment inAllowed depth else pure none
    let looped := !inAllowed && ((← isWord "in") || (← isWord "of"))
    if name.isNone && value.isNone && !looped then refuse
    if ← takeSign "," then return (name, value) :: (← declarations inAllowed depth)
    else return [(name, value)]

/-- An expression in brackets. -/
def bracketed : Nat → Reader Unit
  | 0 => refuse
  | depth + 1 => do
    expectSign "("
    discard (expression true depth)
    expectSign ")"

def statement : Nat → Reader Statement
  | 0 => refuse
  | depth + 1 => do
    let c ← get
    match c.token with
    | .sign "\x7b" =>
      block depth
      return .other
    | .sign ";" =>
      advance
      return .other
    | .word s =>
      match s with
      | "var" | "const" =>
        advance
        let list ← declarations true depth
        endStatement
        return .declare list
      | "let" =>
        let declares := match c.next.token with
          | .word w => !reservedWords.contains w
          | .sign "[" | .sign "\x7b" => true
          | _ => false
        if declares then
          advance
          let list ← declarations true depth
          endStatement
          return .declare list
        else expressionStatement depth
      | "function" =>
        function true depth
        return .other
      | "async" =>
        if c.next.token == .word "function" && !c.next.fresh then
          advance
          function true depth
          return .other
        else expressionStatement depth
      | "class" =>
        classFrom true depth
        return .other
      | "import" =>
        match c.next.token with
        | .sign "(" | .sign "." => expressionStatement depth
        | _ => refuse
      | _ =>
        if reservedWords.contains s then
          keywordStatement s depth
        else expressionStatement depth
    | _ => expressionStatement depth

/-- An expression, or a statement with a label before it. -/
def expressionStatement : Nat → Reader Statement
  | 0 => refuse
  | depth + 1 => do
    let c ← get
    match c.token, c.next.token with
    | .word s, .sign ":" =>
      if reservedWords.contains s then refuse
      set c.next.next
      discard (statement depth)
      return .other
    | _, _ =>
      let e ← expression true depth
      endStatement
      return .expression e

/-- A statement that starts with a keyword. -/
def keywordStatement (s : String) : Nat → Reader Statement
  | 0 => refuse
  | depth + 1 => do
    match s with
    | "if" =>
      advance
      bracketed depth
      discard (statement depth)
      if ← takeWord "else" then discard (statement depth)
      return .other
    | "for" =>
      advance
      discard (takeWord "await")
      expectSign "("
      forHead depth
      discard (statement depth)
      return .other
    | "while" | "with" =>
      advance
      bracketed depth
      discard (statement depth)
      return .other
    | "do" =>
      advance
      discard (statement depth)
      if !(← takeWord "while") then refuse
      bracketed depth
      discard (takeSign ";")
      return .other
    | "continue" | "break" =>
      advance
      if !(← get).fresh then
        match ← here with
        | .word _ => discard takeName
        | _ => pure ()
      endStatement
      return .other
    | "return" =>
      advance
      let c ← get
      let bare := c.fresh || c.token == .sign ";" || c.token == .sign "\x7d" || c.token == .finish
      if !bare then discard (expression true depth)
      endStatement
      return .other
    | "throw" =>
      advance
      if (← get).fresh then refuse
      discard (expression true depth)
      endStatement
      return .other
    | "debugger" =>
      advance
      endStatement
      return .other
    | "switch" =>
      advance
      bracketed depth
      expectSign "\x7b"
      cases depth
      return .other
    | "try" =>
      advance
      block depth
      let caught ← takeWord "catch"
      if caught then
        if ← takeSign "(" then
          discard (binding depth)
          expectSign ")"
        block depth
      if ← takeWord "finally" then block depth
      else if !caught then refuse
      return .other
    | _ => expressionStatement depth

/-- The head of a loop up to its closing bracket. -/
def forHead : Nat → Reader Unit
  | 0 => refuse
  | depth + 1 => do
    let c ← get
    let declares := match c.token with
      | .word "var" | .word "const" => true
      | .word "let" =>
        match c.next.token with
        | .word w => w != "in" && w != "of"
        | .sign "[" | .sign "\x7b" => true
        | _ => false
      | _ => false
    if !(← isSign ";") then
      if declares then
        advance
        discard (declarations false depth)
      else discard (expression false depth)
    if (← takeWord "of") || (← takeWord "in") then
      discard (expression true depth)
      expectSign ")"
    else
      expectSign ";"
      if !(← isSign ";") then discard (expression true depth)
      expectSign ";"
      if !(← isSign ")") then discard (expression true depth)
      expectSign ")"

/-- The cases of a choice up to the closing brace. -/
def cases : Nat → Reader Unit
  | 0 => refuse
  | depth + 1 => do
    if ← takeSign "\x7d" then return ()
    else
      if ← takeWord "case" then discard (expression true depth)
      else if !(← takeWord "default") then refuse
      expectSign ":"
      caseBody depth
      cases depth

def caseBody : Nat → Reader Unit
  | 0 => refuse
  | depth + 1 => do
    let ends := (← isSign "\x7d") || (← isWord "case") || (← isWord "default")
    if !ends then
      discard (statement depth)
      caseBody depth

end

/-- All statements up to the end of the script. -/
def statements : Nat → Reader Program
  | 0 => refuse
  | depth + 1 => do
    if (← here) == .finish then return []
    else
      let first ← statement depth
      return first :: (← statements depth)

/-- The program a script is, if it is well formed. Each character takes the depth down by less than
twenty. -/
def Program.ofText? (s : String) : Option Program :=
  ((statements (20 * (s.length + 5))).run (.start s)).map (·.1)

end Estate.Script
