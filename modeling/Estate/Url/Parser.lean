import Estate.Url.Host

/-!
Reading an address, on its own or against the address of the page it stands on.
-/

namespace Estate.Url

/-- What a text is cut into: the part before the query, the query and the fragment. -/
structure Pieces where
  main : List Char
  query : Option (List Char)
  fragment : Option (List Char)

/-- The text before a character, and the text behind it if it occurs. -/
def cutAtChar (sep : Char) (cs : List Char) : List Char × Option (List Char) :=
  (cs.takeWhile (· != sep), (cs.dropWhile (· != sep)).tail?)

def Pieces.ofText (cs : List Char) : Pieces :=
  let (front, fragment) := cutAtChar '#' cs
  let (main, query) := cutAtChar '?' front
  ⟨main, query, fragment⟩

def encodeText (set : String) (cs : List Char) : String :=
  .ofList (Text.percentEncode set.toList cs)

def fragmentSet : String := " \"<>`"

def pathSet : String := fragmentSet ++ "#?\x7b\x7d"

def userSet : String := pathSet ++ "/:;=@[\\]^|"

def querySet (scheme : String) : String := " \"#<>" ++ (if isSpecial scheme then "'" else "")

/-- The address with the query and fragment of the pieces. -/
def withEnd (u : Url) (p : Pieces) : Url :=
  { u with
    query := p.query.map (encodeText (querySet u.scheme))
    fragment := p.fragment.map (encodeText fragmentSet) }

def isSlash (c : Char) : Bool := c == '/' || c == '\\'

def isSeparator (scheme : String) (c : Char) : Bool :=
  c == '/' || (c == '\\' && isSpecial scheme)

def isDot (segment : List Char) : Bool := [".", "%2e"].contains (String.ofList segment).toLower

def isDoubleDot (segment : List Char) : Bool :=
  ["..", ".%2e", "%2e.", "%2e%2e"].contains (String.ofList segment).toLower

/-- A letter and a colon, or a bar in place of the colon. -/
def isDrive : List Char → Bool
  | [c, d] => Text.isAsciiLetter c && (d == ':' || d == '|')
  | _ => false

/-- A drive is not left. -/
def leave (done : List String) : List String :=
  if done.getLast?.any (isDrive ·.toList) then done else done.dropLast

/-- The segments that a path leads to from where the first segments lead. -/
def walk (scheme : String) (done : List String) : List (List Char) → List String
  | [] => done
  | part :: parts =>
    let ending := if parts.isEmpty then [""] else []
    if isDoubleDot part then walk scheme (leave done ++ ending) parts
    else if isDot part then walk scheme (done ++ ending) parts
    else if scheme == "file" && done.isEmpty && isDrive part then
      walk scheme [.ofList (part.take 1 ++ [':'])] parts
    else walk scheme (done ++ [encodeText pathSet part]) parts

/-- The path written as text, from where the first segments lead. -/
def pathFrom (scheme : String) (done : List String) (cs : List Char) : Path :=
  let segments := walk scheme done (cs.splitOnP (isSeparator scheme))
  let full := segments.dropWhile (·.isEmpty)
  .segments (if scheme != "file" then segments else if full.isEmpty then [""] else full)

/-- The name and password before the last at sign of an authority, and what follows the sign. An at
sign with nothing before it needs a host behind it. -/
def credentials? (scheme : String) (atEnd : Bool) (cs : List Char) :
    Except Fault (String × String × List Char) :=
  let authority := cs.takeWhile (!isSeparator scheme ·)
  let rest := cs.dropWhile (!isSeparator scheme ·)
  let host := (authority.reverse.takeWhile (· != '@')).reverse
  let user := authority.take (authority.length - host.length - 1)
  if host.length == authority.length then .ok ("", "", cs)
  else if user.isEmpty && host.isEmpty && !(rest.isEmpty && atEnd) then .error .emptyHost
  else
    let (name, password) := cutAtChar ':' user
    .ok (encodeText userSet name, encodeText userSet (password.getD []), host ++ rest)

/-- The text of a host, which ends at a colon outside brackets, and the text behind it. -/
def spanHost (scheme : String) (bracket : Bool) : List Char → List Char × List Char
  | [] => ([], [])
  | c :: cs =>
    if isSeparator scheme c || (c == ':' && !bracket) then ([], c :: cs)
    else
      let (host, rest) := spanHost scheme (if c == '[' then true else bracket && c != ']') cs
      (c :: host, rest)

/-- The port behind a host, and the path behind the port. -/
def port? (cs : List Char) : Except Fault (Option Nat × List Char) :=
  match cs with
  | ':' :: cs =>
    let digits := cs.takeWhile Text.isAsciiDigit
    let rest := cs.dropWhile Text.isAsciiDigit
    if rest.head?.any (!isSlash ·) || Text.digitsValue digits > 65535 then .error .port
    else .ok (if digits.isEmpty then none else some (Text.digitsValue digits), rest)
  | _ => .ok (none, cs)

/-- The path behind an authority. -/
def rootPath (scheme : String) (cs : List Char) : Path :=
  match cs with
  | [] => if isSpecial scheme then .segments [""] else .segments []
  | c :: rest => pathFrom scheme [] (if isSeparator scheme c then rest else cs)

/-- What stands behind the two slashes. -/
def ofAuthority (scheme : String) (p : Pieces) (cs : List Char) : Except Fault Url := do
  let atEnd := p.query.isNone && p.fragment.isNone
  let (username, password, cs) ← credentials? scheme atEnd cs
  let (hostText, rest) := spanHost scheme false cs
  if hostText.isEmpty && isSpecial scheme then throw .emptyHost
  let host ← if isSpecial scheme then host? hostText else otherHost? hostText
  if hostText.isEmpty && (rest.head? == some ':') then throw .emptyHost
  let (port, path) ← port? rest
  if hostText.isEmpty && !(username.isEmpty && password.isEmpty) then throw .emptyHost
  return withEnd
    { scheme, username, password, host, port := portFor scheme port, path := rootPath scheme path,
      query := none, fragment := none } p

def startsWithDrive (cs : List Char) : Bool := isDrive (cs.takeWhile (!isSlash ·))

def fileAt (host : Option Host) (path : Path) : Url :=
  ⟨"file", "", "", host, none, path, none, none⟩

def nowhere : Option Host := some (.name "")

/-- The file a host and a path name. No host is kept before a drive, nor the one that stands for
this machine. -/
def fileOn (host : Option Host) (path : Path) : Url :=
  let drive := match path with
    | .segments (first :: _) => isDrive first.toList
    | .text _ | .segments [] => false
  fileAt (if drive || host == some (.name "localhost") then nowhere else host) path

def segments (u : Url) : List String :=
  match u.path with
  | .segments list => list
  | .text _ => []

/-- The address with what is given anew behind the path: a query takes the place of the query, and
either takes the place of the fragment. -/
def withNewEnd (u : Url) (p : Pieces) : Url :=
  let changed := withEnd u p
  if p.query.isSome then changed else { changed with query := u.query }

/-- A file, found from another. -/
def fileFrom (base : Url) (p : Pieces) : Except Fault Url :=
  match p.main with
  | [] => .ok (withNewEnd base p)
  | '/' :: '/' :: cs | '/' :: '\\' :: cs | '\\' :: '/' :: cs | '\\' :: '\\' :: cs =>
    let hostText := cs.takeWhile (!isSlash ·)
    let path := cs.dropWhile (!isSlash ·)
    if isDrive hostText then .ok (withEnd (fileAt nowhere (pathFrom "file" [] cs)) p)
    else if hostText.isEmpty then .ok (withEnd (fileAt nowhere (rootPath "file" path)) p)
    else (host? hostText).map fun host => withEnd (fileOn (some host) (rootPath "file" path)) p
  | c :: cs =>
    let rooted := isSlash c
    let path := if rooted then cs else c :: cs
    let drive := base.segments.head?.filter (isDrive ·.toList)
    let (host, start) :=
      if startsWithDrive path then (nowhere, [])
      else if rooted then (if drive.isSome then nowhere else base.host, drive.toList)
      else (base.host, leave base.segments)
    .ok (withEnd (fileAt host (pathFrom "file" start path)) p)

/-- An address with the scheme of another, found from it. -/
def foundFrom (base : Url) (p : Pieces) : Except Fault Url :=
  if base.scheme == "file" then fileFrom base p
  else
    let moved (path : Path) : Url := withEnd { base with path } p
    match p.main with
    | [] => .ok (withNewEnd base p)
    | c :: cs =>
      let slashes := p.main.takeWhile isSlash
      if slashes.length ≥ 2 then
        ofAuthority base.scheme p
          (p.main.drop (if isSpecial base.scheme then slashes.length else 2))
      else if isSlash c then .ok (moved (pathFrom base.scheme [] cs))
      else .ok (moved (pathFrom base.scheme base.segments.dropLast p.main))

/-- An address that names its scheme. -/
def ofScheme (base : Option Url) (scheme : String) (p : Pieces) : Except Fault Url :=
  let near := base.filter (·.scheme == scheme)
  let slashes := p.main.takeWhile isSlash
  if scheme == "file" then fileFrom (near.getD (fileAt nowhere (.segments [""]))) p
  else if isSpecial scheme then
    match near with
    | some b =>
      if slashes.length < 2 then foundFrom b p
      else ofAuthority scheme p (p.main.drop slashes.length)
    | none => ofAuthority scheme p (p.main.drop slashes.length)
  else
    let plain (path : Path) : Url := withEnd ⟨scheme, "", "", none, none, path, none, none⟩ p
    match p.main with
    | '/' :: '/' :: cs => ofAuthority scheme p cs
    | '/' :: cs => .ok (plain (pathFrom scheme [] cs))
    | cs => .ok (plain (.text (encodeText "" cs)))

/-- The scheme before a colon, in small letters, and the text behind the colon. -/
def scheme? (cs : List Char) : Option (String × List Char) :=
  let isPart (c : Char) : Bool := Text.isAsciiAlphanumeric c || c == '+' || c == '-' || c == '.'
  match cs.head?.any Text.isAsciiLetter, cs.dropWhile isPart with
  | true, ':' :: rest => some ((String.ofList (cs.takeWhile isPart)).toLower, rest)
  | _, _ => none

/-- Controls and spaces around an address do not count, nor tabs and line ends inside it. -/
def essence (cs : List Char) : List Char :=
  let front := cs.dropWhile (· ≤ ' ')
  (front.reverse.dropWhile (· ≤ ' ')).reverse.filter fun c => c != '\t' && c != '\n' && c != '\r'

def read (base : Option Url) (s : String) : Except Fault Url :=
  let p := Pieces.ofText (essence s.toList)
  match scheme? p.main, base with
  | some (scheme, rest), _ => ofScheme base scheme { p with main := rest }
  | none, none => .error .noBase
  | none, some b =>
    match b.path with
    | .segments _ => foundFrom b p
    | .text _ =>
      if p.main.isEmpty && p.query.isNone && p.fragment.isSome then .ok (withNewEnd b p)
      else .error .opaqueBase

def ofText (s : String) : Except Fault Url := read none s

/-- The address that a text stands for on a page. -/
def join (base : Url) (s : String) : Except Fault Url := read (some base) s

end Estate.Url
