/-!
Addresses of resources, taken apart, and their text.
-/

namespace Estate

namespace Url

inductive Host where
  | name (text : String)
  | ipv4 (address : Nat)
  /-- Eight pieces of 16 bits. -/
  | ipv6 (pieces : List Nat)
deriving DecidableEq

/-- A path is one text, or segments each of which has a slash before it. -/
inductive Path where
  | text (s : String)
  | segments (list : List String)
deriving DecidableEq

end Url

structure Url where
  scheme : String
  username : String
  password : String
  host : Option Url.Host
  port : Option Nat
  path : Url.Path
  query : Option String
  fragment : Option String
deriving DecidableEq

namespace Url

/-- The schemes whose addresses always name a host, with their usual ports. -/
def defaultPorts : List (String × Nat) :=
  [("http", 80), ("https", 443), ("ws", 80), ("wss", 443), ("ftp", 21)]

def isSpecial (scheme : String) : Bool := scheme == "file" || (defaultPorts.lookup scheme).isSome

/-- The port, unless it is the usual one of the scheme. -/
def portFor (scheme : String) (port : Option Nat) : Option Nat :=
  if port == defaultPorts.lookup scheme then none else port

def hexText (n : Nat) : String := .ofList (Nat.toDigits 16 n)

/-- Where the first longest run of zeros starts and how long it is. -/
def longestZeros (pieces : List Nat) : Nat × Nat :=
  (List.range pieces.length).foldl (fun best i =>
    let run := ((pieces.drop i).takeWhile (· == 0)).length
    if run > best.2 then (i, run) else best) (0, 0)

/-- Pieces in hexadecimal; the longest run of two or more zeros is left out. -/
def ipv6Text (pieces : List Nat) : String :=
  let join (ps : List Nat) := ":".intercalate (ps.map hexText)
  let (start, run) := longestZeros pieces
  if run < 2 then join pieces
  else join (pieces.take start) ++ "::" ++ join (pieces.drop (start + run))

def Host.toText : Host → String
  | .name text => text
  | .ipv4 n => ".".intercalate ([n >>> 24, n >>> 16 % 256, n >>> 8 % 256, n % 256].map toString)
  | .ipv6 pieces => "[" ++ ipv6Text pieces ++ "]"

def Path.toText : Path → String
  | .text s => s
  | .segments list => .join (list.map ("/" ++ ·))

def pathText (u : Url) : String := u.path.toText

/-- All of the path, or the part of it behind so many slashes. Nothing stands for an empty text. -/
def segmentText? (u : Url) (part : Option Nat) : Option String :=
  let text := match part with
    | none => some u.pathText
    | some n => ((u.pathText.toList.splitOn '/')[n]?).map String.ofList
  text.filter (!·.isEmpty)

def hostText (u : Url) : String := (u.host.map Host.toText).getD ""

/-- The last segment of the path; a path that is one text has no segments. -/
def lastSegment? (u : Url) : Option String :=
  match u.path with
  | .text _ => none
  | .segments list => list.getLast?

def credentials (u : Url) : String :=
  let password := if u.password.isEmpty then "" else ":" ++ u.password
  if u.username.isEmpty && u.password.isEmpty then "" else u.username ++ password ++ "@"

/-- What stands between the scheme and the path. A path that starts with two slashes gets a dot
before it where there is no host. -/
def authority (u : Url) : String :=
  match u.host, u.path with
  | some host, _ =>
    "//" ++ u.credentials ++ host.toText ++ (u.port.map fun p => ":" ++ toString p).getD ""
  | none, .segments ("" :: _ :: _) => "/."
  | none, _ => ""

def toText (u : Url) : String :=
  u.scheme ++ ":" ++ u.authority ++ u.pathText ++ (u.query.map ("?" ++ ·)).getD "" ++
    (u.fragment.map ("#" ++ ·)).getD ""

/-- The same address by another scheme. -/
def withScheme (u : Url) (scheme : String) : Url :=
  { u with scheme, port := portFor scheme u.port }

end Url

end Estate
