import Estate.Mapping.Load
import Estate.Text.Percent

/-!
Directories in which mappings are kept, each in a file of its name.
-/

namespace Estate

/-- What stands under a path in a directory. -/
inductive Entry where
  | file (bytes : List UInt8)
  | folder

/-- The entries by their paths. -/
abbrev Directory := Keyed Entry

namespace Directory

/-- The text before the last slash, if there is one. -/
def parent? (path : String) : Option String :=
  let cs := path.toList
  if cs.contains '/' then
    some (.ofList ((cs.reverse.dropWhile (· != '/')).drop 1).reverse)
  else none

/-- A name that a file can have: not empty, of at most 255 bytes, none of them zero, and not one
of the two names of a folder itself and of the folder around it. -/
def isFileName (name : String) : Bool :=
  !name.isEmpty && name.utf8ByteSize ≤ 255 && !name.contains '\x00' && name != "." && name != ".."

def isFolder (d : Directory) (path : String) : Bool :=
  match Keyed.get? d path with
  | some .folder => true
  | _ => false

/-- A file or a folder can stand under a path. -/
def admits (d : Directory) (path : String) : Bool :=
  match parent? path with
  | none => isFileName path
  | some outer => d.isFolder outer && (path.splitOn "/").all isFileName

/-- Write a file, in place of one that stood there. -/
def write? (d : Directory) (path : String) (bytes : List UInt8) : Option Directory :=
  if d.admits path && !d.isFolder path then some (Keyed.insert d path (.file bytes)) else none

def makeFolder? (d : Directory) (path : String) : Option Directory :=
  if d.admits path && !Keyed.contains d path then some (Keyed.insert d path .folder) else none

/-- Remove a file. -/
def remove? (d : Directory) (path : String) : Option Directory :=
  match Keyed.get? d path with
  | some (.file _) => some (Keyed.erase d path)
  | _ => none

/-- The name leads out of the directory, or to nothing. -/
def isUnsafeName (name : String) : Bool :=
  name.isEmpty || name.contains '/' || name.contains '\\' ||
    Text.occursIn ['.', '.'] name.toList

/-- The mapping in the file of a name. -/
def load [Regex.Engine] (d : Directory) (name : String) : Except MappingError Mapping :=
  let path := name ++ ".json"
  if isUnsafeName name then .error (.notFound name)
  else if !isFileName path then .error .unreadable
  else
    match Keyed.get? d path with
    | none => .error (.notFound name)
    | some .folder => .error .unreadable
    | some (.file bytes) =>
      match Text.ofBytes? bytes with
      | none => .error .unreadable
      | some text => Mapping.ofLenientText name text

end Directory

end Estate
