import Estate.Directory
import Estate.Extraction
import Estate.Regex.Weight

/-!
Sessions: a directory of mappings that changes, caches that keep the mappings that were loaded from
it, and extractions through the caches. A cache keeps the first mapping it gets for a name until it
is cleared.
-/

namespace Estate

/-- The mappings kept, by the names they are asked for. -/
abbrev Cache := Keyed Mapping

/-- The caches have numbers. The directory counts how often it is asked for a mapping. -/
structure Session where
  options : Options
  directory : Directory
  asked : Nat
  caches : Nat → Cache

/-- What can be done in a session. -/
inductive Action where
  | write (path : String) (bytes : List UInt8)
  | makeFolder (path : String)
  | remove (path : String)
  /-- Load a mapping past all caches. -/
  | load (name : String)
  | find (cache : Nat) (name : String)
  /-- Find a mapping in a cache, or else load it and keep it. -/
  | fetch (cache : Nat) (name : String)
  | insert (cache : Nat) (name : String) (mapping : Mapping)
  | clear (cache : Nat)
  /-- Extract a listing by the mapping of a name. -/
  | extract (cache : Nat) (name source address : String)

/-- What an action comes to. -/
inductive Outcome where
  | done (success : Bool)
  | found (mapping : Option Mapping)
  | dropped (count : Nat)
  | extracted (e : Extraction)
  | failed (e : MappingError)

namespace Session

def new (options : Options) : Session := ⟨options, [], 0, fun _ => []⟩

def withCache (s : Session) (i : Nat) (c : Cache) : Session :=
  { s with caches := fun j => if j = i then c else s.caches j }

/-- A change of the directory, which stays as it is where it cannot be made. -/
def change (s : Session) (changed : Option Directory) : Outcome × Session :=
  match changed with
  | some d => (.done true, { s with directory := d })
  | none => (.done false, s)

/-- The mapping of a name as it now stands in the directory. -/
def load [Regex.Engine] (s : Session) (name : String) : Except MappingError Mapping × Session :=
  (s.directory.load name, { s with asked := s.asked + 1 })

/-- Keep a mapping unless there is one for the name; the one that is kept in the end. -/
def keep (s : Session) (i : Nat) (name : String) (m : Mapping) : Mapping × Session :=
  let c := Keyed.insertNew (s.caches i) name m
  ((Keyed.get? c name).getD m, s.withCache i c)

/-- The mapping in a cache, or else the one in the directory, which is then kept. -/
def fetch [Regex.Engine] (s : Session) (i : Nat) (name : String) :
    Except MappingError Mapping × Session :=
  match Keyed.get? (s.caches i) name with
  | some m => (.ok m, s)
  | none =>
    match s.load name with
    | (.ok m, s) =>
      let (m, s) := s.keep i name m
      (.ok m, s)
    | (.error e, s) => (.error e, s)

/-- What comes of a mapping that may not have been found. -/
def outcome (found : Except MappingError Mapping) (next : Mapping → Outcome) : Outcome :=
  match found with
  | .ok m => next m
  | .error e => .failed e

def run [Regex.Engine] (s : Session) : Action → Outcome × Session
  | .write path bytes => s.change (s.directory.write? path bytes)
  | .makeFolder path => s.change (s.directory.makeFolder? path)
  | .remove path => s.change (s.directory.remove? path)
  | .load name =>
    let (found, s) := s.load name
    (outcome found fun m => .found (some m), s)
  | .find i name => (.found (Keyed.get? (s.caches i) name), s)
  | .fetch i name =>
    let (found, s) := s.fetch i name
    (outcome found fun m => .found (some m), s)
  | .insert i name m =>
    let (m, s) := s.keep i name m
    (.found (some m), s)
  | .clear i => (.dropped (s.caches i).length, s.withCache i [])
  | .extract i name source address =>
    let (found, s) := s.fetch i name
    (outcome found fun m => .extracted (.ofText source address m s.options), s)

end Session

end Estate
