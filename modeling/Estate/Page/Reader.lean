import Estate.Page

/-!
Readers of the structured data of a page. One works out all it is asked for anew; the other
remembers what it has worked out, also that there was nothing to find.
-/

namespace Estate.Page

/-- A page, and how its structured data is had. -/
structure Reader (m : Type → Type) where
  page : Page
  linkedData : m (List Json.Value)
  flight : m Flight
  lookUp? : String → m (Option Json.Value)

/-- The reader that works everything out anew. -/
def reader (p : Page) : Reader Id where
  page := p
  linkedData := p.linkedData
  flight := p.flight
  lookUp? := p.lookUp?

/-- What has been worked out of a page so far. -/
structure Memory where
  linkedData : Option (List Json.Value)
  flight : Option Flight
  scriptValues : Option Json.Members
  /-- What was found, or not, in the text of the page for a name. -/
  scans : Keyed (Option Json.Value)

namespace Memory

def empty : Memory := ⟨none, none, none, []⟩

/-- What is remembered, or else what is worked out and remembered from then on. -/
def once {α : Type} (remembered? : Memory → Option α) (keep : α → Memory → Memory)
    (work : Unit → α) : StateM Memory α := fun m =>
  match remembered? m with
  | some a => (a, m)
  | none =>
    let a := work ()
    (a, keep a m)

def linkedDataOf (p : Page) : StateM Memory (List Json.Value) :=
  once (·.linkedData) (fun vs m => { m with linkedData := some vs }) fun _ => p.linkedData

def flightOf (p : Page) : StateM Memory Flight :=
  once (·.flight) (fun f m => { m with flight := some f }) fun _ => p.flight

def scriptValuesOf (p : Page) : StateM Memory Json.Members :=
  once (·.scriptValues) (fun vs m => { m with scriptValues := some vs }) fun _ => p.scriptValues

def scan (p : Page) (name : String) : StateM Memory (Option Json.Value) :=
  once (fun m => Keyed.get? m.scans name)
    (fun found m => { m with scans := Keyed.insert m.scans name found }) fun _ => p.scanned? name

end Memory

/-- The reader that remembers. -/
def rememberingReader (p : Page) : Reader (StateM Memory) where
  page := p
  linkedData := Memory.linkedDataOf p
  flight := Memory.flightOf p
  lookUp? name := do
    match known? (← Memory.scriptValuesOf p) name with
    | some v => return some v
    | none => Memory.scan p name

end Estate.Page
