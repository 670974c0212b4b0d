import Estate.Page.Reader
import Estate.Rule
import Estate.Selection
import Estate.Url.Parser

/-!
Finding the value of a rule in a page. A rule whose probe finds nothing passes to its fallbacks, one
after the other.
-/

namespace Estate

/-- Whether one value is wanted or a list. -/
inductive Cardinality where
  | one
  | many
deriving DecidableEq

/-- The text of an item of a list; of an object a path may be read. -/
def itemText? (itemPath : Option String) (v : Json.Value) : Option String :=
  match v, itemPath with
  | .object _, some path => (v.at? path).bind Json.Value.plainText?
  | _, _ => v.plainText?

/-- The texts of a value. Where a list is wanted each item of an array gives one. -/
def valueTexts (itemPath : Option String) (c : Cardinality) (v : Option Json.Value) : List String :=
  match v, c with
  | none, _ => []
  | some (.array items), .many => items.filterMap (itemText? itemPath)
  | some v, _ => (itemText? itemPath v).toList

section

variable {m : Type → Type} [Monad m]

/-- The texts found where a probe looks. -/
def Probe.look (p : Probe) (reader : Page.Reader m) (c : Cardinality) :
    m (Except LookupError (List String)) := do
  match p.locator with
  | .css selector accessor nth =>
    return Selection.values reader.page.nodes selector accessor nth (c == .one)
  | .scriptRegex regex =>
    let source := reader.page.source
    return .ok (if c == .one then regex.capturesUpTo 1 source else regex.captures source)
  | .scriptJson name path =>
    let v ← reader.lookUp? name
    return .ok (valueTexts p.itemPath c (v.bind fun v => v.at? path))
  | .flightData path => return .ok (valueTexts p.itemPath c ((← reader.flight).search? path))
  | .jsonLd type path =>
    return .ok (valueTexts p.itemPath c (LinkedData.find? (← reader.linkedData) type path))
  | .urlSegment part =>
    match Url.ofText reader.page.address with
    | .ok u => return .ok (u.segmentText? part).toList
    | .error fault => return .error (.address reader.page.address fault)
  | .unset => return .ok []

/-- The texts found, cleaned; those that come to nothing are left out. -/
def Probe.values (p : Probe) (reader : Page.Reader m) (c : Cardinality) :
    m (Except LookupError (List String)) := do
  return (← p.look reader c).map fun found =>
    (found.map (p.cleanup.apply p.modifiers)).filter (!·.isEmpty)

/-- What was found for a rule: the values with the kind of the locator and the way through the
fallbacks that led to them, and what went wrong before. -/
structure Resolution where
  values : List String
  kind : Option LocatorKind
  fallbackPath : List Nat
  errors : List LookupError

namespace Resolution

def nothing : Resolution := ⟨[], none, [], []⟩

def first? (r : Resolution) : Option String := r.values.head?

def isEmpty (r : Resolution) : Bool := r.values.isEmpty

/-- What a probe has found, or its error if it has failed. -/
def ofValues (kind : LocatorKind) : Except LookupError (List String) → Resolution
  | .ok [] => nothing
  | .ok values => ⟨values, some kind, [], []⟩
  | .error e => { nothing with errors := [e] }

/-- What was found by a fallback, by its number. -/
def behind (i : Nat) (r : Resolution) : Resolution :=
  if r.isEmpty then r else { r with fallbackPath := i :: r.fallbackPath }

/-- Go on with another resolution behind one that is empty. -/
def orElse (r : Resolution) (next : Unit → m Resolution) : m Resolution := do
  if r.isEmpty then
    let found ← next ()
    return { found with errors := r.errors ++ found.errors }
  else return r

mutual

/-- Resolve a rule that stands so deep among fallbacks. -/
def ofRule (reader : Page.Reader m) (c : Cardinality) (depth : Nat) : Rule → m Resolution
  | .mk probe fallbacks => do
    if depth > Rule.maxDepth then return nothing
    else
      (ofValues probe.locator.kind (← probe.values reader c)).orElse fun _ =>
        ofFallbacks reader c (depth + 1) 0 fallbacks

/-- Resolve the first rule that finds something, the first one being number `i`. -/
def ofFallbacks (reader : Page.Reader m) (c : Cardinality) (depth i : Nat) : List Rule → m Resolution
  | [] => return nothing
  | r :: rs => do
    ((← ofRule reader c depth r).behind i).orElse fun _ =>
      ofFallbacks reader c depth (i + 1) rs

end

end Resolution

def Rule.resolve (r : Rule) (reader : Page.Reader m) (c : Cardinality) : m Resolution :=
  Resolution.ofRule reader c 0 r

/-- What is found for a rule where one value is wanted. -/
def Rule.trace (r : Rule) (reader : Page.Reader m) : m Resolution := r.resolve reader .one

/-- The first value of a rule, or the empty text. -/
def Rule.value (r : Rule) (reader : Page.Reader m) : m String := do
  return ((← r.trace reader).first?).getD ""

def Rule.values (r : Rule) (reader : Page.Reader m) : m (List String) := do
  return (← r.resolve reader .many).values

end

end Estate
