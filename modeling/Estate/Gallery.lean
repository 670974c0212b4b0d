import Estate.ImageUrl
import Estate.Resolution

/-!
The pictures and features of a listing, collected over several rules. Each is kept once, where it was
first met.
-/

namespace Estate

structure Picture where
  address : String
  /-- The extension of the address. -/
  format : Option String

namespace Gallery

def isAddress (s : String) : Bool := (Url.ofText s).toOption.isSome

/-- The address of a picture in full. A path that is not one yet gets the given text before it, and
is then found from the address of the page. -/
def absolute? (base : Option Url) (start : Option String) (raw : String) : Option String :=
  let raw := Text.trimmed raw
  let relative := start.getD "" ++ raw
  if raw.isEmpty then none
  else if raw.startsWith "//" || isAddress raw then some raw
  else if isAddress relative then some relative
  else base.bind fun b => (b.join relative).toOption.map Url.toText

/-- The addresses that are kept of what was found for a rule, in the form they are kept in. -/
def addresses (page : Page) (policy : ImageUrl.Policy) (r : Rule) (found : List String) :
    List String :=
  let policy := { policy with thumbnails := policy.thumbnails ++ r.probe.thumbnailPatterns }
  let base := (Url.ofText page.address).toOption
  found.filterMap fun raw =>
    (absolute? base r.probe.imagePathPrefix raw).bind policy.normalize?

/-- Each text once, where it was first met. -/
def distinct (texts : List String) : List String :=
  texts.foldl (fun seen s => if seen.contains s then seen else seen ++ [s]) []

def ofAddress (address : String) : Picture :=
  ⟨address, (Url.ofText address).toOption.bind ImageUrl.extension?⟩

section

variable {m : Type → Type} [Monad m]

def pictures (reader : Page.Reader m) (policy : ImageUrl.Policy) (rules : List Rule) :
    m (List Picture) := do
  let found ← rules.mapM fun r => return addresses reader.page policy r (← r.values reader)
  return (distinct found.flatten).map ofAddress

def features (reader : Page.Reader m) (rules : List Rule) : m (List String) := do
  return distinct (← rules.mapM fun r => r.values reader).flatten

end

end Gallery

end Estate
