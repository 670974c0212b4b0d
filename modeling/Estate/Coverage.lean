import Estate.Mapping

/-!
How much of what a mapping declares a record has: counts, rate, grade, and the missing fields.
-/

namespace Estate

inductive Grade where
  | a
  | b
  | c
  | f
deriving DecidableEq

namespace Grade

def name : Grade → String
  | a => "A"
  | b => "B"
  | c => "C"
  | f => "F"

/-- Tenths of a rate, as the nearest double. -/
def tenths (n : Nat) : Binary64 := (Binary64.ofFraction? false n 10).getD .zero

def ofRate (rate : Binary64) : Grade :=
  if (tenths 8).le rate then a
  else if (tenths 5).le rate then b
  else if (tenths 2).le rate then c
  else f

end Grade

/-- The record key of image addresses. -/
def imagesKey : String := "image_urls"

/-- The record key of feature labels. -/
def featuresKey : String := "features"

structure Coverage where
  populated : Nat
  total : Nat
  rate : Binary64
  grade : Grade
  meetsExpectation : Option Bool
  missing : List String

namespace Coverage

/-- A billionth, by which a rate may miss what is expected. -/
def tolerance : Binary64 := (Binary64.ofFraction? false 1 (10 ^ 9)).getD .zero

/-- The rate is not below what is expected. -/
def meets (rate expected : Binary64) : Bool :=
  match rate.add? tolerance with
  | some raised => expected.le raised
  | none => true

/-- What a mapping declares, images and features last. -/
def declared (m : Mapping) : List String :=
  m.fields.map (·.name) ++ (if m.images.isEmpty then [] else [imagesKey]) ++
    (if m.features.isEmpty then [] else [featuresKey])

def missingFrom (record : Json.Members) (m : Mapping) : List String :=
  (declared m).filter fun name => !(Keyed.get? record name).any Json.Value.isPopulated

def rateOf (populated total : Nat) : Binary64 :=
  if total = 0 then .zero else (Binary64.ofFraction? false populated total).getD .zero

def assess (record : Json.Members) (m : Mapping) : Coverage :=
  let absent := missingFrom record m
  let total := (declared m).length
  let populated := total - absent.length
  let rate := rateOf populated total
  { populated := populated
    total := total
    rate := rate
    grade := .ofRate rate
    meetsExpectation := m.expectedRate.map (meets rate)
    missing := absent }

end Coverage

end Estate
