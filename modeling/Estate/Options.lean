import Estate.Flight
import Estate.ImageUrl
import Estate.Json.Shape

/-!
What a caller may choose about an extraction.
-/

namespace Estate

structure Options where
  /-- Addresses of pictures by http become https. -/
  upgradeImages : Bool
  /-- The file extensions of pictures. -/
  imageExtensions : List String
  /-- How deep references in streamed data are followed. -/
  flightDepth : Nat
  /-- The way each field was found is told. -/
  traceFields : Bool
deriving DecidableEq

namespace Options

def standard : Options := ⟨true, ImageUrl.commonExtensions, Flight.defaultDepth, false⟩

def shape : Json.Shape :=
  [["upgradeHttpImages"], ["allowedImageExtensions"], ["maxFlightDepth"], ["includeFieldTrace"]]

/-- A number of levels, in 64 bits. -/
def levels? (t : Json.Term) : Option Nat :=
  t.integer?.bind fun n => if 0 ≤ n ∧ n < 2 ^ 64 then some n.toNat else none

def ofTerm? (depth : Nat) (t : Json.Term) : Option Options :=
  match depth with
  | 0 => none
  | d + 1 => do
    let fields ← shape.read? t
    return {
      upgradeImages := ← fields.get? "upgradeHttpImages" standard.upgradeImages Json.Term.bool?
      imageExtensions :=
        ← fields.get? "allowedImageExtensions" standard.imageExtensions (Json.Term.strings? d)
      flightDepth := ← fields.get? "maxFlightDepth" standard.flightDepth levels?
      traceFields := ← fields.get? "includeFieldTrace" standard.traceFields Json.Term.bool? }

def toJson (o : Options) : Json.Value :=
  .object (Keyed.ofList
    [("upgradeHttpImages", .bool o.upgradeImages),
      ("allowedImageExtensions", .ofStrings o.imageExtensions),
      ("maxFlightDepth", .ofInt o.flightDepth), ("includeFieldTrace", .bool o.traceFields)])

/-- How the addresses of pictures are kept. -/
def imagePolicy (o : Options) : ImageUrl.Policy :=
  ⟨o.upgradeImages, o.imageExtensions.map Text.asciiLower, []⟩

end Options

end Estate
