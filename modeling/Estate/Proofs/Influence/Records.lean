import Mathlib.Data.List.Basic
import Mathlib.Tactic.Lemma
import Estate.Derivation
import Estate.Fingerprint

/-!
Records that agree on all keys but some.

The same derivations keep two records in agreement on those keys if none of the others is read for
them. The fingerprint reads the identity fields and nothing else.
-/

namespace Estate

/-- The same stands under each key that is not one of these. -/
def Keyed.AgreeOff {α : Type} (keys : List String) (a b : Keyed α) : Prop :=
  ∀ key, key ∉ keys → get? a key = get? b key

namespace Keyed.AgreeOff

variable {α : Type} {keys : List String} {a b c : Keyed α} {key : String}

lemma refl (keys : List String) (a : Keyed α) : AgreeOff keys a a := fun _ _ => rfl

lemma symm (h : AgreeOff keys a b) : AgreeOff keys b a := fun key hkey => (h key hkey).symm

lemma trans (h : AgreeOff keys a b) (h' : AgreeOff keys b c) : AgreeOff keys a c :=
  fun key hkey => (h key hkey).trans (h' key hkey)

lemma mono {more : List String} (h : AgreeOff keys a b) (hsub : keys ⊆ more) :
    AgreeOff more a b := fun key hkey => h key fun hmem => hkey (hsub hmem)

/-- One value under one key. -/
lemma insert (h : AgreeOff keys a b) (key : String) (v : α) :
    AgreeOff keys (Keyed.insert a key v) (Keyed.insert b key v) := by
  intro other hother
  rw [get?_insert, get?_insert, h other hother]

/-- What stands under a key on which they may differ does not matter. -/
lemma insert_within (hkey : key ∈ keys) (a : Keyed α) (v : α) :
    AgreeOff keys (Keyed.insert a key v) a := by
  intro other hother
  have hne : other ≠ key := fun heq => hother (heq ▸ hkey)
  rw [get?_insert, if_neg hne]

lemma insert_either (h : AgreeOff keys a b) (hkey : key ∈ keys) (v w : α) :
    AgreeOff keys (Keyed.insert a key v) (Keyed.insert b key w) :=
  ((insert_within hkey a v).trans h).trans (insert_within hkey b w).symm

end Keyed.AgreeOff

namespace Derivation

open Keyed (AgreeOff)

/-- The keys that others follow from. -/
def readKeys : List String :=
  ["price_string", "price_float", "currency", "property_type", "for_sale"] ++ Tenure.rentalFlags

variable {keys : List String} {a b : Json.Members}

lemma text?_eq {key : String} (h : AgreeOff keys a b) (hkey : key ∉ keys) :
    text? a key = text? b key := by
  rw [text?, text?, h key hkey]

lemma filledText?_eq {key : String} (h : AgreeOff keys a b) (hkey : key ∉ keys) :
    filledText? a key = filledText? b key := by
  rw [filledText?, filledText?, text?_eq h hkey]

section

variable (h : AgreeOff keys a b) (hread : ∀ key ∈ readKeys, key ∉ keys)

include h hread

lemma agree_price (info : PortalInfo) : AgreeOff keys (price info a) (price info b) := by
  have htext := text?_eq h (hread "price_string" (by decide))
  have hamount := h "price_float" (hread _ (by decide))
  have hcurrency := filledText?_eq h (hread "currency" (by decide))
  unfold price fallbackCurrency
  rw [htext, hamount, hcurrency]
  dsimp only
  split
  · exact h
  · exact ((h.insert _ _).insert _ _).insert _ _

lemma agree_propertyType : AgreeOff keys (propertyType a) (propertyType b) := by
  unfold propertyType
  rw [filledText?_eq h (hread "property_type" (by decide))]
  cases filledText? b "property_type" with
  | none => exact h
  | some raw => exact (h.insert _ _).insert _ _

lemma detect_eq (path : Option String) : Tenure.detect a path = Tenure.detect b path := by
  have hflag : ∀ key ∈ readKeys, Tenure.flagged a key = Tenure.flagged b key := by
    intro key hkey
    rw [Tenure.flagged, Tenure.flagged, h key (hread key hkey)]
  have hrental : Tenure.rentalFlags.any (Tenure.flagged a) =
      Tenure.rentalFlags.any (Tenure.flagged b) := by
    rw [Bool.eq_iff_iff, List.any_eq_true, List.any_eq_true]
    refine exists_congr fun key => and_congr_right fun hkey => ?_
    rw [hflag key (List.mem_append_right _ hkey)]
  unfold Tenure.detect
  rw [hrental, hflag "for_sale" (by decide)]

end

lemma agree_fill (h : AgreeOff keys a b) (key : String) (text : Option String) :
    AgreeOff keys (fill key text a) (fill key text b) := by
  cases text with
  | none => exact h
  | some s =>
    by_cases hkey : key ∈ keys
    · have hfill : ∀ record : Json.Members, AgreeOff keys (fill key (some s) record) record := by
        intro record
        unfold fill
        simp only
        split
        · exact .refl keys record
        · exact .insert_within hkey record _
      exact ((hfill a).trans h).trans (hfill b).symm
    · unfold fill
      simp only
      rw [h key hkey]
      split
      · exact h
      · exact h.insert key _

lemma agree_portal (h : AgreeOff keys a b) (info : PortalInfo) :
    AgreeOff keys (portal info a) (portal info b) :=
  agree_fill (agree_fill (agree_fill h "country" _) "area_unit" _) "locale" _

section

variable (h : AgreeOff keys a b) (hread : ∀ key ∈ readKeys, key ∉ keys)

include h hread

/-- The same is derived from records that agree on all that is read. -/
lemma agree_all (info : PortalInfo) (address : String) :
    AgreeOff keys (all info address a) (all info address b) := by
  have htype := agree_propertyType (agree_price h hread info) hread
  have htenure : AgreeOff keys (tenure address (propertyType (price info a)))
      (tenure address (propertyType (price info b))) := by
    rw [tenure, tenure, detect_eq htype hread]
    exact htype.insert _ _
  exact (agree_portal htenure info).insert _ _

/-- The address of the page shows in two keys. -/
lemma agree_all_address (ht : "listing_type" ∈ keys) (hi : "import_url" ∈ keys)
    (info : PortalInfo) (x y : String) : AgreeOff keys (all info x a) (all info y b) := by
  have htype := agree_propertyType (agree_price h hread info) hread
  have htenure : AgreeOff keys (tenure x (propertyType (price info a)))
      (tenure y (propertyType (price info b))) := htype.insert_either ht _ _
  exact (agree_portal htenure info).insert_either hi _ _

end

end Derivation

lemma Fingerprint.compute?_eq {keys : List String} {a b : Json.Members}
    (h : Keyed.AgreeOff keys a b) (hidentity : ∀ field ∈ identityFields, field ∉ keys) :
    compute? a = compute? b := by
  have hstream : stream a = stream b := by
    refine List.filterMap_congr fun field hfield => ?_
    rw [fieldText?, fieldText?, h field (hidentity field hfield)]
  rw [compute?, compute?, hstream]

end Estate
