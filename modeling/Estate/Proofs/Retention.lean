import Mathlib.Tactic.Lemma
import Estate.Proofs.FieldStatus
import Estate.Proofs.Influence.Records
import Estate.Proofs.Json.PrintedNumber
import Estate.Proofs.Text.Content
import Estate.Screening

/-!
What derivation leaves of a record.

Each step of it puts values with content under keys of its own, or fills in where there is nothing.
So content stays, and a screening finds no field missing that the coverage has counted.
-/

namespace Estate

open Json

/-- There is a value under the key, and it has content. -/
def Json.Members.Has (record : Members) (key : String) : Prop :=
  (Keyed.get? record key).any Value.isPopulated

instance (record : Members) (key : String) : Decidable (record.Has key) :=
  inferInstanceAs (Decidable ((Keyed.get? record key).any Value.isPopulated = true))

/-- The values of a record are changed under some keys only, and no content is lost. -/
structure Retains (keys : List String) (before after : Members) : Prop where
  agree : Keyed.AgreeOff keys after before
  has : ∀ key, before.Has key → after.Has key

namespace Retains

variable {keys : List String} {a b c : Members} {key : String}

lemma refl (keys : List String) (a : Members) : Retains keys a a := ⟨.refl keys a, fun _ h => h⟩

lemma trans (h : Retains keys a b) (h' : Retains keys b c) : Retains keys a c :=
  ⟨h'.agree.trans h.agree, fun key hkey => h'.has key (h.has key hkey)⟩

/-- A value with content takes the place of any other. -/
lemma insert (hkey : key ∈ keys) (a : Members) {v : Value} (hv : v.isPopulated) :
    Retains keys a (Keyed.insert a key v) where
  agree := .insert_within hkey a v
  has other hother := by
    unfold Members.Has at hother ⊢
    rw [Keyed.get?_insert]
    split
    · exact hv
    · exact hother

/-- Any value takes the place of nothing. -/
lemma insert_absent (hkey : key ∈ keys) (ha : ¬ a.Has key) (v : Value) :
    Retains keys a (Keyed.insert a key v) where
  agree := .insert_within hkey a v
  has other hother := by
    unfold Members.Has at hother ⊢
    rw [Keyed.get?_insert]
    split
    · next heq => exact absurd (heq ▸ hother) ha
    · exact hother

end Retains

/-! ### Prices -/

namespace Price

lemma filled_currencyIn? {s currency : String} (h : currencyIn? s = some currency) :
    Text.Filled currency.toList := by
  have hsigns : ∀ sign ∈ signs, Text.Filled sign.2.toList := by decide
  have hcodes : ∀ code ∈ codes, Text.Filled code.toList := by decide
  unfold currencyIn? at h
  split at h
  · next sign hfind =>
    cases h
    exact hsigns sign (List.mem_of_find?_eq_some hfind)
  · exact hcodes currency (List.mem_of_find?_eq_some h)

lemma filled_written (cents : Int) (currency : String) :
    Text.Filled (written cents currency).toList := by
  have hdigits : ∀ ds : List Char, ds ≠ [] → (∀ d ∈ ds, Text.isBlank d = false) →
      Text.Filled (grouped ds) := by
    intro ds hne hds
    obtain ⟨d, ds, rfl⟩ := List.exists_cons_of_ne_nil hne
    refine ⟨d, ?_, hds d (by simp)⟩
    rw [grouped, grouped.go]
    split <;> simp
  have h := hdigits (Nat.toDigits 10 (cents.natAbs / 100)) Nat.toDigits_ne_nil fun d hd =>
    Text.isBlank_of_isAsciiDigit (isAsciiDigit_of_mem_toDigits hd)
  obtain ⟨c, hc, hblank⟩ := h
  refine ⟨c, ?_, hblank⟩
  simp only [written, String.toList_append, String.toList_ofList, List.mem_append]
  exact .inl (.inr hc)

lemma filled_normalize (text : String) (amount : Option Binary64) (fallback : Option String) :
    Text.Filled (normalize text amount fallback).currency.toList ∧
      Text.Filled (normalize text amount fallback).display.toList := by
  constructor
  · simp only [normalize]
    cases hin : currencyIn? text with
    | some currency => exact filled_currencyIn? hin
    | none =>
      cases hother : fallback.bind Text.nonBlank? with
      | none => exact (by decide : Text.Filled "USD".toList)
      | some currency =>
        obtain ⟨s, -, hs⟩ := Option.bind_eq_some_iff.1 hother
        exact Text.filled_asciiUpper (Text.filled_of_nonBlank? hs).1
  · simp only [normalize]
    split
    · exact filled_written _ _
    · next hempty =>
      rw [Text.trimmed, String.toList_ofList]
      exact Text.filled_trim fun hnil => hempty (by rw [Text.trimmed, hnil]; rfl)

end Price

/-! ### Steps of the derivation -/

namespace Derivation

/-- The keys that are derived. -/
def derivedKeys : List String :=
  ["price_cents", "currency", "price_display", "property_type", "property_type_raw",
    "listing_type", "country", "area_unit", "locale", "import_url"]

variable (record : Members)

lemma retains_price (info : PortalInfo) : Retains derivedKeys record (price info record) := by
  unfold price
  dsimp only
  split
  · exact .refl _ record
  · obtain ⟨hcurrency, hdisplay⟩ := Price.filled_normalize
      ((text? record "price_string").getD "")
      ((Keyed.get? record "price_float").bind Value.binary64?) (fallbackCurrency info record)
    refine ((Retains.insert (by decide) _ rfl).trans (.insert (by decide) _ ?_)).trans
      (.insert (by decide) _ ?_)
    · exact Value.isPopulated_string.2 hcurrency
    · exact Value.isPopulated_string.2 hdisplay

lemma filled_filledText? {record : Members} {key s : String} (h : filledText? record key = some s) :
    Text.Filled s.toList := by
  obtain ⟨-, hs⟩ := Option.filter_eq_some_iff.1 h
  obtain ⟨t, ht⟩ := Option.isSome_iff_exists.1 hs
  exact (Text.filled_of_nonBlank? ht).2

lemma retains_propertyType : Retains derivedKeys record (propertyType record) := by
  unfold propertyType
  split
  · exact .refl _ record
  · next raw hraw =>
    refine (Retains.insert (by decide) _ ?_).trans (.insert (by decide) _ ?_)
    · rw [Value.isPopulated_string]
      cases PropertyType.classify raw <;> decide
    · exact Value.isPopulated_string.2 (filled_filledText? hraw)

lemma retains_tenure (address : String) : Retains derivedKeys record (tenure address record) := by
  refine .insert (by decide) record ?_
  rw [Value.isPopulated_string]
  cases Tenure.detect record _ <;> decide

lemma retains_fill {key : String} (hkey : key ∈ derivedKeys) (text : Option String) :
    Retains derivedKeys record (fill key text record) := by
  unfold fill
  split
  · exact .refl _ record
  · split
    · exact .refl _ record
    · next hempty => exact .insert_absent hkey hempty _

lemma retains_portal (info : PortalInfo) : Retains derivedKeys record (portal info record) :=
  ((retains_fill record (by decide) _).trans (retains_fill _ (by decide) _)).trans
    (retains_fill _ (by decide) _)

/-- All steps but the last, which puts in the address. -/
lemma retains_before_address (info : PortalInfo) (address : String) : Retains derivedKeys record
    (portal info (tenure address (propertyType (price info record)))) :=
  (((retains_price record info).trans (retains_propertyType _)).trans
    (retains_tenure _ address)).trans (retains_portal _ info)

lemma agree_all_derived (info : PortalInfo) (address : String) :
    Keyed.AgreeOff derivedKeys (all info address record) record :=
  (Keyed.AgreeOff.insert_within (by decide) _ _).trans
    (retains_before_address record info address).agree

/-- The address takes the place of what stood under its key; all other content stays. -/
lemma has_all (info : PortalInfo) {address key : String}
    (haddress : key = "import_url" → (Text.nonBlank? address).isSome) (h : record.Has key) :
    (all info address record).Has key := by
  rw [Members.Has, all, Keyed.get?_insert]
  split
  · next hkey =>
    obtain ⟨t, ht⟩ := Option.isSome_iff_exists.1 (haddress hkey)
    exact Value.isPopulated_string.2 (Text.filled_of_nonBlank? ht).2
  · exact (retains_before_address record info address).has key h

end Derivation

/-! ### Screening of what was extracted -/

lemma Screening.missingField_mem_objections {record : Members} {c : Criteria} {field : String} :
    .missingField field ∈ objections record c ↔
      field ∈ c.requiredFields ∧ ¬ record.Has field := by
  have hprice : ∀ cents, .missingField field ∉ priceObjections cents c := by
    intro cents
    unfold priceObjections
    split <;> simp
  have hbedrooms : .missingField field ∉ bedroomObjections record c := by
    unfold bedroomObjections
    repeat' split
    all_goals simp
  simp [objections, hprice, hbedrooms, lacks, Members.Has]

lemma Coverage.has_of_not_missing {record : Members} {m : Mapping} {field : String}
    (hdeclared : field ∈ declared m) (h : field ∉ missingFrom record m) : record.Has field := by
  simpa [missingFrom, hdeclared, Members.Has] using h

/-- **Derivation takes nothing away**: it changes derived keys only, and what has content keeps
some, the address of the page being the one thing that may be blank. So a screening of an extracted
listing does not object to the lack of a declared field that the coverage has not missed. -/
theorem content_stays (address : String) :
    (∀ info record, Keyed.AgreeOff Derivation.derivedKeys (Derivation.all info address record)
      record) ∧
    (∀ info record key, (key = "import_url" → (Text.nonBlank? address).isSome) →
      Members.Has record key → (Derivation.all info address record).Has key) ∧
    ∀ source m options criteria field, field ∈ Coverage.declared m →
      (field = "import_url" → (Text.nonBlank? address).isSome) →
      let e := Extraction.ofText source address m options
      field ∉ e.coverage.missing →
        Objection.missingField field ∉ Screening.objections e.record criteria := by
  refine ⟨fun info record => Derivation.agree_all_derived record info address,
    fun info record key => Derivation.has_all record info, ?_⟩
  intro source m options criteria field hdeclared haddress e hmissing hobjected
  let p := Page.read source address options.flightDepth
  let d := Draft.ofFindings m (.inPage p m options)
  have he : e = .ofFindings address m options (.inPage p m options) :=
    Extraction.ofPage_eq p m options
  have hlacks := (Screening.missingField_mem_objections.1 hobjected).2
  rw [he] at hmissing hlacks
  have hdraft : d.record.Has field := Coverage.has_of_not_missing hdeclared hmissing
  exact hlacks (Derivation.has_all d.record m.portal haddress hdraft)

/-- A currency that is a list, an address and a category, all by default. -/
def overwritten : Mapping :=
  .ofTexts [("currency", unsetRule), ("import_url", unsetRule), ("property_type", unsetRule)]
    [("currency", .array [.null]), ("import_url", .string "x"), ("price_string", .string "€ 2"),
      ("property_type", .string "Loft")]

theorem content_stays_overwritten :
    let address := "https://example.com/1"
    let e := Extraction.ofText "" address overwritten .standard
    let criteria := { Criteria.none with requiredFields := ["import_url"] }
    (Text.nonBlank? address).isSome ∧ Members.Has overwritten.defaultValues "currency" ∧
      (Derivation.all .empty address overwritten.defaultValues).Has "currency" ∧
      "import_url" ∈ Coverage.declared overwritten ∧ "import_url" ∉ e.coverage.missing ∧
      Objection.missingField "import_url" ∉ Screening.objections e.record criteria := by
  have haddress : (Text.nonBlank? "https://example.com/1").isSome := by decide +kernel
  have hhas : Members.Has overwritten.defaultValues "currency" := by decide +kernel
  have hdeclared : "import_url" ∈ Coverage.declared overwritten := by decide +kernel
  have hmissing : "import_url" ∉
      (Extraction.ofText "" "https://example.com/1" overwritten .standard).coverage.missing := by
    decide +kernel
  obtain ⟨-, hderived, hscreened⟩ := content_stays "https://example.com/1"
  exact ⟨haddress, hhas, hderived .empty _ "currency" (fun _ => haddress) hhas, hdeclared, hmissing,
    hscreened "" overwritten .standard _ "import_url" hdeclared (fun _ => haddress) hmissing⟩

end Estate
