import Mathlib.Tactic.Lemma
import Estate.Proofs.Retention

/-!
Records with nothing to read a price from.

Derivation looks for a text, and not for one with content. So a record that has no text for its
price is left without one, and a record with a blank text is given the price of zero.
-/

namespace Estate

/-! ### Blank texts -/

namespace Price

/-- A word that stands in a text is part of it. -/
lemma subset_of_standsAlone {word cs : List Char} {before : Option Char}
    (h : standsAlone word before cs) : word ⊆ cs := by
  induction cs generalizing before with
  | nil => simp [standsAlone] at h
  | cons c cs ih =>
    rw [standsAlone, Bool.or_eq_true] at h
    rcases h with h | h
    · split at h
      · next rest hrest =>
        rw [Text.after?_eq_some.1 hrest]
        exact List.subset_append_left word rest
      · cases h
    · exact List.subset_cons_of_subset c (ih h)

lemma filled_of_currencyIn? {s currency : String} (h : currencyIn? s = some currency) :
    Text.Filled s.toList := by
  have hsigns : ∀ sign ∈ signs, Text.isBlank sign.1 = false := by decide
  have hcodes : ∀ code ∈ codes, Text.Filled code.toList := by decide
  have hraised : ∀ c, Text.isBlank c → Text.isBlank (Text.upperAscii c) := fun c =>
    Text.forall_blank (p := fun c => Text.isBlank (Text.upperAscii c)) (by decide)
  unfold currencyIn? at h
  split at h
  · next sign hfind =>
    have hmem : sign.1 ∈ s.toList := by simpa using List.find?_some hfind
    exact ⟨sign.1, hmem, hsigns sign (List.mem_of_find?_eq_some hfind)⟩
  · have hstands : standsAlone currency.toList none (s.toList.map Text.upperAscii) :=
      List.find?_some (p := fun code : String => standsAlone code.toList none _) h
    obtain ⟨c, hc, hblank⟩ := (hcodes currency (List.mem_of_find?_eq_some h)).mono
      (subset_of_standsAlone hstands)
    obtain ⟨d, hd, rfl⟩ := List.mem_map.1 hc
    refine ⟨d, hd, Bool.eq_false_iff.2 fun hd => ?_⟩
    rw [hraised d hd] at hblank
    cases hblank

lemma centsOf_blank {s : String} (h : ¬ Text.Filled s.toList) : centsOf s = 0 := by
  have hkept : (s.toList.filter fun c => Text.isAsciiDigit c || c == ',' || c == '.') = [] := by
    have hmarks : ∀ c, Text.isBlank c →
        (Text.isAsciiDigit c || c == ',' || c == '.') = false := fun c =>
      Text.forall_blank (p := fun c => (Text.isAsciiDigit c || c == ',' || c == '.') = false)
        (by decide)
    refine List.filter_eq_nil_iff.2 fun c hc => ?_
    rw [hmarks c (Bool.not_eq_false _ ▸ fun hblank => h ⟨c, hc, hblank⟩)]
    exact Bool.false_ne_true
  unfold centsOf
  rw [hkept]
  rfl

/-- The currency of a price whose text names none. -/
def unnamedCurrency (fallback : Option String) : String :=
  ((fallback.bind Text.nonBlank?).map Text.asciiUpper).getD "USD"

/-- A blank text is read as a price of nothing, in the currency to fall back on. -/
lemma normalize_blank {s : String} (h : ¬ Text.Filled s.toList) (fallback : Option String) :
    normalize s none fallback =
      ⟨0, unnamedCurrency fallback, written 0 (unnamedCurrency fallback)⟩ := by
  have hcurrency : currencyIn? s = none :=
    Option.eq_none_iff_forall_ne_some.2 fun currency hin => h (filled_of_currencyIn? hin)
  have hshown : Text.trimmed s = "" := by
    rw [Text.trimmed, Text.trim_eq_nil h]
  unfold normalize
  rw [hcurrency, hshown, centsOf_blank h]
  rfl

end Price

/-! ### Derivation without a price -/

namespace Derivation

open Json

/-- The keys that a price is put under. -/
def priceKeys : List String := ["price_cents", "currency", "price_display"]

/-- There is nothing with content for the text of a price, and no number for its amount. -/
structure Unpriced (record : Members) : Prop where
  text : ¬ record.Has "price_string"
  amount : ∀ n, Keyed.get? record "price_float" ≠ some (.number n)

/-- What stands under the keys of a price is the same. -/
def PriceKept (before after : Members) : Prop :=
  ∀ key ∈ priceKeys, Keyed.get? after key = Keyed.get? before key

variable {record : Members}

lemma get?_fill_other {key name : String} (h : name ≠ key) (text : Option String)
    (record : Members) : Keyed.get? (fill key text record) name = Keyed.get? record name := by
  unfold fill
  split
  · rfl
  · split
    · rfl
    · rw [Keyed.get?_insert, if_neg h]

lemma get?_propertyType_other {name : String} (h : name ≠ "property_type")
    (hraw : name ≠ "property_type_raw") (record : Members) :
    Keyed.get? (propertyType record) name = Keyed.get? record name := by
  unfold propertyType
  split
  · rfl
  · rw [Keyed.get?_insert, if_neg hraw, Keyed.get?_insert, if_neg h]

/-- Behind its own step nothing happens to a price. -/
lemma price_kept_behind (info : PortalInfo) (address : String) (record : Members) :
    PriceKept (price info record) (all info address record) := by
  intro key hkey
  have hother : ∀ name ∈ ["import_url", "locale", "area_unit", "country", "listing_type",
      "property_type", "property_type_raw"], key ≠ name := by
    revert key
    decide
  rw [all, Keyed.get?_insert, if_neg (hother _ (by decide)), portal,
    get?_fill_other (hother _ (by decide)), get?_fill_other (hother _ (by decide)),
    get?_fill_other (hother _ (by decide)), tenure, Keyed.get?_insert,
    if_neg (hother _ (by decide)),
    get?_propertyType_other (hother _ (by decide)) (hother _ (by decide))]

lemma Unpriced.amount_eq (h : Unpriced record) :
    (Keyed.get? record "price_float").bind Value.binary64? = none := by
  cases hget : Keyed.get? record "price_float" with
  | none => rfl
  | some v =>
    cases v with
    | number n => exact absurd hget (h.amount n)
    | _ => rfl

lemma Unpriced.not_filled (h : Unpriced record) {s : String}
    (hs : text? record "price_string" = some s) : ¬ Text.Filled s.toList := by
  obtain ⟨v, hv, hstring⟩ := Option.bind_eq_some_iff.1 hs
  obtain rfl : v = .string s := by
    cases v <;> simp_all [Value.string?]
  intro hfilled
  refine h.text ?_
  rw [Members.Has, hv]
  exact Value.isPopulated_string.2 hfilled

/-- **A price is made up of a blank text only**: where there is nothing to read a price from, its
keys are left alone if there is no text for it at all, and a blank text is a price of zero in the
currency of the record or the portal. -/
theorem price_absent (info : PortalInfo) (address : String) (h : Unpriced record) :
    let derived := all info address record
    let currency := Price.unnamedCurrency (fallbackCurrency info record)
    (text? record "price_string" = none → PriceKept record derived) ∧
    (∀ s, text? record "price_string" = some s →
      Keyed.get? derived "price_cents" = some (.ofInt 0) ∧
      Keyed.get? derived "currency" = some (.string currency) ∧
      Keyed.get? derived "price_display" = some (.string (Price.written 0 currency))) := by
  intro derived currency
  have hbehind : PriceKept (price info record) derived := price_kept_behind info address record
  constructor
  · intro htext
    have hsame : price info record = record := by simp [price, htext, h.amount_eq]
    rwa [hsame] at hbehind
  · intro s htext
    have hzero := Price.normalize_blank (h.not_filled htext) (fallbackCurrency info record)
    have hprice : price info record =
        Keyed.insert (Keyed.insert (Keyed.insert record "price_cents" (.ofInt 0)) "currency"
          (.string currency)) "price_display" (.string (Price.written 0 currency)) := by
      simp [price, htext, h.amount_eq, hzero, currency]
    refine ⟨?_, ?_, ?_⟩
    · rw [hbehind "price_cents" (by decide), hprice]
      simp [Keyed.get?_insert]
    · rw [hbehind "currency" (by decide), hprice]
      simp [Keyed.get?_insert]
    · rw [hbehind "price_display" (by decide), hprice]
      simp [Keyed.get?_insert]

/-- A blank text, an amount that is no number, and a currency. -/
def blankPrice : Members :=
  [("currency", .string "eur"), ("price_float", .string "12"), ("price_string", .string " ")]

lemma unpriced_blankPrice : Unpriced blankPrice where
  text := by decide
  amount n h := by cases h

theorem price_absent_blank :
    let derived := all .empty "https://example.com/1" blankPrice
    Unpriced blankPrice ∧ text? blankPrice "price_string" = some " " ∧
      Keyed.get? derived "price_cents" = some (.ofInt 0) ∧
      Keyed.get? derived "currency" = some (.string "EUR") ∧
      Keyed.get? derived "price_display" = some (.string "€0") := by
  have htext : text? blankPrice "price_string" = some " " := rfl
  have hcurrency : Price.unnamedCurrency (fallbackCurrency .empty blankPrice) = "EUR" := by
    decide +kernel
  have hdisplay : Price.written 0 "EUR" = "€0" := by decide +kernel
  obtain ⟨-, hblank⟩ := price_absent .empty "https://example.com/1" unpriced_blankPrice
  obtain ⟨hcents, hsign, hshown⟩ := hblank " " htext
  rw [hcurrency] at hsign hshown
  rw [hdisplay] at hshown
  exact ⟨unpriced_blankPrice, htext, hcents, hsign, hshown⟩

/-- An empty text is enough for a price of no dollars. -/
theorem price_made_up : ¬ ∀ info address record, Unpriced record →
    PriceKept record (all info address record) := by
  intro h
  have hunpriced : Unpriced [("price_string", .string "")] := ⟨by decide, fun n h => by cases h⟩
  have hkept := h .empty "https://example.com/1" _ hunpriced "price_display" (by decide)
  have hshown : text? (all .empty "https://example.com/1" [("price_string", .string "")])
      "price_display" = some "$0" := by decide +kernel
  rw [text?, hkept] at hshown
  cases hshown

end Derivation

end Estate
