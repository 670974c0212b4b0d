import Mathlib.Tactic.Lemma
import Estate.Screening

/-!
Criteria one by one, and stricter ones.

What is objected to a listing is what each criterion by itself objects to it, in the order of the
criteria. So a listing passes exactly if it passes each of them, and what does not pass does not
pass stricter ones either.
-/

namespace Estate

namespace Criteria

/-! ### Single criteria -/

def excluding (term : String) : Criteria := { none with excludedTerms := [term] }

def priceFrom (cents : Int) : Criteria := { none with minPriceCents := some cents }

def priceUpTo (cents : Int) : Criteria := { none with maxPriceCents := some cents }

def bedroomsFrom (count : Int) : Criteria := { none with minBedrooms := some count }

def requiring (field : String) : Criteria := { none with requiredFields := [field] }

/-- The criteria one by one, in the order in which they are judged. -/
def parts (c : Criteria) : List Criteria :=
  c.excludedTerms.map excluding ++ (c.minPriceCents.map priceFrom).toList ++
    (c.maxPriceCents.map priceUpTo).toList ++ (c.minBedrooms.map bedroomsFrom).toList ++
    c.requiredFields.map requiring

/-- Criteria that ask for all that others ask for: they have the terms and the fields of the others,
and bounds that leave no more room. -/
structure Tightens (d c : Criteria) : Prop where
  terms : c.excludedTerms ⊆ d.excludedTerms
  minPrice : ∀ n ∈ c.minPriceCents, ∃ m ∈ d.minPriceCents, n ≤ m
  maxPrice : ∀ n ∈ c.maxPriceCents, ∃ m ∈ d.maxPriceCents, m ≤ n
  bedrooms : ∀ n ∈ c.minBedrooms, ∃ m ∈ d.minBedrooms, n ≤ m
  fields : c.requiredFields ⊆ d.requiredFields

lemma mem_parts {c part : Criteria} : part ∈ c.parts ↔
    (∃ term ∈ c.excludedTerms, excluding term = part) ∨
      (∃ n ∈ c.minPriceCents, priceFrom n = part) ∨ (∃ n ∈ c.maxPriceCents, priceUpTo n = part) ∨
      (∃ n ∈ c.minBedrooms, bedroomsFrom n = part) ∨
      ∃ field ∈ c.requiredFields, requiring field = part := by
  simp [parts]

end Criteria

namespace Screening

open Criteria

variable (record : Json.Members)

/-! ### What a single criterion objects to -/

lemma objections_excluding (term : String) : objections record (excluding term) =
    if mentions (searched record) term then [.excludedTerm term] else [] := by
  cases h : mentions (searched record) term <;>
    simp [objections, excluding, Criteria.none, priceObjections, bedroomObjections, h]

lemma objections_priceFrom (n : Int) : objections record (priceFrom n) =
    if priceOf record ≠ 0 ∧ priceOf record < n then [.priceBelowMinimum (priceOf record) n]
    else [] := by
  by_cases hzero : priceOf record = 0 <;> by_cases hlow : priceOf record < n <;>
    simp [objections, priceFrom, Criteria.none, priceObjections, bedroomObjections, Option.filter,
      hzero, hlow]

lemma objections_priceUpTo (n : Int) : objections record (priceUpTo n) =
    if priceOf record ≠ 0 ∧ n < priceOf record then [.priceAboveMaximum (priceOf record) n]
    else [] := by
  by_cases hzero : priceOf record = 0 <;> by_cases hhigh : n < priceOf record <;>
    simp [objections, priceUpTo, Criteria.none, priceObjections, bedroomObjections, Option.filter,
      hzero, hhigh]

lemma objections_bedroomsFrom (n : Int) : objections record (bedroomsFrom n) =
    bedroomObjections record (bedroomsFrom n) := by
  simp [objections, bedroomsFrom, Criteria.none, priceObjections]

lemma objections_requiring (field : String) : objections record (requiring field) =
    if lacks record field then [.missingField field] else [] := by
  cases h : lacks record field <;>
    simp [objections, requiring, Criteria.none, priceObjections, bedroomObjections, h]

/-! ### All criteria -/

lemma flatMap_ite {α β : Type} (p : α → Bool) (f : α → β) (as : List α) :
    (as.flatMap fun a => if p a then [f a] else []) = (as.filter p).map f := by
  induction as with
  | nil => rfl
  | cons a as ih => cases h : p a <;> simp [h, ih]

lemma priceObjections_eq (c : Criteria) : priceObjections (priceOf record) c =
    (c.minPriceCents.map priceFrom).toList.flatMap (objections record) ++
      (c.maxPriceCents.map priceUpTo).toList.flatMap (objections record) := by
  unfold priceObjections
  by_cases hzero : priceOf record = 0
  · cases c.minPriceCents <;> cases c.maxPriceCents <;>
      simp [objections_priceFrom, objections_priceUpTo, hzero]
  · rw [if_neg hzero]
    congr 1
    · cases c.minPriceCents with
      | none => rfl
      | some n =>
        by_cases hlow : priceOf record < n <;>
          simp [objections_priceFrom, Option.filter, hzero, hlow]
    · cases c.maxPriceCents with
      | none => rfl
      | some n =>
        by_cases hhigh : n < priceOf record <;>
          simp [objections_priceUpTo, Option.filter, hzero, hhigh]

lemma bedroomObjections_eq (c : Criteria) : bedroomObjections record c =
    (c.minBedrooms.map bedroomsFrom).toList.flatMap (objections record) := by
  unfold bedroomObjections
  cases c.minBedrooms with
  | none => rfl
  | some n =>
    rw [Option.map_some, Option.toList_some, List.flatMap_singleton, objections_bedroomsFrom]
    rfl

/-- **Single criteria object to all that is objected to.** -/
lemma objections_eq_flatMap (c : Criteria) :
    objections record c = c.parts.flatMap (objections record) := by
  have hterms : (c.excludedTerms.filter (mentions (searched record))).map .excludedTerm =
      (c.excludedTerms.map excluding).flatMap (objections record) := by
    simp only [List.flatMap_map, objections_excluding, flatMap_ite]
  have hfields : (c.requiredFields.filter (lacks record)).map .missingField =
      (c.requiredFields.map requiring).flatMap (objections record) := by
    simp only [List.flatMap_map, objections_requiring, flatMap_ite]
  rw [objections, priceObjections_eq, bedroomObjections_eq, hterms, hfields]
  simp only [parts, List.flatMap_append, List.append_assoc]

lemma passes_iff (c : Criteria) : passes record c ↔ objections record c = [] :=
  List.isEmpty_iff

/-- A listing passes if it passes the criteria one by one. -/
lemma passes_iff_parts (c : Criteria) :
    passes record c ↔ ∀ part ∈ c.parts, passes record part := by
  simp only [passes_iff, objections_eq_flatMap record c, List.flatMap_eq_nil_iff]

/-! ### Stricter criteria -/

variable {record} {n m : Int}

lemma passes_priceFrom (h : n ≤ m) (hm : passes record (priceFrom m)) :
    passes record (priceFrom n) := by
  rw [passes_iff, objections_priceFrom, ite_eq_right_iff] at hm ⊢
  intro ⟨hne, hlow⟩
  exact absurd (hm ⟨hne, by omega⟩) (by simp)

lemma passes_priceUpTo (h : m ≤ n) (hm : passes record (priceUpTo m)) :
    passes record (priceUpTo n) := by
  rw [passes_iff, objections_priceUpTo, ite_eq_right_iff] at hm ⊢
  intro ⟨hne, hhigh⟩
  exact absurd (hm ⟨hne, by omega⟩) (by simp)

lemma passes_bedroomsFrom (h : n ≤ m) (hm : passes record (bedroomsFrom m)) :
    passes record (bedroomsFrom n) := by
  rw [passes_iff, objections_bedroomsFrom] at hm ⊢
  unfold bedroomObjections bedroomsFrom at *
  dsimp only at *
  cases hbedrooms : (Keyed.get? record "count_bedrooms").bind wholeNumber? with
  | none => rfl
  | some bedrooms =>
    rw [hbedrooms] at hm
    dsimp only at *
    rw [ite_eq_right_iff] at hm ⊢
    intro hfew
    exact absurd (hm (by omega)) (by simp)

/-- What passes stricter criteria passes. -/
lemma passes_of_tightens {c d : Criteria} (h : d.Tightens c) (hd : passes record d) :
    passes record c := by
  rw [passes_iff_parts] at hd ⊢
  intro part hpart
  rcases mem_parts.1 hpart with ⟨term, hterm, rfl⟩ | ⟨n, hn, rfl⟩ | ⟨n, hn, rfl⟩ | ⟨n, hn, rfl⟩ |
    ⟨field, hfield, rfl⟩
  · exact hd _ (mem_parts.2 (.inl ⟨term, h.terms hterm, rfl⟩))
  · obtain ⟨m, hm, hle⟩ := h.minPrice n hn
    exact passes_priceFrom hle (hd _ (mem_parts.2 (.inr (.inl ⟨m, hm, rfl⟩))))
  · obtain ⟨m, hm, hle⟩ := h.maxPrice n hn
    exact passes_priceUpTo hle (hd _ (mem_parts.2 (.inr (.inr (.inl ⟨m, hm, rfl⟩)))))
  · obtain ⟨m, hm, hle⟩ := h.bedrooms n hn
    exact passes_bedroomsFrom hle (hd _ (mem_parts.2 (.inr (.inr (.inr (.inl ⟨m, hm, rfl⟩))))))
  · exact hd _ (mem_parts.2 (.inr (.inr (.inr (.inr ⟨field, h.fields hfield, rfl⟩)))))

/-- **Criteria are judged one by one**: what is objected to a listing is what each criterion alone
objects to it, in order; the listing passes exactly if it passes each of them alone; and a listing
that does not pass does not pass stricter criteria. -/
theorem criteria_apart (record : Json.Members) (c : Criteria) :
    objections record c = c.parts.flatMap (objections record) ∧
      (passes record c ↔ ∀ part ∈ c.parts, passes record part) ∧
      ∀ d : Criteria, d.Tightens c → ¬ passes record c → ¬ passes record d :=
  ⟨objections_eq_flatMap record c, passes_iff_parts record c,
    fun _ htightens hfails hd => hfails (passes_of_tightens htightens hd)⟩

/-- A listing with its price as a text and its bedrooms as a number with a fraction. -/
def smallFlat : Json.Members :=
  [("count_bedrooms", .number (.float ((Binary64.ofFraction? false 3 2).getD .zero))),
    ("price_cents", .string " 5000000 "), ("title", .string "Flat at AUCTION")]

def demanding : Criteria :=
  ⟨["Auction", "tenant"], some 4000000, some 6000000, some 2, ["title", "latitude"]⟩

def lenient : Criteria := ⟨["tenant"], none, some 7000000, some 2, ["title"]⟩

theorem criteria_apart_demanding :
    objections smallFlat demanding =
        [.excludedTerm "Auction", .tooFewBedrooms 1 2, .missingField "latitude"] ∧
      demanding.Tightens lenient ∧ ¬ passes smallFlat lenient ∧ ¬ passes smallFlat demanding :=
  have htightens : demanding.Tightens lenient :=
    ⟨by decide, by decide, by decide, by decide, by decide⟩
  have hfails : ¬ passes smallFlat lenient := by decide +kernel
  ⟨by decide +kernel, htightens, hfails,
    (criteria_apart smallFlat lenient).2.2 demanding htightens hfails⟩

end Screening

end Estate
