import Estate.Proofs.Text.Content
import Estate.Proofs.Text.Lowering
import Estate.Screening

/-!
Terms that exclude a listing.

A term is objected to where the title or the description has it, and where it stands across the end
of the title and the start of the description, as the two are searched as one text with a space
between.
-/

namespace Estate

namespace Text

lemma startsWith_iff {cs start : List Char} : startsWith cs start ↔ start <+: cs := by
  rw [startsWith, Option.isSome_iff_exists]
  exact exists_congr fun rest => after?_eq_some.trans eq_comm

lemma occursIn_iff {needle cs : List Char} : occursIn needle cs ↔ needle <:+: cs := by
  induction cs with
  | nil => simp [occursIn]
  | cons c cs ih => rw [occursIn, Bool.or_eq_true, startsWith_iff, ih, List.infix_cons_iff]

end Text

namespace Screening

/-- What is looked for in place of a term. -/
def soughtFor (term : String) : List Char := (Text.lower (Text.trimmed term)).toList

/-- The text of a record under a key, in small letters. -/
def lowered? (record : Json.Members) (key : String) : Option (List Char) :=
  ((Keyed.get? record key).bind Json.Value.string?).map fun s => (Text.lower s).toList

/-- The title has the term, or the description has it. -/
def HasTerm (record : Json.Members) (term : String) : Prop :=
  soughtFor term ≠ [] ∧
    ∃ key ∈ ["title", "description"], ∃ cs, lowered? record key = some cs ∧ soughtFor term <:+: cs

/-- The term is parted at a space: the title ends with the part before it, and the description
starts with the part behind it. -/
def Straddles (record : Json.Members) (term : String) : Prop :=
  ∃ title description front back, lowered? record "title" = some title ∧
    lowered? record "description" = some description ∧
    soughtFor term = front ++ ' ' :: back ∧ front ≠ [] ∧ back ≠ [] ∧
    front <:+ title ∧ back <+: description

lemma soughtFor_eq (term : String) :
    soughtFor term = Text.lowerFrom [] (Text.trim term.toList) := by
  simp [soughtFor, Text.lower, Text.trimmed]

/-- No space stands at either end of what is looked for. -/
lemma ends_soughtFor (term : String) :
    ' ' ∉ (soughtFor term).head? ∧ ' ' ∉ (soughtFor term).getLast? := by
  have htight := (Text.tight_trim term.toList).lowerFrom []
  rw [soughtFor_eq]
  exact ⟨fun h => absurd (htight.head ' ' h) (by decide),
    fun h => absurd (htight.last ' ' h) (by decide)⟩

/-- What is looked for stands in one of two texts or across the space between them. -/
lemma soughtFor_infix_iff {term : String} {title description : List Char} :
    soughtFor term <:+: title ++ ' ' :: description ↔
      soughtFor term <:+: title ∨ soughtFor term <:+: description ∨
        ∃ front back, soughtFor term = front ++ ' ' :: back ∧ front ≠ [] ∧ back ≠ [] ∧
          front <:+ title ∧ back <+: description := by
  obtain ⟨hhead, hlast⟩ := ends_soughtFor term
  constructor
  · intro h
    rcases List.infix_append_iff.1 h with h | h | ⟨front, rest, heq, hfront, hrest⟩
    · exact .inl h
    · rcases List.infix_cons_iff.1 h with h | h
      · -- Nothing that is looked for starts with the space.
        cases hs : soughtFor term with
        | nil => exact .inl (List.nil_infix)
        | cons c cs =>
          rw [hs, List.cons_prefix_cons] at h
          simp [hs, h.1] at hhead
      · exact .inr (.inl h)
    · cases rest with
      | nil =>
        rw [heq, List.append_nil]
        exact .inl hfront.isInfix
      | cons c back =>
        obtain ⟨rfl, hback⟩ := List.cons_prefix_cons.1 hrest
        refine .inr (.inr ⟨front, back, heq, ?_, ?_, hfront, hback⟩)
        · rintro rfl
          simp [heq] at hhead
        · rintro rfl
          simp [heq] at hlast
  · rintro (h | h | ⟨front, back, heq, -, -, hfront, hback⟩)
    · exact List.infix_append_of_infix_left h
    · exact List.infix_append_of_infix_right (List.infix_cons h)
    · rw [heq]
      obtain ⟨before, rfl⟩ := hfront
      obtain ⟨behind, rfl⟩ := hback
      exact ⟨before, behind, by simp⟩

/-- The text that is searched. -/
lemma searched_eq (record : Json.Members) :
    (searched record).toList =
      match lowered? record "title", lowered? record "description" with
      | some title, some description => title ++ ' ' :: description
      | some title, none => title
      | none, some description => description
      | none, none => [] := by
  unfold searched lowered?
  simp only [List.filterMap_cons, List.filterMap_nil]
  cases (Keyed.get? record "title").bind Json.Value.string? with
  | none =>
    cases (Keyed.get? record "description").bind Json.Value.string? with
    | none => rfl
    | some description => simp
  | some title =>
    cases (Keyed.get? record "description").bind Json.Value.string? with
    | none => simp
    | some description =>
      simp [Text.lower, Text.lowerFrom_append_blank (b := ' ') rfl]

lemma mentions_eq (haystack term : String) :
    mentions haystack term ↔ soughtFor term ≠ [] ∧ soughtFor term <:+: haystack.toList := by
  simp [mentions, soughtFor, Text.occursIn_iff]

lemma hasTerm_iff {record : Json.Members} {term : String} :
    HasTerm record term ↔ soughtFor term ≠ [] ∧
      ((∃ title, lowered? record "title" = some title ∧ soughtFor term <:+: title) ∨
        ∃ description, lowered? record "description" = some description ∧
          soughtFor term <:+: description) := by
  simp [HasTerm]

/-- A term is found where a text has it or the space between the texts parts it. -/
lemma mentions_iff {record : Json.Members} {term : String} :
    mentions (searched record) term ↔ HasTerm record term ∨ Straddles record term := by
  rw [mentions_eq, searched_eq, hasTerm_iff, Straddles]
  cases lowered? record "title" with
  | none => cases lowered? record "description" <;> simp
  | some title =>
    cases lowered? record "description" with
    | none => simp
    | some description =>
      simp only [Option.some.injEq, exists_eq_left', soughtFor_infix_iff]
      constructor
      · rintro ⟨hne, h | h | h⟩
        · exact .inl ⟨hne, .inl h⟩
        · exact .inl ⟨hne, .inr h⟩
        · obtain ⟨front, back, h⟩ := h
          exact .inr ⟨title, description, front, back, rfl, rfl, h⟩
      · rintro (⟨hne, h⟩ | ⟨_, _, front, back, rfl, rfl, heq, h⟩)
        · exact ⟨hne, h.imp_right .inl⟩
        · exact ⟨by simp [heq], .inr (.inr ⟨front, back, heq, h⟩)⟩

/-- A term that is one word is in no two texts at once. -/
lemma not_straddles {term : String} (record : Json.Members) (h : ' ' ∉ Text.trim term.toList) :
    ¬ Straddles record term := by
  rintro ⟨-, -, front, back, -, -, heq, -⟩
  have hmem : ' ' ∈ Text.lowerFrom [] (Text.trim term.toList) := by
    rw [← soughtFor_eq, heq]
    simp
  exact h (Text.blank_mem_of_lowerFrom rfl hmem)

/-- **What excludes a listing**: a term of the criteria is objected to exactly if the title or the
description has it, blanks around it and case apart, or if it is parted at a space between the end
of the title and the start of the description; the latter happens to no term that is one word. -/
theorem excludedTerm_mem_objections (record : Json.Members) (c : Criteria) (term : String) :
    (.excludedTerm term ∈ objections record c ↔
      term ∈ c.excludedTerms ∧ (HasTerm record term ∨ Straddles record term)) ∧
    (' ' ∉ Text.trim term.toList → ¬ Straddles record term) := by
  refine ⟨?_, not_straddles record⟩
  have hprice : .excludedTerm term ∉ priceObjections (priceOf record) c := by
    unfold priceObjections
    split <;> simp
  have hbedrooms : .excludedTerm term ∉ bedroomObjections record c := by
    unfold bedroomObjections
    split
    · split <;> simp
    · simp
  simp only [objections, List.mem_append, List.mem_map, List.mem_filter, hprice, hbedrooms,
    or_false, Objection.excludedTerm.injEq, exists_eq_right, reduceCtorEq, and_false,
    exists_false, mentions_iff]

/-- A listing with one word at the end of its title and another at the start of its description. -/
def partedListing : Json.Members :=
  [("description", .string "Nuda propiedad"), ("title", .string "Flat at AUCTION")]

def pairExcluded : Criteria := { Criteria.none with excludedTerms := ["auction nuda", "garage"] }

lemma lowered_partedListing :
    lowered? partedListing "title" = some "flat at auction".toList ∧
      lowered? partedListing "description" = some "nuda propiedad".toList := by
  decide +kernel

lemma soughtFor_pair : soughtFor "auction nuda" = "auction nuda".toList := by
  decide +kernel

theorem excludedTerm_mem_objections_parted :
    .excludedTerm "auction nuda" ∈ objections partedListing pairExcluded ∧
      ' ' ∉ Text.trim "garage".toList ∧ ¬ Straddles partedListing "garage" := by
  have hstraddles : Straddles partedListing "auction nuda" :=
    ⟨_, _, "auction".toList, "nuda".toList, lowered_partedListing.1, lowered_partedListing.2,
      soughtFor_pair, by decide, by decide, by decide, by decide⟩
  have hword : ' ' ∉ Text.trim "garage".toList := by decide
  exact ⟨(excludedTerm_mem_objections partedListing pairExcluded "auction nuda").1.2
      ⟨by decide, .inr hstraddles⟩,
    hword, (excludedTerm_mem_objections partedListing pairExcluded "garage").2 hword⟩

/-- A term that neither text has is objected to. -/
theorem parted_term_excluded :
    .excludedTerm "auction nuda" ∈ objections partedListing pairExcluded ∧
      ¬ HasTerm partedListing "auction nuda" := by
  constructor
  · decide +kernel
  · rw [hasTerm_iff, lowered_partedListing.1, lowered_partedListing.2, soughtFor_pair]
    simp only [Option.some.injEq, exists_eq_left']
    decide

end Screening

end Estate
