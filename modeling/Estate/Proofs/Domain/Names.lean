import Mathlib.Data.Bool.AllAny
import Mathlib.Data.List.Basic
import Mathlib.Tactic.Lemma
import Estate.Domain.Ascii
import Estate.Proofs.Domain.Capitals
import Estate.Proofs.Domain.Punycode
import Estate.Proofs.Text.Composition
import Estate.Proofs.Text.Parts

/-!
A domain name written in ASCII is written in ASCII as it is.

Each label written in ASCII stands for the label it was written from: one with other characters is
valid, and Punycode is read as it is written. Mapping and composing leave small ASCII characters as
they are, so the name falls into the same labels again.
-/

namespace Estate.Domain

/-- An ASCII character, no capital letter and no point. -/
structure IsSmall (c : Char) : Prop where
  ascii : c.toNat < 128
  small : isCapital c = false
  inside : c ≠ '.'

lemma isSmall_digitChar {d : Nat} (h : d < 36) : IsSmall (Punycode.digitChar d) := by
  have hall : ∀ d < 36, (Punycode.digitChar d).toNat < 128 ∧
      isCapital (Punycode.digitChar d) = false ∧ Punycode.digitChar d ≠ '.' := by decide
  obtain ⟨hascii, hsmall, hinside⟩ := hall d h
  exact ⟨hascii, hsmall, hinside⟩

lemma isAscii_iff {c : Char} : Text.isAscii c ↔ c.toNat < 128 := by
  simp [Text.isAscii]

/-! ### Labels -/

lemma shown?_ascii {label : List Char} (hmark : ∀ code, label ≠ 'x' :: 'n' :: '-' :: '-' :: code)
    (hascii : label.all Text.isAscii) : Label.shown? label = some label := by
  unfold Label.shown?
  split
  · next code => exact absurd rfl (hmark code)
  · rw [hascii, Bool.true_or, if_pos rfl]

lemma shown?_encode {label : List Char} (hvalid : isValidLabel label)
    (hother : label.any (!Text.isAscii ·)) :
    Label.shown? ("xn--".toList ++ Punycode.encode label) = some label := by
  have hcode : (Punycode.encode label).all Text.isAscii := by
    rw [List.all_eq_true]
    intro c hc
    rw [isAscii_iff]
    rcases Punycode.mem_encode hc with ⟨-, hc⟩ | rfl | ⟨d, hd, rfl⟩
    · exact hc
    · decide
    · exact (isSmall_digitChar hd).ascii
  change Label.shown? ('x' :: 'n' :: '-' :: '-' :: Punycode.encode label) = some label
  rw [Label.shown?, Punycode.decode?_encode, Option.bind_some, hcode, hother, hvalid]
  rfl

/-- What a label stands for is ASCII, or valid with other characters; a point in it is in the label
too. -/
lemma cases_of_shown? {label shown : List Char} (h : Label.shown? label = some shown) :
    (shown = label ∧ label.all Text.isAscii) ∨
      (isValidLabel shown ∧ shown.any (!Text.isAscii ·) ∧ ('.' ∈ shown → '.' ∈ label)) := by
  unfold Label.shown? at h
  split at h
  · next code =>
    obtain ⟨shown', hread, hvalid⟩ := Option.bind_eq_some_iff.1 h
    split_ifs at hvalid with hif
    cases hvalid
    simp only [Bool.and_eq_true] at hif
    refine .inr ⟨hif.2, hif.1.2, fun hpoint => ?_⟩
    rcases Punycode.mem_of_decode? hread hpoint with hmem | hmem
    · simp [hmem]
    · exact absurd hmem (by decide)
  · split_ifs at h with hif
    cases h
    by_cases hascii : label.all Text.isAscii
    · exact .inl ⟨rfl, hascii⟩
    · rw [Bool.or_eq_true] at hif
      exact .inr ⟨hif.resolve_left hascii, by simpa using hascii, id⟩

/-- A label written in ASCII stands for the label it was written from. -/
lemma shown?_inAscii {label shown : List Char} (h : Label.shown? label = some shown) :
    Label.shown? (Label.inAscii shown) = some shown := by
  rcases cases_of_shown? h with ⟨rfl, hascii⟩ | ⟨hvalid, hother, -⟩
  · rw [Label.inAscii, if_pos hascii, h]
  · have hnot : ¬ shown.all Text.isAscii := by simpa using hother
    rw [Label.inAscii, if_neg hnot]
    exact shown?_encode hvalid hother

lemma isSmall_of_inAscii {label shown : List Char} (h : Label.shown? label = some shown)
    (hlabel : ∀ c ∈ label, isCapital c = false ∧ c ≠ '.') :
    ∀ c ∈ Label.inAscii shown, IsSmall c := by
  rcases cases_of_shown? h with ⟨rfl, hascii⟩ | ⟨hvalid, hother, hpoint⟩
  · rw [Label.inAscii, if_pos hascii]
    intro c hc
    exact ⟨isAscii_iff.1 (List.all_eq_true.1 hascii c hc), (hlabel c hc).1, (hlabel c hc).2⟩
  · have hnot : ¬ shown.all Text.isAscii := by simpa using hother
    rw [Label.inAscii, if_neg hnot]
    intro c hc
    rcases List.mem_append.1 hc with hc | hc
    · have hmark : ∀ c ∈ "xn--".toList, c.toNat < 128 ∧ isCapital c = false ∧ c ≠ '.' :=
        List.all_iff_forall_prop.1 (by decide)
      obtain ⟨hascii, hsmall, hinside⟩ := hmark c hc
      exact ⟨hascii, hsmall, hinside⟩
    · rcases Punycode.mem_encode hc with ⟨hmem, hascii⟩ | rfl | ⟨d, hd, rfl⟩
      · simp only [isValidLabel, Bool.and_eq_true, List.all_eq_true, beq_iff_eq] at hvalid
        refine ⟨hascii, not_isCapital_of_kept (hvalid.1.2 c hmem), ?_⟩
        rintro rfl
        exact (hlabel '.' (hpoint hmem)).2 rfl
      · exact ⟨by decide, by decide, by decide⟩
      · exact isSmall_digitChar hd

/-! ### Names -/

/-- What names are made of once they are written in ASCII. -/
def InName (c : Char) : Prop := c.toNat < 128 ∧ isCapital c = false

lemma mapped?_inName {name : List Char} (h : ∀ c ∈ name, InName c) : mapped? name = some name := by
  induction name with
  | nil => rfl
  | cons c name ih =>
    obtain ⟨⟨hascii, hsmall⟩, hname⟩ := List.forall_mem_cons.1 h
    have hfate : fate c = .kept := by
      rw [fate, if_neg (by rw [show ('A' ≤ c && c ≤ 'Z') = false from hsmall]; simp), if_pos hascii]
    rw [mapped?, hfate, ih hname]
    rfl

lemma isSmall_inName {c : Char} (h : IsSmall c) : InName c := ⟨h.ascii, h.small⟩

lemma inName_point : InName '.' := by
  unfold InName
  decide

/-- The labels of a name, and the name put together from what they stand for. -/
lemma exists_labels {name ascii : List Char} (h : toAscii? name = some ascii) :
    ∃ labels : List (List Char), labels ≠ [] ∧
      (∀ shown ∈ labels, Label.shown? (Label.inAscii shown) = some shown ∧
        ∀ c ∈ Label.inAscii shown, IsSmall c) ∧
      ascii = ['.'].intercalate (labels.map Label.inAscii) ∧
      (labels.any (·.any isRightToLeft) && !labels.all keepsDirection || ascii.any isForbidden) =
        false := by
  obtain ⟨mapped, hmapped, hrest⟩ := Option.bind_eq_some_iff.1 h
  obtain ⟨labels, hlabels, hascii⟩ := Option.bind_eq_some_iff.1 hrest
  simp only at hascii
  split_ifs at hascii with hif
  cases hascii
  refine ⟨labels, ?_, ?_, rfl, by simpa using hif⟩
  · rintro rfl
    have hlength := Text.length_of_mapM hlabels
    exact List.splitOn_ne_nil '.' _ (List.length_eq_zero_iff.1 hlength.symm)
  · refine Text.forall_mem_of_mapM hlabels fun label hlabel shown hshown =>
      ⟨shown?_inAscii hshown, isSmall_of_inAscii hshown fun c hc => ?_⟩
    obtain ⟨hmem, hpoint⟩ := Text.mem_of_mem_splitOnP hlabel c hc
    exact ⟨not_isCapital_of_mapped hmapped c hmem, by simpa using hpoint⟩

lemma inName_of_toAscii? {name ascii : List Char} (h : toAscii? name = some ascii) :
    ∀ c ∈ ascii, InName c ∧ isForbidden c = false := by
  obtain ⟨labels, -, hlabels, rfl, hif⟩ := exists_labels h
  intro c hc
  refine ⟨Text.forall_intercalate inName_point ?_ c hc, ?_⟩
  · intro part hpart c hc
    obtain ⟨shown, hshown, rfl⟩ := List.mem_map.1 hpart
    exact isSmall_inName ((hlabels shown hshown).2 c hc)
  · rw [Bool.or_eq_false_iff, List.any_eq_false] at hif
    simpa using hif.2 c hc

/-- Labels whose ASCII forms stand for them make a name that is written in ASCII as it is. -/
lemma toAscii?_intercalate {labels : List (List Char)} (hne : labels ≠ [])
    (hlabels : ∀ shown ∈ labels, Label.shown? (Label.inAscii shown) = some shown ∧
      ∀ c ∈ Label.inAscii shown, IsSmall c)
    (hif : (labels.any (·.any isRightToLeft) && !labels.all keepsDirection ||
      (['.'].intercalate (labels.map Label.inAscii)).any isForbidden) = false) :
    toAscii? (['.'].intercalate (labels.map Label.inAscii)) =
      some (['.'].intercalate (labels.map Label.inAscii)) := by
  have hsmall : ∀ part ∈ labels.map Label.inAscii, ∀ c ∈ part, IsSmall c := by
    intro part hpart
    obtain ⟨shown, hshown, rfl⟩ := List.mem_map.1 hpart
    exact (hlabels shown hshown).2
  have hname : ∀ c ∈ ['.'].intercalate (labels.map Label.inAscii), InName c :=
    Text.forall_intercalate inName_point fun part hpart c hc =>
      isSmall_inName (hsmall part hpart c hc)
  have hsplit : (['.'].intercalate (labels.map Label.inAscii)).splitOn '.' =
      labels.map Label.inAscii :=
    List.splitOn_intercalate '.' (fun part hpart hmem => (hsmall part hpart '.' hmem).inside rfl)
      (by simpa using hne)
  have hread : (labels.map Label.inAscii).mapM Label.shown? = some labels := by
    have hall := Text.mapM_eq_some_map (f := Label.shown? ∘ Label.inAscii) (g := id)
      fun shown hshown => (hlabels shown hshown).1
    rw [List.mapM_map, hall, List.map_id]
  rw [toAscii?, mapped?_inName hname, Option.bind_some,
    Text.compose_ascii fun c hc => (hname c hc).1, hsplit, hread, Option.bind_some]
  simp only [hif]
  simp

/-- **A name written in ASCII is written in ASCII as it is.** -/
theorem toAscii?_of_toAscii? {name ascii : List Char} (h : toAscii? name = some ascii) :
    toAscii? ascii = some ascii := by
  obtain ⟨labels, hne, hlabels, rfl, hif⟩ := exists_labels h
  exact toAscii?_intercalate hne hlabels hif

lemma of_isAsciiDigit {c : Char} (h : Text.isAsciiDigit c) :
    IsSmall c ∧ isRightToLeft c = false ∧ isForbidden c = false ∧ c ≠ 'x' := by
  have hall : ∀ n < 10, (Char.ofNat (48 + n)).toNat < 128 ∧ isCapital (.ofNat (48 + n)) = false ∧
      Char.ofNat (48 + n) ≠ '.' ∧ isRightToLeft (.ofNat (48 + n)) = false ∧
      isForbidden (.ofNat (48 + n)) = false ∧ Char.ofNat (48 + n) ≠ 'x' := by decide +kernel
  obtain ⟨hlow, hhigh⟩ := Text.toNat_between h
  simp only [Char.reduceToNat] at hlow hhigh
  have hdigit := hall (c.toNat - 48) (by omega)
  rw [show 48 + (c.toNat - 48) = c.toNat by omega, Char.ofNat_toNat] at hdigit
  exact ⟨⟨hdigit.1, hdigit.2.1, hdigit.2.2.1⟩, hdigit.2.2.2⟩

/-- Digits and points are written in ASCII as they are. -/
lemma toAscii?_digits {parts : List (List Char)} (hne : parts ≠ [])
    (h : ∀ part ∈ parts, ∀ c ∈ part, Text.isAsciiDigit c) :
    toAscii? (['.'].intercalate parts) = some (['.'].intercalate parts) := by
  have hall : ∀ part ∈ parts, part.all Text.isAscii := fun part hpart => List.all_eq_true.2
    fun c hc => isAscii_iff.2 (of_isAsciiDigit (h part hpart c hc)).1.ascii
  have hlabel : ∀ part ∈ parts, Label.inAscii part = part := fun part hpart => by
    rw [Label.inAscii, if_pos (hall part hpart)]
  have hself : parts.map Label.inAscii = parts :=
    (List.map_congr_left hlabel).trans (List.map_id parts)
  have hread := toAscii?_intercalate hne (fun part hpart => ?_) ?_
  · rwa [hself] at hread
  · rw [hlabel part hpart]
    refine ⟨shown?_ascii ?_ (hall part hpart), fun c hc => (of_isAsciiDigit (h part hpart c hc)).1⟩
    rintro code rfl
    exact (of_isAsciiDigit (h _ hpart 'x' (by simp))).2.2.2 rfl
  · have hdirection : parts.any (·.any isRightToLeft) = false := by
      simp only [List.any_eq_false, Bool.not_eq_true]
      exact fun part hpart c hc => (of_isAsciiDigit (h part hpart c hc)).2.1
    have hallowed : ∀ c ∈ ['.'].intercalate parts, isForbidden c = false :=
      Text.forall_intercalate (by decide) fun part hpart c hc =>
        (of_isAsciiDigit (h part hpart c hc)).2.2.1
    rw [hself, hdirection, Bool.false_and, Bool.false_or]
    simpa using hallowed

end Estate.Domain
