import Mathlib.Tactic.Lemma
import Estate.Fingerprint
import Estate.Proofs.Binary64.Rounding
import Estate.Proofs.Text.Ascii
import Estate.Proofs.Text.Cutting

/-!
Coordinates in fingerprints.

A coordinate is written with four places, be it given as a number or as a decimal, so that two
listings whose coordinates round to the same numbers are digested alike. The sign is written also
where nothing but zeros is left: a place just off the equator or the prime meridian on the one side
is told from the same place on the other side.
-/

namespace Estate.Binary64

/-! ### Numbers with a fixed number of places -/

/-- Numbers with one sign and the same units are written alike. -/
lemma toFixed_congr {places : ℕ} {x y : Binary64} (hsign : x.negative = y.negative)
    (hunits : x.units places = y.units places) : x.toFixed places = y.toFixed places := by
  unfold units at hunits
  unfold toFixed
  dsimp only
  rw [hsign, hunits]

/-- Where nothing but zeros is left the sign is still written. -/
lemma toFixed_zero {x : Binary64} (h : x.units 4 = 0) :
    x.toFixed 4 = if x.negative then "-0.0000" else "0.0000" := by
  unfold units at h
  unfold toFixed
  dsimp only
  rw [h]
  cases x.negative <;> decide

/-- Numbers that are the same with four places are written alike, unless zeros are left of them and
their signs differ. -/
lemma toFixed_eq_iff {x y : Binary64} (h : x.fixed 4 = y.fixed 4) :
    x.toFixed 4 = y.toFixed 4 ↔ (x.fixed 4 = 0 → x.negative = y.negative) := by
  unfold fixed at h ⊢
  constructor
  · intro hsame hzero
    have hx : x.units 4 = 0 := by
      split at hzero <;> omega
    have hy : y.units 4 = 0 := by
      split at h <;> split at h <;> omega
    rw [toFixed_zero hx, toFixed_zero hy] at hsame
    cases hxs : x.negative <;> cases hys : y.negative <;> simp [hxs, hys] at hsame ⊢
  · intro hzero
    have hsign : x.negative = y.negative := by
      by_contra hsign
      refine hsign (hzero ?_)
      cases hxs : x.negative <;> cases hys : y.negative <;> simp [hxs, hys] at h hsign ⊢ <;> omega
    refine toFixed_congr hsign ?_
    rw [hsign] at h
    split at h <;> omega

end Estate.Binary64

namespace Estate.Fingerprint

open Binary64 (Rounds)

/-! ### Coordinates as they are given -/

/-- The double that a listing gives for a coordinate, as a number or as a decimal. -/
def coordinate? (record : Json.Members) (field : String) : Option Binary64 :=
  (Keyed.get? record field).bind fun v =>
    match v with
    | .number n => some n.toBinary64
    | .string s => (Binary64.literal? (Text.trim s.toList)).bind Binary64.Literal.toBinary64?
    | _ => none

/-- A text without its sign, and whether the sign is a minus. -/
def unsigned (cs : List Char) : Bool × List Char :=
  match cs with
  | '-' :: rest => (true, rest)
  | '+' :: rest => (false, rest)
  | _ => (false, cs)

lemma unsigned_eq (cs : List Char) : unsigned cs =
    match cs with
    | '-' :: rest => (true, rest)
    | '+' :: rest => (false, rest)
    | cs => (false, cs) := by
  unfold unsigned
  split <;> rfl

/-- Behind its sign a decimal starts with a digit or the point. -/
lemma literal?_start {cs : List Char} {l : Binary64.Literal} (h : Binary64.literal? cs = some l) :
    ∃ c rest, (unsigned cs).2 = c :: rest ∧ (Text.isAsciiDigit c ∨ c = '.') := by
  unfold Binary64.literal? at h
  split at h
  next negative body hbody =>
  have hunsigned : unsigned cs = (negative, body) := hbody
  rw [hunsigned]
  rcases body with _ | ⟨c, rest⟩
  · cases h
  · refine ⟨c, rest, rfl, ?_⟩
    by_contra hstart
    rw [not_or, Bool.not_eq_true] at hstart
    have hspan : Binary64.spanDigits (c :: rest) = ([], c :: rest) := by
      rw [Binary64.spanDigits, List.span_eq_takeWhile_dropWhile,
        List.takeWhile_cons_of_neg (by simp [hstart.1]),
        List.dropWhile_cons_of_neg (by simp [hstart.1])]
    rw [hspan] at h
    dsimp only at h
    split at h
    · next heq => exact hstart.2 (List.cons.inj heq).1
    · cases h

/-- A start of a decimal is no letter. -/
lemma lowerAscii_start {c : Char} (h : Text.isAsciiDigit c ∨ c = '.') :
    Text.lowerAscii c ≠ 'i' ∧ Text.lowerAscii c ≠ 'n' := by
  have hlow : c.toNat < 58 := by
    rcases h with h | rfl
    · have := (Text.toNat_between h).2
      simp only [Char.reduceToNat] at this
      omega
    · decide
  exact Text.forall_below (p := fun c => Text.lowerAscii c ≠ 'i' ∧ Text.lowerAscii c ≠ 'n')
    (by decide) hlow

/-- A decimal is none of the words for what is not finite. -/
lemma reading?_literal {t : String} {l : Binary64.Literal} {x : Binary64}
    (h : Binary64.literal? t.toList = some l) (hx : l.toBinary64? = some x) :
    reading? t = some (.finite x) := by
  obtain ⟨c, rest, hbody, hstart⟩ := literal?_start h
  obtain ⟨hi, hn⟩ := lowerAscii_start hstart
  unfold reading?
  split
  next negative body hsplit =>
  rw [(unsigned_eq t.toList).trans hsplit] at hbody
  cases hbody
  have hword {w : String} (hw : w.toList.head? = some 'i' ∨ w.toList.head? = some 'n') :
      (String.ofList ((c :: rest).map Text.lowerAscii) == w) = false := by
    rw [beq_eq_false_iff_ne]
    rintro rfl
    simp [hi, hn] at hw
  dsimp only
  rw [hword (.inl rfl), hword (.inl rfl), hword (.inr rfl), h]
  simp [hx]

lemma fieldText?_coordinate {record : Json.Members} {field : String} {x : Binary64}
    (hfield : isCoordinate field) (h : coordinate? record field = some x) :
    fieldText? record field = some (x.toFixed 4) := by
  obtain ⟨v, hv, h⟩ := Option.bind_eq_some_iff.1 h
  rw [fieldText?, hv, Option.bind_some]
  cases v with
  | number n =>
    cases h
    simp only [canonical?, hfield, if_true]
  | string s =>
    obtain ⟨l, hl, hx⟩ := Option.bind_eq_some_iff.1 h
    rw [← String.toList_ofList (l := Text.trim s.toList), ← Text.trimmed] at hl
    have hread : reading? (Text.trimmed s) = some (.finite x) := reading?_literal hl hx
    have hne : (Text.trimmed s).isEmpty = false := by
      rw [Bool.eq_false_iff, ne_eq, String.isEmpty_iff]
      intro hempty
      rw [hempty] at hl
      cases hl
    have hfilled : Text.nonBlank? s = some (Text.trimmed s) := by
      rw [Text.nonBlank?, hne]
      rfl
    simp only [canonical?, hfilled, hfield, if_true, Option.map_some, hread, Reading.written]
  | _ => cases h

/-! ### Streams -/

/-- The lines of listings that have texts for the same fields are the same if the texts are. -/
lemma stream_eq_iff {a b : Json.Members}
    (h : ∀ field ∈ identityFields, (fieldText? a field).isSome = (fieldText? b field).isSome) :
    stream a = stream b ↔ ∀ field ∈ identityFields, fieldText? a field = fieldText? b field := by
  unfold stream
  generalize identityFields = fields at h ⊢
  induction fields with
  | nil => simp
  | cons field fields ih =>
    obtain ⟨hfield, hfields⟩ := List.forall_mem_cons.1 h
    rw [List.forall_mem_cons, ← ih hfields, List.filterMap_cons, List.filterMap_cons]
    cases ha : fieldText? a field <;> cases hb : fieldText? b field <;> simp [ha, hb] at hfield
    · simp
    · simp [String.append_assoc]

/-- The numbers round to the same one with four places. -/
def Agree (x y : Binary64) : Prop := ∃ n, Rounds 4 x n ∧ Rounds 4 y n

/-- Numbers of which nothing but zeros is left are on the same side of zero. -/
def SameSide (x y : Binary64) : Prop := Rounds 4 x 0 → x.negative = y.negative

lemma agree_iff {x y : Binary64} : Agree x y ↔ x.fixed 4 = y.fixed 4 := by
  simp [Agree, Binary64.rounds_iff]

lemma toFixed_eq_iff_sameSide {x y : Binary64} (h : Agree x y) :
    x.toFixed 4 = y.toFixed 4 ↔ SameSide x y := by
  rw [Binary64.toFixed_eq_iff (agree_iff.1 h), SameSide, Binary64.rounds_iff, eq_comm]

section

variable {a b : Json.Members}

/-- A coordinate has one text in two listings if it is on one side of zero in both. -/
lemma fieldText?_eq_iff {field : String} (hfield : isCoordinate field)
    (h : ∃ x ∈ coordinate? a field, ∃ y ∈ coordinate? b field, Agree x y) :
    ((fieldText? a field).isSome = (fieldText? b field).isSome) ∧
      (fieldText? a field = fieldText? b field ↔
        ∀ x ∈ coordinate? a field, ∀ y ∈ coordinate? b field, SameSide x y) := by
  obtain ⟨x, hx, y, hy, hagree⟩ := h
  rw [fieldText?_coordinate hfield hx, fieldText?_coordinate hfield hy, Option.some.injEq,
    toFixed_eq_iff_sameSide hagree, hx, hy]
  simp

/-- **Coordinates count as far as they are rounded**: two listings with the same texts in all other
fields, whose coordinates, given as numbers or as decimals, round to the same numbers of four
places, are digested alike, and have one fingerprint, where no coordinate that rounds to zero is
negative in one of them and positive in the other; where one is, what is digested differs. -/
theorem digested_as_rounded
    (hothers : ∀ field ∈ identityFields, isCoordinate field = false →
      fieldText? a field = fieldText? b field)
    (hcoordinates : ∀ field ∈ identityFields, isCoordinate field →
      ∃ x ∈ coordinate? a field, ∃ y ∈ coordinate? b field, Agree x y) :
    (stream a = stream b ↔ ∀ field ∈ identityFields, isCoordinate field →
      ∀ x ∈ coordinate? a field, ∀ y ∈ coordinate? b field, SameSide x y) ∧
    ((∀ field ∈ identityFields, isCoordinate field →
      ∀ x ∈ coordinate? a field, ∀ y ∈ coordinate? b field, SameSide x y) →
        compute? a = compute? b) := by
  have hpresent : ∀ field ∈ identityFields,
      (fieldText? a field).isSome = (fieldText? b field).isSome := fun field hmem => by
    cases hfield : isCoordinate field with
    | false => rw [hothers field hmem hfield]
    | true => exact (fieldText?_eq_iff hfield (hcoordinates field hmem hfield)).1
  have hstream : stream a = stream b ↔ ∀ field ∈ identityFields, isCoordinate field →
      ∀ x ∈ coordinate? a field, ∀ y ∈ coordinate? b field, SameSide x y := by
    rw [stream_eq_iff hpresent]
    refine forall₂_congr fun field hmem => ?_
    cases hfield : isCoordinate field with
    | false => simp [hothers field hmem hfield]
    | true => simpa using (fieldText?_eq_iff hfield (hcoordinates field hmem hfield)).2
  refine ⟨hstream, fun hside => ?_⟩
  rw [compute?, compute?, hstream.2 hside]

end

/-- A flat in Greenwich. -/
def greenwich (latitude longitude : Json.Value) : Json.Members :=
  [("city", .string "London"), ("latitude", latitude), ("longitude", longitude)]

/-- The double nearest to a number of millionths. -/
def millionths (negative : Bool) (n : ℕ) : Json.Value :=
  .number (.float ((Binary64.ofFraction? negative n (10 ^ 6)).getD .zero))

/-- Whether two listings agree on a coordinate can be evaluated. -/
lemma exists_agree {a b : Json.Members} {field : String}
    (h : (coordinate? a field).any fun x => (coordinate? b field).any fun y =>
      x.fixed 4 == y.fixed 4) :
    ∃ x ∈ coordinate? a field, ∃ y ∈ coordinate? b field, Agree x y := by
  obtain ⟨x, hx, h⟩ := (Option.any_eq_true _ _).1 h
  obtain ⟨y, hy, h⟩ := (Option.any_eq_true _ _).1 h
  exact ⟨x, hx, y, hy, agree_iff.2 (beq_iff_eq.1 h)⟩

theorem digested_as_rounded_noise :
    let a := greenwich (millionths false 51477928) (.string "-0.000052")
    let b := greenwich (.string " +51.4779") (millionths true 149)
    (∀ field ∈ identityFields, isCoordinate field = false →
      fieldText? a field = fieldText? b field) ∧
    (∀ field ∈ identityFields, isCoordinate field →
      ∃ x ∈ coordinate? a field, ∃ y ∈ coordinate? b field, Agree x y) ∧
    compute? a = compute? b := by
  intro a b
  have hothers : ∀ field ∈ identityFields, isCoordinate field = false →
      fieldText? a field = fieldText? b field := by decide +kernel
  obtain ⟨hrounded, hsigns⟩ : (∀ field ∈ identityFields, isCoordinate field →
      (coordinate? a field).any fun x => (coordinate? b field).any fun y =>
        x.fixed 4 == y.fixed 4) ∧
      ∀ field ∈ identityFields, isCoordinate field →
        ∀ x ∈ coordinate? a field, ∀ y ∈ coordinate? b field, x.negative = y.negative := by
    decide +kernel
  have hcoordinates : ∀ field ∈ identityFields, isCoordinate field →
      ∃ x ∈ coordinate? a field, ∃ y ∈ coordinate? b field, Agree x y :=
    fun field hmem hfield => exists_agree (hrounded field hmem hfield)
  exact ⟨hothers, hcoordinates, (digested_as_rounded hothers hcoordinates).2
    fun field hmem hfield x hx y hy _ => hsigns field hmem hfield x hx y hy⟩

/-- The same place with four places, on the one side of the meridian and on the other. -/
theorem meridian_parts :
    let a := greenwich (.string "51.4779") (millionths true 10)
    let b := greenwich (.string "51.4779") (millionths false 10)
    (∀ field ∈ identityFields, isCoordinate field = false →
      fieldText? a field = fieldText? b field) ∧
    (∀ field ∈ identityFields, isCoordinate field →
      ∃ x ∈ coordinate? a field, ∃ y ∈ coordinate? b field, Agree x y) ∧
    compute? a ≠ compute? b := by
  intro a b
  have hall : ∀ field ∈ identityFields, isCoordinate field →
      (coordinate? a field).any fun x => (coordinate? b field).any fun y =>
        x.fixed 4 == y.fixed 4 := by decide +kernel
  exact ⟨by decide +kernel, fun field hmem hfield => exists_agree (hall field hmem hfield),
    by decide +kernel⟩

end Estate.Fingerprint
