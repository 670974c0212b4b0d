import Estate.Coverage
import Estate.Proofs.Binary64.Order
import Estate.Proofs.Retention

/-!
The score of a record.

Each field that is declared is either counted or listed as missing. A record that has content for
every declared field for which another has some scores no worse: in its counts, its rate and grade,
and against what is expected. Up to very many fields the grade is that of the exact share of them.
-/

namespace Estate

open Json

/-! ### Rates -/

namespace Coverage

open Binary64 (ofFraction?)

variable {p q t u : ℕ}

/-- A part of a whole has a nearest double, which is its rate. -/
lemma ofFraction?_part (h : p ≤ t) (ht : 0 < t) : ofFraction? false p t = some (rateOf p t) := by
  have hone : ofFraction? false 1 1 = some ⟨false, ⟨1023 * 2 ^ 52, by decide⟩⟩ := by decide
  have hle : (p : ℚ) / t ≤ (1 : ℕ) / (1 : ℕ) := by
    rw [Nat.cast_one, div_one, div_le_one (by exact_mod_cast ht)]
    exact_mod_cast h
  obtain ⟨x, hx, -⟩ := Binary64.ofFraction?_mono ht Nat.one_pos hle hone
  rw [rateOf, if_neg ht.ne', hx, Option.getD_some]

/-- A greater share has no smaller rate. -/
lemma rateOf_mono (hp : p ≤ t) (ht : 0 < t) (hq : q ≤ u) (hu : 0 < u) (h : p * u ≤ q * t) :
    (rateOf p t).le (rateOf q u) := by
  have hpart := ofFraction?_part hp ht
  have hother := ofFraction?_part hq hu
  have hle : (p : ℚ) / t ≤ q / u := by
    rw [div_le_div_iff₀ (by exact_mod_cast ht) (by exact_mod_cast hu)]
    exact_mod_cast h
  obtain ⟨x, hx, hcode⟩ := Binary64.ofFraction?_mono ht hu hle hother
  rw [hpart] at hx
  cases hx
  exact (Binary64.le_iff_code (Binary64.negative_ofFraction? hpart)
    (Binary64.negative_ofFraction? hother)).2 hcode

/-- Of the same whole a greater part has no smaller rate. -/
lemma rateOf_le (h : p ≤ q) (hq : q ≤ t) : (rateOf p t).le (rateOf q t) := by
  rcases Nat.eq_zero_or_pos t with rfl | ht
  · rw [rateOf, rateOf, if_pos rfl, if_pos rfl]
    decide
  · exact rateOf_mono (h.trans hq) ht hq ht (Nat.mul_le_mul_right _ h)

lemma tenths_eq_rateOf (n : ℕ) : Grade.tenths n = rateOf n 10 := rfl

/-- The numbers of tenths from which a better grade is given. -/
def steps : List ℕ := [8, 5, 2]

/-- Up to this many fields no share lies so close below a step that its rate reaches it. -/
def manyFields : ℕ := 2 ^ 48

/-- The rate reaches a step if and only if the share does. -/
lemma step_le_rateOf {n : ℕ} (hn : n ∈ steps) (hp : p ≤ t) (ht : 0 < t) (hmany : t ≤ manyFields) :
    (Grade.tenths n).le (rateOf p t) ↔ n * t ≤ 10 * p := by
  have hten : ∀ n ∈ steps, n ≤ 10 := by decide
  -- The greatest share below the step is too far below it.
  have hbelow : ∀ n ∈ steps, (Grade.tenths n).le (rateOf (n * manyFields - 1) (10 * manyFields)) =
      false := by decide
  have hhigh : n ≤ 10 := hten n hn
  have hpos : 0 < manyFields := by decide
  constructor
  · intro h
    by_contra! hlt
    have hgap : p * (10 * manyFields) ≤ (n * manyFields - 1) * t := by
      have hscaled := Nat.mul_le_mul_right manyFields (show 10 * p + 1 ≤ n * t from hlt)
      have hsplit : (n * manyFields - 1) * t = n * t * manyFields - t := by
        rw [Nat.sub_mul, Nat.one_mul, Nat.mul_right_comm]
      rw [hsplit]
      have hexpand : (10 * p + 1) * manyFields = p * (10 * manyFields) + manyFields := by ring
      omega
    have hpart : n * manyFields - 1 ≤ 10 * manyFields :=
      (Nat.sub_le _ _).trans (Nat.mul_le_mul_right _ hhigh)
    have hrate := rateOf_mono hp ht hpart (by omega) hgap
    have hreached := Binary64.le_of_le_of_le h hrate
    rw [hbelow n hn] at hreached
    cases hreached
  · intro h
    rw [tenths_eq_rateOf]
    exact rateOf_mono hhigh (by decide) hp ht (by omega)

lemma nonneg_rateOf (hp : p ≤ t) : (rateOf p t).negative = false := by
  rcases Nat.eq_zero_or_pos t with rfl | ht
  · rfl
  · exact Binary64.negative_ofFraction? (ofFraction?_part hp ht)

/-- What is met by a rate is met by a greater one. -/
lemma meets_mono {x y expected : Binary64} (hx : x.negative = false) (hy : y.negative = false)
    (h : x.le y) (hmeets : meets x expected) : meets y expected := by
  have htolerance : tolerance.negative = false := by decide
  have hcode := (Binary64.le_iff_code hx hy).1 h
  unfold meets at hmeets ⊢
  cases hsum : y.add? tolerance with
  | none => rfl
  | some w =>
    obtain ⟨v, hv, hvw⟩ := Binary64.add?_mono hx hy htolerance hcode hsum
    rw [hv] at hmeets
    exact Binary64.le_of_le_of_le hmeets hvw

end Coverage

/-! ### Grades -/

namespace Grade

/-- The place of a grade, the best one highest. -/
def rank : Grade → ℕ
  | a => 3
  | b => 2
  | c => 1
  | f => 0

/-- The grade of an exact share. -/
def ofShare (q : ℚ) : Grade :=
  if 8 / 10 ≤ q then a
  else if 5 / 10 ≤ q then b
  else if 2 / 10 ≤ q then c
  else f

lemma rank_ite_mono {p₈ p₅ p₂ q₈ q₅ q₂ : Prop} [Decidable p₈] [Decidable p₅] [Decidable p₂]
    [Decidable q₈] [Decidable q₅] [Decidable q₂] (h₈ : p₈ → q₈) (h₅ : p₅ → q₅) (h₂ : p₂ → q₂) :
    rank (if p₈ then a else if p₅ then b else if p₂ then c else f) ≤
      rank (if q₈ then a else if q₅ then b else if q₂ then c else f) := by
  split_ifs <;> simp_all [rank]

lemma rank_ofShare_mono {q r : ℚ} (h : q ≤ r) : rank (ofShare q) ≤ rank (ofShare r) :=
  rank_ite_mono (fun hq => hq.trans h) (fun hq => hq.trans h) (fun hq => hq.trans h)

lemma rank_ofRate_mono {x y : Binary64} (h : x.le y) : rank (ofRate x) ≤ rank (ofRate y) :=
  rank_ite_mono (fun hx => Binary64.le_of_le_of_le hx h) (fun hx => Binary64.le_of_le_of_le hx h)
    (fun hx => Binary64.le_of_le_of_le hx h)

open Coverage in
/-- The grade of a rate is that of the share. -/
lemma ofRate_rateOf {p t : ℕ} (hp : p ≤ t) (hmany : t ≤ manyFields) :
    ofRate (rateOf p t) = ofShare (p / t) := by
  rcases Nat.eq_zero_or_pos t with rfl | ht
  · obtain rfl : p = 0 := Nat.le_zero.1 hp
    have hzero : ofShare 0 = f := by norm_num [ofShare]
    rw [Nat.cast_zero, div_zero, hzero]
    decide
  · have hpos : (0 : ℚ) < t := by exact_mod_cast ht
    have hstep : ∀ n ∈ steps, (tenths n).le (rateOf p t) ↔ (n : ℚ) / 10 ≤ p / t := by
      intro n hn
      rw [step_le_rateOf hn hp ht hmany, div_le_div_iff₀ (by norm_num) hpos, mul_comm (p : ℚ)]
      norm_cast
    have h₈ := hstep 8 (by decide)
    have h₅ := hstep 5 (by decide)
    have h₂ := hstep 2 (by decide)
    unfold ofRate ofShare
    simp only [h₈, h₅, h₂]
    norm_num

end Grade

/-! ### Counts -/

namespace Coverage

variable (m : Mapping) (record : Members)

lemma length_declared : (declared m).length = m.totalFields := by
  unfold declared Mapping.totalFields
  split <;> split <;> simp

lemma length_missingFrom : (missingFrom record m).length ≤ (declared m).length :=
  List.length_filter_le _ _

/-- A field is missing as often as it is declared, or not at all. -/
lemma count_missingFrom (name : String) :
    (missingFrom record m).count name =
      if record.Has name then 0 else (declared m).count name := by
  unfold missingFrom
  split
  · next h =>
    rw [List.count_eq_zero, List.mem_filter]
    rintro ⟨-, hmissing⟩
    have hany : (Keyed.get? record name).any Value.isPopulated = true := h
    simp [hany] at hmissing
  · next h =>
    have hany : ¬ (Keyed.get? record name).any Value.isPopulated = true := h
    exact List.count_filter (by simpa using hany)

/-- The exact share of the fields that are populated. -/
def share (c : Coverage) : ℚ := c.populated / c.total

/-- The fields that a mapping declares are each counted or missing. -/
structure Accounts (c : Coverage) : Prop where
  total : c.total = m.totalFields
  groups : m.totalFields = m.textFields.length + m.intFields.length + m.floatFields.length +
    m.booleanFields.length + (if m.images = [] then 0 else 1) + (if m.features = [] then 0 else 1)
  counted : c.populated + c.missing.length = c.total
  order : c.missing.Sublist (declared m)
  missed : ∀ name, c.missing.count name = if record.Has name then 0 else (declared m).count name

lemma accounts_assess : Accounts m record (assess record m) where
  total := length_declared m
  groups := by simp [Mapping.totalFields, Mapping.fields, Mapping.group, Nat.add_assoc]
  counted := Nat.sub_add_cancel (length_missingFrom m record)
  order := List.filter_sublist
  missed := count_missingFrom m record

/-- One score is no worse than another. -/
structure NoWorse (c d : Coverage) : Prop where
  populated : c.populated ≤ d.populated
  missing : d.missing.Sublist c.missing
  rate : c.rate.le d.rate
  grade : c.grade.rank ≤ d.grade.rank
  gradeOfShare : (Grade.ofShare c.share).rank ≤ (Grade.ofShare d.share).rank
  expected : c.meetsExpectation.isSome = d.meetsExpectation.isSome
  expectation : c.meetsExpectation = some true → d.meetsExpectation = some true

variable {m record} {other : Members}

lemma sublist_missingFrom (h : ∀ name ∈ declared m, record.Has name → other.Has name) :
    (missingFrom other m).Sublist (missingFrom record m) := by
  have hsub : missingFrom other m = (missingFrom record m).filter
      fun name => !(Keyed.get? other name).any Value.isPopulated := by
    unfold missingFrom
    rw [List.filter_filter]
    refine List.filter_congr fun name hname => ?_
    have himp : (Keyed.get? record name).any Value.isPopulated = true →
        (Keyed.get? other name).any Value.isPopulated = true := h name hname
    revert himp
    cases (Keyed.get? record name).any Value.isPopulated <;>
      cases (Keyed.get? other name).any Value.isPopulated <;> simp
  rw [hsub]
  exact List.filter_sublist

lemma noWorse_assess (h : ∀ name ∈ declared m, record.Has name → other.Has name) :
    (assess record m).NoWorse (assess other m) := by
  have hmissing := sublist_missingFrom h
  have hpopulated : (assess record m).populated ≤ (assess other m).populated :=
    Nat.sub_le_sub_left hmissing.length_le _
  have hfirst : (assess record m).populated ≤ (declared m).length := Nat.sub_le _ _
  have hsecond : (assess other m).populated ≤ (declared m).length := Nat.sub_le _ _
  have hrate : (assess record m).rate.le (assess other m).rate := rateOf_le hpopulated hsecond
  have hshare : (assess record m).share ≤ (assess other m).share := by
    have hcast : ((assess record m).populated : ℚ) ≤ (assess other m).populated := by
      exact_mod_cast hpopulated
    exact div_le_div_of_nonneg_right hcast (Nat.cast_nonneg _)
  refine ⟨hpopulated, hmissing, hrate, Grade.rank_ofRate_mono hrate,
    Grade.rank_ofShare_mono hshare, by simp [assess], ?_⟩
  intro hmeets
  obtain ⟨expected, hexpected, hmet⟩ := Option.map_eq_some_iff.1 hmeets
  refine Option.map_eq_some_iff.2 ⟨expected, hexpected, ?_⟩
  exact meets_mono (nonneg_rateOf hfirst) (nonneg_rateOf hsecond) hrate hmet

end Coverage

/-- **Every field counts once**: what a mapping declares is counted or missing, the missing fields
in the order of declaration, and the grade is that of the exact share. A record that has content
wherever another has it, among the declared fields, scores no worse. -/
theorem score_accounts_and_grows (m : Mapping) (record : Members) :
    let c := Coverage.assess record m
    Coverage.Accounts m record c ∧
    (c.total ≤ Coverage.manyFields → c.grade = Grade.ofShare c.share) ∧
    ∀ other : Members, (∀ name ∈ Coverage.declared m, record.Has name → other.Has name) →
      c.NoWorse (Coverage.assess other m) := by
  intro c
  refine ⟨Coverage.accounts_assess m record, fun hmany => ?_,
    fun other h => Coverage.noWorse_assess h⟩
  exact Grade.ofRate_rateOf (Nat.sub_le _ _) hmany

/-- A field that is declared as a text and as an integer, one more integer, and pictures. -/
def declaredTwice : Mapping :=
  { Mapping.ofTexts [("title", unsetRule)] [] with
    intFields := [("rooms", unsetRule), ("title", unsetRule)]
    images := [unsetRule]
    expectedRate := some (Grade.tenths 5) }

theorem score_accounts_and_grows_twice :
    let m := declaredTwice
    let record : Members := [("rooms", .ofInt 0)]
    let other : Members :=
      [("image_urls", .ofStrings []), ("rooms", .ofInt 3), ("title", .string "Flat")]
    let c := Coverage.assess record m
    c.total ≤ Coverage.manyFields ∧
      (∀ name ∈ Coverage.declared m, record.Has name → other.Has name) ∧
      c.missing = ["title", "title", imagesKey] ∧ c.grade = Grade.ofShare c.share ∧
      c.NoWorse (Coverage.assess other m) := by
  intro m record other c
  have hmany : c.total ≤ Coverage.manyFields := by decide
  have hmore : ∀ name ∈ Coverage.declared m, record.Has name → other.Has name := by decide
  obtain ⟨-, hgrade, hgrows⟩ := score_accounts_and_grows m record
  exact ⟨hmany, hmore, by decide, hgrade hmany, hgrows other hmore⟩

end Estate
