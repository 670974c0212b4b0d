import Mathlib.Data.List.Induction
import Mathlib.Data.List.Nodup
import Estate.Proofs.Findings

/-!
Pictures and features gathered over several rules.

What rules give together is what the first of them give, and then what the others give that is new.
So each address and each label is there once, and the way one rule looks for its pictures shows in
no pictures but its own.
-/

namespace Estate.Gallery

/-! ### Texts kept once -/

lemma distinct_concat (texts : List String) (s : String) :
    distinct (texts ++ [s]) =
      if s ∈ distinct texts then distinct texts else distinct texts ++ [s] := by
  simp [distinct]

lemma mem_distinct {s : String} {texts : List String} : s ∈ distinct texts ↔ s ∈ texts := by
  induction texts using List.reverseRecOn with
  | nil => rfl
  | append_singleton texts t ih =>
    have hmem : s ∈ distinct (texts ++ [t]) ↔ s ∈ distinct texts ∨ s = t := by
      rw [distinct_concat]
      split
      · next ht => exact ⟨.inl, fun h => h.elim id fun heq => heq ▸ ht⟩
      · simp
    rw [hmem, ih, List.mem_append, List.mem_singleton]

lemma nodup_distinct (texts : List String) : (distinct texts).Nodup := by
  induction texts using List.reverseRecOn with
  | nil => exact List.nodup_nil
  | append_singleton texts t ih =>
    rw [distinct_concat]
    split
    · exact ih
    · next ht => simpa [List.nodup_append] using ⟨ih, fun a ha heq => ht (heq ▸ ha)⟩

lemma distinct_filter (keep : String → Bool) (texts : List String) :
    distinct (texts.filter keep) = (distinct texts).filter keep := by
  induction texts using List.reverseRecOn with
  | nil => rfl
  | append_singleton texts t ih =>
    rw [List.filter_append, distinct_concat]
    cases hkeep : keep t with
    | false => split <;> simp [hkeep, ih]
    | true =>
      rw [List.filter_singleton, hkeep, cond_true, distinct_concat, ih]
      split <;> simp_all

lemma distinct_append (as bs : List String) :
    distinct (as ++ bs) = distinct as ++ (distinct bs).filter (· ∉ distinct as) := by
  induction bs using List.reverseRecOn with
  | nil => simp [distinct]
  | append_singleton bs t ih =>
    rw [← List.append_assoc, distinct_concat, distinct_concat, ih]
    by_cases hbs : t ∈ distinct bs
    · by_cases has : t ∈ distinct as <;> simp [hbs, has]
    · by_cases has : t ∈ distinct as <;> simp [hbs, has]

/-! ### Rules gathered -/

variable {p : Page}

/-- What may be remembered of a page. -/
abbrev Remembered (p : Page) := {m : Page.Memory // m.Faithful p}

instance : Inhabited (Remembered p) := ⟨.empty, Page.Memory.faithful_empty p⟩

/-- The pictures of rules in a page of which something may be remembered. -/
def picturesOf (policy : ImageUrl.Policy) (rules : List Rule) (m : Remembered p) : List Picture :=
  ((pictures p.rememberingReader policy rules).run m.1).1

/-- The features of rules in a page of which something may be remembered. -/
def featuresOf (rules : List Rule) (m : Remembered p) : List String :=
  ((features p.rememberingReader rules).run m.1).1

/-- The addresses that a rule by itself leads to. -/
def addressesOf (p : Page) (policy : ImageUrl.Policy) (r : Rule) : List String :=
  addresses p policy r (r.found p .many).values

lemma picturesOf_eq (policy : ImageUrl.Policy) (rules : List Rule) (m : Remembered p) :
    picturesOf policy rules m =
      (distinct (rules.flatMap (addressesOf p policy))).map ofAddress := by
  rw [picturesOf, (answers_pictures p policy rules m.1 m.2).1, List.flatMap_def]
  rfl

lemma featuresOf_eq (rules : List Rule) (m : Remembered p) :
    featuresOf rules m = distinct (rules.flatMap fun r => (r.found p .many).values) := by
  rw [featuresOf, (answers_features p rules m.1 m.2).1, List.flatMap_def]

lemma addresses_picturesOf (policy : ImageUrl.Policy) (rules : List Rule) (m : Remembered p) :
    (picturesOf policy rules m).map Picture.address =
      distinct (rules.flatMap (addressesOf p policy)) := by
  rw [picturesOf_eq, List.map_map]
  exact List.map_id _

lemma picturesOf_append (policy : ImageUrl.Policy) (as bs : List Rule) (m m₁ m₂ : Remembered p) :
    picturesOf policy (as ++ bs) m = picturesOf policy as m₁ ++
      (picturesOf policy bs m₂).filter
        (·.address ∉ (picturesOf policy as m₁).map Picture.address) := by
  rw [addresses_picturesOf]
  simp only [picturesOf_eq, List.flatMap_append, distinct_append, List.map_append, List.filter_map]
  rfl

lemma featuresOf_append (as bs : List Rule) (m m₁ m₂ : Remembered p) :
    featuresOf (as ++ bs) m =
      featuresOf as m₁ ++ (featuresOf bs m₂).filter (· ∉ featuresOf as m₁) := by
  simp only [featuresOf_eq, List.flatMap_append, distinct_append]

/-- What two rules lead to by themselves left out, either may stand among other rules. -/
lemma picturesOf_others (policy : ImageUrl.Policy) (as bs : List Rule) (r r' : Rule)
    (m m₁ m₂ : Remembered p) :
    let own := (picturesOf policy [r, r'] m).map Picture.address
    (picturesOf policy (as ++ r :: bs) m₁).filter (·.address ∉ own) =
      (picturesOf policy (as ++ r' :: bs) m₂).filter (·.address ∉ own) := by
  intro own
  have hown : ∀ s, s ∈ own ↔ s ∈ addressesOf p policy r ∨ s ∈ addressesOf p policy r' := by
    intro s
    simp [own, addresses_picturesOf, mem_distinct]
  have hnone : ∀ q, q = r ∨ q = r' → (addressesOf p policy q).filter (· ∉ own) = [] := by
    intro q hq
    rw [List.filter_eq_nil_iff]
    intro s hs
    rcases hq with rfl | rfl <;> simp [hown, hs]
  have hothers : ∀ q, q = r ∨ q = r' → ∀ m : Remembered p,
      (picturesOf policy (as ++ q :: bs) m).filter (·.address ∉ own) =
        (distinct (((as ++ bs).flatMap (addressesOf p policy)).filter (· ∉ own))).map
          ofAddress := by
    intro q hq m
    have hrest : ((as ++ q :: bs).flatMap (addressesOf p policy)).filter (· ∉ own) =
        ((as ++ bs).flatMap (addressesOf p policy)).filter (· ∉ own) := by
      simp only [List.flatMap_append, List.flatMap_cons, List.filter_append, hnone q hq,
        List.nil_append]
    rw [← hrest, distinct_filter, picturesOf_eq, List.filter_map]
    rfl
  rw [hothers r (.inl rfl), hothers r' (.inr rfl)]

/-- **Lists of rules compose**: rules for pictures give what the first of them give and then what
the others give that is new, in order, whatever is remembered of the page; no address is there
twice; and the same holds of features. Where one rule takes the place of another, for instance with
other replacements or another beginning of paths, the pictures to which neither leads stay as they
are. -/
theorem lists_compose (p : Page) (policy : ImageUrl.Policy) (as bs : List Rule)
    (m m₁ m₂ : Remembered p) :
    picturesOf policy (as ++ bs) m = picturesOf policy as m₁ ++
        (picturesOf policy bs m₂).filter
          (·.address ∉ (picturesOf policy as m₁).map Picture.address) ∧
      ((picturesOf policy as m).map Picture.address).Nodup ∧
      featuresOf (as ++ bs) m =
        featuresOf as m₁ ++ (featuresOf bs m₂).filter (· ∉ featuresOf as m₁) ∧
      (featuresOf as m).Nodup ∧
      ∀ r r' : Rule, let own := (picturesOf policy [r, r'] m).map Picture.address
        (picturesOf policy (as ++ r :: bs) m₁).filter (·.address ∉ own) =
          (picturesOf policy (as ++ r' :: bs) m₂).filter (·.address ∉ own) := by
  refine ⟨picturesOf_append policy as bs m m₁ m₂, ?_, featuresOf_append as bs m m₁ m₂, ?_,
    fun r r' => picturesOf_others policy as bs r r' m m₁ m₂⟩
  · rw [addresses_picturesOf]
    exact nodup_distinct _
  · rw [featuresOf_eq]
    exact nodup_distinct _

end Estate.Gallery
