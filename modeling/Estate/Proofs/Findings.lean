import Estate.Extraction
import Estate.Proofs.SearchOrder

/-!
What is found in a page for the rules of a mapping.

A rule comes to the same in a page whatever has been remembered of the page, so what is found for a
mapping is what is found for each of its rules by itself.
-/

namespace Estate

namespace Page.Memory

variable {p : Page}

lemma answers_mapM {α β : Type} {f : α → StateM Page.Memory β} {g : α → β}
    (h : ∀ a, Answers p (f a) (g a)) (as : List α) : Answers p (as.mapM f) (as.map g) := by
  induction as with
  | nil => exact answers_pure []
  | cons a as ih =>
    rw [List.mapM_cons]
    exact answers_bind (h a) (answers_bind ih (answers_pure _))

end Page.Memory

open Page.Memory

/-- What a rule comes to in a page. -/
def Rule.found (r : Rule) (p : Page) (c : Cardinality) : Resolution :=
  Resolution.ofNodes p c r.reachable

/-- What a rule for one value comes to in a page of which nothing is remembered. -/
def Rule.traced (r : Rule) (p : Page) : Resolution := ((r.trace p.rememberingReader).run .empty).1

section

variable (p : Page)

lemma Rule.answers_resolve (r : Rule) (c : Cardinality) :
    Answers p (r.resolve p.rememberingReader c) (r.found p c) := by
  have h := Resolution.answers_ofRule p c 0 r
  simp only [Nat.zero_add] at h
  exact h

lemma Rule.traced_eq (r : Rule) : r.traced p = r.found p .one :=
  (r.answers_resolve p .one .empty (faithful_empty p)).1

lemma Rule.answers_values (r : Rule) :
    Answers p (r.values p.rememberingReader) (r.found p .many).values :=
  answers_bind (r.answers_resolve p .many) (answers_pure _)

lemma Gallery.answers_pictures (policy : ImageUrl.Policy) (rules : List Rule) :
    Answers p (pictures p.rememberingReader policy rules)
      ((distinct (rules.map fun r => addresses p policy r (r.found p .many).values).flatten).map
        ofAddress) := by
  have hrule : ∀ r : Rule, Answers p
      (do return addresses p policy r (← r.values p.rememberingReader))
      (addresses p policy r (r.found p .many).values) := fun r =>
    answers_bind (r.answers_values p) (answers_pure _)
  exact answers_bind (answers_mapM hrule rules) (answers_pure _)

lemma Gallery.answers_features (rules : List Rule) :
    Answers p (features p.rememberingReader rules)
      (distinct (rules.map fun r => (r.found p .many).values).flatten) :=
  answers_bind (answers_mapM (fun r => r.answers_values p) rules) (answers_pure _)

/-- What is found for each rule of a mapping by itself. -/
def Findings.inPage (m : Mapping) (options : Options) : Findings where
  fields := m.fields.map fun f => (f, f.rule.found p .one)
  images := (Gallery.distinct (m.images.map fun r =>
    Gallery.addresses p options.imagePolicy r (r.found p .many).values).flatten).map
      Gallery.ofAddress
  features := Gallery.distinct (m.features.map fun r => (r.found p .many).values).flatten

lemma Findings.answers_ofReader (m : Mapping) (options : Options) :
    Answers p (ofReader p.rememberingReader m options) (inPage p m options) := by
  have hfield : ∀ f : Field, Answers p
      (do return (f, ← f.rule.trace p.rememberingReader)) (f, f.rule.found p .one) := fun f =>
    answers_bind (f.rule.answers_resolve p .one) (answers_pure _)
  exact answers_bind (answers_mapM hfield m.fields)
    (answers_bind (Gallery.answers_pictures p options.imagePolicy m.images)
      (answers_bind (Gallery.answers_features p m.features) (answers_pure _)))

lemma Findings.run_ofReader (m : Mapping) (options : Options) :
    ((ofReader p.rememberingReader m options).run .empty).1 = inPage p m options :=
  (answers_ofReader p m options .empty (faithful_empty p)).1

lemma Findings.fields_ofReader (m : Mapping) (options : Options) :
    ((ofReader p.rememberingReader m options).run .empty).1.fields =
      m.fields.map fun f => (f, f.rule.traced p) := by
  rw [run_ofReader]
  exact List.map_congr_left fun f _ => by rw [f.rule.traced_eq]

end

lemma Extraction.ofPage_eq (p : Page) (m : Mapping) (options : Options) :
    ofPage p m options = ofFindings p.address m options (.inPage p m options) := by
  have h := Findings.run_ofReader p m options
  unfold ofPage
  rw [← h]
  rfl

end Estate
