import Estate.Mapping.Load
import Estate.Proofs.Failure
import Estate.Proofs.SearchOrder
import Estate.Regex.Weight

/-!
How deep fallbacks nest in rules that were loaded.

Loading and resolution count depth each for itself. A rule that is accepted has the nodes that its
document has, and none of them beyond the bound, so that resolution never meets its own bound.
-/

namespace Estate

/-- What fallbacks stand at a way through a document. -/
def RuleDocument.at? (d : RuleDocument) : List Nat → Option RuleDocument
  | [] => some d
  | i :: path => match d with
    | .mk _ fallbacks => fallbacks[i]?.bind fun f => f.at? path

/-- The rules written in a document. -/
def MappingDocument.rules (doc : MappingDocument) : List RuleDocument :=
  (doc.textFields ++ doc.intFields ++ doc.floatFields ++ doc.booleanFields).map (·.2) ++
    doc.images ++ doc.features

/-- The rules of a mapping. -/
def Mapping.rules (m : Mapping) : List Rule := m.fields.map (·.rule) ++ m.images ++ m.features

/-- A rule that some loader has let pass, by itself or in a mapping. -/
inductive Rule.Accepted [Regex.Engine] (r : Rule) : Prop where
  | alone {field text : String} (h : Rule.ofText field text = .ok r)
  | strict {name text : String} {m : Mapping} (h : Mapping.ofText name text = .ok m)
    (hr : r ∈ m.rules)
  | lenient {name text : String} {m : Mapping} (h : Mapping.ofLenientText name text = .ok m)
    (hr : r ∈ m.rules)
  | value {name : String} {v : Json.Value} {m : Mapping} (h : Mapping.ofValue name v = .ok m)
    (hr : r ∈ m.rules)

namespace Resolution

variable {m : Type → Type} [Monad m]

mutual

/-- Resolve a rule with no bound on depth. -/
def ofRuleUnbounded (reader : Page.Reader m) (c : Cardinality) : Rule → m Resolution
  | .mk probe fallbacks => do
    (ofValues probe.locator.kind (← probe.values reader c)).orElse fun _ =>
      ofFallbacksUnbounded reader c 0 fallbacks

def ofFallbacksUnbounded (reader : Page.Reader m) (c : Cardinality) (i : Nat) :
    List Rule → m Resolution
  | [] => return nothing
  | r :: rs => do
    ((← ofRuleUnbounded reader c r).behind i).orElse fun _ =>
      ofFallbacksUnbounded reader c (i + 1) rs

end

end Resolution

namespace Rule

/-- Every node of the rule stands within the bound, the rule itself being at `depth`. -/
def Within (depth : Nat) (r : Rule) : Prop :=
  ∀ path, (r.at? path).isSome → depth + path.length ≤ maxDepth

lemma Within.root {depth : Nat} {r : Rule} (h : r.Within depth) : depth ≤ maxDepth := by
  simpa using h [] (by simp [at?])

lemma Within.fallback {depth : Nat} {r f : Rule} (h : r.Within depth) (hf : f ∈ r.fallbacks) :
    f.Within (depth + 1) := by
  intro path hp
  obtain ⟨i, hi⟩ := List.mem_iff_getElem?.1 hf
  have := h (i :: path) (by simpa [at?, hi] using hp)
  simp only [List.length_cons] at this
  omega

end Rule

namespace Resolution

variable {m : Type → Type} [Monad m]

mutual

/-- Within the bound the bound does nothing. -/
lemma ofRule_eq_unbounded (reader : Page.Reader m) (c : Cardinality) (depth : Nat) :
    ∀ r : Rule, r.Within depth → ofRule reader c depth r = ofRuleUnbounded reader c r
  | .mk probe fallbacks, h => by
    have hd : ¬ depth > Rule.maxDepth := by have := h.root; omega
    unfold ofRule ofRuleUnbounded
    rw [if_neg hd, ofFallbacks_eq_unbounded reader c (depth + 1) 0 fallbacks
      fun f hf => h.fallback (by simpa using hf)]

lemma ofFallbacks_eq_unbounded (reader : Page.Reader m) (c : Cardinality) (depth i : Nat) :
    ∀ rs : List Rule, (∀ f ∈ rs, f.Within depth) →
      ofFallbacks reader c depth i rs = ofFallbacksUnbounded reader c i rs
  | [], _ => by unfold ofFallbacks ofFallbacksUnbounded; rfl
  | r :: rs, h => by
    unfold ofFallbacks ofFallbacksUnbounded
    rw [ofRule_eq_unbounded reader c depth r (h r (by simp)),
      ofFallbacks_eq_unbounded reader c depth (i + 1) rs fun f hf => h f (by simp [hf])]

end

end Resolution

namespace Rule

open Failure

variable [Regex.Engine]

/-- All that loading of a rule checks and does. -/
lemma ofDocument_ok {field : String} {depth : Nat} {keys : RuleKeys}
    {fallbacks : List RuleDocument} {r : Rule}
    (h : ofDocument field depth (.mk keys fallbacks) = .ok r) :
    depth ≤ maxDepth ∧ ∃ probe loaded, keys.probe field = .ok probe ∧
      ofDocuments field (depth + 1) fallbacks = .ok loaded ∧ r = .mk probe loaded := by
  unfold ofDocument at h
  split at h
  · cases h
  · next hd =>
    obtain ⟨probe, hp, h⟩ := bind_ok.1 h
    obtain ⟨loaded, hl, h⟩ := bind_ok.1 h
    cases h
    exact ⟨by omega, probe, loaded, hp, hl, rfl⟩

lemma ofDocuments_ok {field : String} {depth : Nat} {ds : List RuleDocument} {rs : List Rule}
    (h : ofDocuments field depth ds = .ok rs) :
    List.Forall₂ (fun d r => ofDocument field depth d = .ok r) ds rs := by
  induction ds generalizing rs with
  | nil => cases h; exact .nil
  | cons d ds ih =>
    obtain ⟨r, hr, h⟩ := bind_ok.1 h
    obtain ⟨rs', hrs, h⟩ := bind_ok.1 h
    cases h
    exact .cons hr (ih hrs)

/-- A loaded rule has nodes where its document has, and they stand within the bound. -/
lemma at?_of_ofDocument {field : String} {depth : Nat} {d : RuleDocument} {r : Rule}
    (h : ofDocument field depth d = .ok r) (path : List Nat) :
    (d.at? path).isSome = (r.at? path).isSome ∧
      ((r.at? path).isSome → depth + path.length ≤ maxDepth) := by
  induction path generalizing depth d r with
  | nil =>
    obtain ⟨keys, fallbacks⟩ := d
    obtain ⟨hd, -⟩ := ofDocument_ok h
    exact ⟨rfl, fun _ => hd⟩
  | cons i path ih =>
    obtain ⟨keys, fallbacks⟩ := d
    obtain ⟨-, probe, loaded, -, hl, rfl⟩ := ofDocument_ok h
    have hall := List.forall₂_iff_get.1 (ofDocuments_ok hl)
    simp only [RuleDocument.at?, at?, fallbacks_mk]
    by_cases hi : i < fallbacks.length
    · have hi' : i < loaded.length := hall.1 ▸ hi
      obtain ⟨hsame, hbound⟩ := ih (hall.2 i hi hi')
      simp only [List.get_eq_getElem] at hsame hbound
      rw [List.getElem?_eq_getElem hi, List.getElem?_eq_getElem hi', Option.bind_some,
        Option.bind_some, hsame]
      refine ⟨rfl, fun hs => ?_⟩
      have := hbound hs
      simp only [List.length_cons]
      omega
    · have hi' : ¬ i < loaded.length := hall.1 ▸ hi
      rw [List.getElem?_eq_none (by omega), List.getElem?_eq_none (by omega)]
      simp

lemma within_of_ofDocument {field : String} {d : RuleDocument} {r : Rule}
    (h : ofDocument field 0 d = .ok r) : r.Within 0 :=
  fun path => (at?_of_ofDocument h path).2

/-- A document with a node past the bound gives no rule. -/
lemma ofDocument_ne_ok {field : String} {d : RuleDocument} {path : List Nat}
    (hp : maxDepth < path.length) (hd : (d.at? path).isSome) (r : Rule) :
    ofDocument field 0 d ≠ .ok r := by
  intro h
  obtain ⟨hsame, hbound⟩ := at?_of_ofDocument h path
  have := hbound (hsame ▸ hd)
  omega

end Rule

namespace Mapping

open Failure

variable [Regex.Engine]

/-- Rules stand for the documents they were loaded from. -/
def Load (ds : List RuleDocument) (rs : List Rule) : Prop :=
  List.Forall₂ (fun d r => ∃ field, Rule.ofDocument field 0 d = .ok r) ds rs

lemma load_group {docs : Keyed RuleDocument} {rules : Keyed Rule}
    (h : loadGroup docs = .ok rules) : Load (docs.map (·.2)) (rules.map (·.2)) := by
  unfold Load
  rw [List.forall₂_map_left_iff, List.forall₂_map_right_iff]
  refine (mapM_ok.1 h).imp fun e r hr => ?_
  obtain ⟨rule, hrule, hr⟩ := bind_ok.1 hr
  cases hr
  exact ⟨e.1, hrule⟩

lemma load_list {label : String} {docs : List RuleDocument} {rules : List Rule}
    (h : loadList label docs = .ok rules) : Load docs rules := by
  rw [← List.zipIdx_map_fst 0 docs]
  unfold Load
  rw [List.forall₂_map_left_iff]
  exact (mapM_ok.1 h).imp fun e r hr => ⟨_, hr⟩

lemma load_append {as bs : List RuleDocument} {rs ss : List Rule} (ha : Load as rs)
    (hb : Load bs ss) : Load (as ++ bs) (rs ++ ss) :=
  List.rel_append ha hb

/-- The rules of a loaded mapping are those of its document, all of them loaded. -/
lemma load_rules {name : String} {doc : MappingDocument} {m : Mapping}
    (h : ofDocument name doc = .ok m) : Load doc.rules m.rules := by
  unfold ofDocument at h
  extract_lets load at h
  have hload : load () = .ok m := by
    split at h
    · split at h
      · cases h
      · exact h
    · exact h
  obtain ⟨texts, ht, h⟩ := bind_ok.1 hload
  obtain ⟨ints, hi, h⟩ := bind_ok.1 h
  obtain ⟨floats, hfl, h⟩ := bind_ok.1 h
  obtain ⟨booleans, hb, h⟩ := bind_ok.1 h
  obtain ⟨images, him, h⟩ := bind_ok.1 h
  obtain ⟨features, hfe, h⟩ := bind_ok.1 h
  cases h
  simp only [MappingDocument.rules, rules, fields, group, List.map_append, List.map_map,
    Function.comp_def]
  exact load_append (load_append (load_append (load_append (load_append (load_group ht)
    (load_group hi)) (load_group hfl)) (load_group hb)) (load_list him)) (load_list hfe)

/-- The rules of an accepted mapping stand within the bound. -/
lemma within_of_ofTerm {name : String} {depth : Nat} {t : Json.Term} {m : Mapping}
    (h : ofTerm name depth t = .ok m) {r : Rule} (hr : r ∈ m.rules) : r.Within 0 := by
  unfold ofTerm at h
  split at h
  · obtain ⟨d, -, field, hd⟩ := forall₂_right (load_rules h) hr
    exact Rule.within_of_ofDocument hd
  · cases h

lemma within_of_ofText {name text : String} {m : Mapping} (h : ofText name text = .ok m)
    {r : Rule} (hr : r ∈ m.rules) : r.Within 0 := by
  unfold ofText at h
  split at h
  · exact within_of_ofTerm h hr
  · cases h

end Mapping

lemma Rule.Accepted.within [Regex.Engine] {r : Rule} (h : r.Accepted) : r.Within 0 := by
  cases h with
  | alone h =>
    unfold Rule.ofText Rule.ofTerm at h
    split at h
    · split at h
      · exact Rule.within_of_ofDocument h
      · cases h
    · cases h
  | strict h hr => exact Mapping.within_of_ofText h hr
  | lenient h hr => exact Mapping.within_of_ofText h hr
  | value h hr => exact Mapping.within_of_ofTerm h hr

/-- **One bound on nesting**: no node of an accepted rule is deeper than the bound, resolution of an
accepted rule is resolution with no bound, and what writes a rule with a node just past the bound is
accepted neither by itself nor in a mapping. -/
theorem accepted_within_bound [Regex.Engine] :
    (∀ r : Rule, r.Accepted →
      (∀ path, (r.at? path).isSome → path.length ≤ Rule.maxDepth) ∧
      ∀ {m : Type → Type} [Monad m] (reader : Page.Reader m) (c : Cardinality),
        r.resolve reader c = Resolution.ofRuleUnbounded reader c r) ∧
    ∀ (d : RuleDocument) (path : List Nat), path.length = Rule.maxDepth + 1 →
      (d.at? path).isSome →
      (∀ t, RuleDocument.ofTerm? Json.depthLimit t = some d →
        ∀ field r, Rule.ofTerm field t ≠ .ok r) ∧
      ∀ depth t doc, MappingDocument.ofTerm? depth t = some doc → d ∈ doc.rules →
        ∀ name m, Mapping.ofTerm name depth t ≠ .ok m := by
  refine ⟨fun r hr => ⟨fun path hp => ?_, fun reader c => ?_⟩, fun d path hlen hd => ?_⟩
  · simpa using hr.within path hp
  · exact Resolution.ofRule_eq_unbounded reader c 0 r hr.within
  · have hdeep : ∀ field r, Rule.ofDocument field 0 d ≠ .ok r := fun field r =>
      Rule.ofDocument_ne_ok (by omega) hd r
    refine ⟨fun t ht field r h => ?_, fun depth t doc ht hmem name m h => ?_⟩
    · rw [Rule.ofTerm, ht] at h
      exact hdeep field r h
    · rw [Mapping.ofTerm, ht] at h
      obtain ⟨r, -, field, hr⟩ := Failure.forall₂_left (Mapping.load_rules h) hmem
      exact hdeep field r hr

/-- A rule without a locator, with fallbacks nested so deep. -/
def nestedRule : Nat → Json.Value
  | 0 => .object []
  | n + 1 => .object [("fallbacks", .array [nestedRule n])]

theorem accepted_within_bound_nested :
    (∃ m, Mapping.ofValue "nested" (.object [("images", .array [nestedRule 10])]) = .ok m ∧
      ∃ r ∈ m.rules, (r.at? (List.replicate 10 0)).isSome ∧
        ∀ path, (r.at? path).isSome → path.length ≤ Rule.maxDepth) ∧
    ∃ d, RuleDocument.ofTerm? Json.depthLimit (.ofValue (nestedRule 11)) = some d ∧
      (d.at? (List.replicate 11 0)).isSome ∧
      ∀ field r, Rule.ofTerm field (.ofValue (nestedRule 11)) ≠ .ok r := by
  constructor
  · have h : (Mapping.ofValue "nested" (.object [("images", .array [nestedRule 10])])).toOption.any
        fun m => m.rules.any fun r => (r.at? (List.replicate 10 0)).isSome := by decide +kernel
    obtain ⟨m, hm, hrules⟩ := Failure.ok_of_any h
    obtain ⟨r, hr, hdeep⟩ := List.any_eq_true.1 hrules
    exact ⟨m, hm, r, hr, hdeep, (accepted_within_bound.1 r (.value hm hr)).1⟩
  · have h : (RuleDocument.ofTerm? Json.depthLimit (.ofValue (nestedRule 11))).any
        (fun d => (d.at? (List.replicate 11 0)).isSome) = true := by decide +kernel
    obtain ⟨d, hd, hdeep⟩ := (Option.any_eq_true _ _).1 h
    exact ⟨d, hd, hdeep, (accepted_within_bound.2 d _ (by decide) hdeep).1 _ hd⟩

end Estate
