import Mathlib.Data.List.Forall2
import Estate.Extraction.Report
import Estate.Proofs.Findings
import Estate.Proofs.Influence.Drafts

/-!
What the rule of a field has influence on.

Other rules for a field change its value and its trace. Unless other keys follow from that field,
the record is the same but for it, whatever comes of its rules.
-/

namespace Estate

/-- The rules are the same for every name but one. -/
def Keyed.SameBut (name : String) (rules others : Keyed Rule) : Prop :=
  List.Forall₂ (fun a b => a.1 = b.1 ∧ (a.1 ≠ name → a.2 = b.2)) rules others

/-- Two mappings differ in nothing but the rules for the fields of one name. -/
structure Mapping.SameBut (name : String) (m n : Mapping) : Prop where
  mappingName : m.name = n.name
  textFields : Keyed.SameBut name m.textFields n.textFields
  intFields : Keyed.SameBut name m.intFields n.intFields
  floatFields : Keyed.SameBut name m.floatFields n.floatFields
  booleanFields : Keyed.SameBut name m.booleanFields n.booleanFields
  images : m.images = n.images
  features : m.features = n.features
  defaultValues : m.defaultValues = n.defaultValues
  expectedRate : m.expectedRate = n.expectedRate
  portal : m.portal = n.portal

/-- The same field, unless it is of the name. -/
def Field.SameBut (name : String) (f g : Field) : Prop := f.name = g.name ∧ (f.name ≠ name → f = g)

variable {name : String} {m n : Mapping}

lemma Mapping.sameBut_group (kind : FieldKind) {rules others : Keyed Rule}
    (h : Keyed.SameBut name rules others) :
    List.Forall₂ (Field.SameBut name) (group kind rules) (group kind others) := by
  unfold group
  rw [List.forall₂_map_left_iff, List.forall₂_map_right_iff]
  refine h.imp fun a b ⟨hname, hrule⟩ => ⟨hname, fun hother => ?_⟩
  dsimp only at hother ⊢
  rw [hname, hrule hother]

lemma Mapping.SameBut.fields (h : m.SameBut name n) :
    List.Forall₂ (Field.SameBut name) m.fields n.fields :=
  List.rel_append (List.rel_append (List.rel_append (sameBut_group .text h.textFields)
    (sameBut_group .int h.intFields)) (sameBut_group .float h.floatFields))
    (sameBut_group .boolean h.booleanFields)

/-- The drafts by two such mappings differ in the one field. -/
lemma Mapping.SameBut.agree_drafts (h : m.SameBut name n) (p : Page) (options : Options) :
    Draft.AgreeOff [name] (.ofFindings m (.inPage p m options))
      (.ofFindings n (.inPage p n options)) := by
  have hfound : List.Forall₂ (Draft.SameFound [name]) (Findings.inPage p m options).fields
      (Findings.inPage p n options).fields := by
    unfold Findings.inPage
    rw [List.forall₂_map_left_iff, List.forall₂_map_right_iff]
    refine h.fields.imp fun f g ⟨hname, hsame⟩ => ⟨hname, fun hother => ?_⟩
    rw [hsame (by simpa using hother)]
  have himages : (Findings.inPage p m options).images = (Findings.inPage p n options).images := by
    rw [Findings.inPage, Findings.inPage, h.images]
  have hfeatures :
      (Findings.inPage p m options).features = (Findings.inPage p n options).features := by
    rw [Findings.inPage, Findings.inPage, h.features]
  unfold Draft.ofFindings
  rw [h.defaultValues]
  exact ((Draft.agree_ofFields hfound).withLists h.images h.features (.inr himages)
    (.inr hfeatures)).withDefaults _

/-- The report of an extraction tells success, and one record. -/
lemma Extraction.member?_toJson (e : Extraction) :
    e.toJson.member? "success" = some (.bool true) ∧
      e.toJson.member? "properties" = some (.array [.object e.record]) := by
  unfold toJson Json.Value.member?
  cases e.fingerprint <;>
    simp [Report.optional, Keyed.ofList, Keyed.get?_insert]

/-- **Isolation of fields**: two extractions by mappings that differ in the rules for one field,
from which no other key follows, differ at most in the value of that field and in its trace, and
both succeed with one record. If the field is no part of the identity of a listing, the fingerprints
are the same. -/
theorem field_isolated (source address : String) (options : Options)
    (h : m.SameBut name n) (hname : name ∉ Derivation.readKeys) :
    let x := Extraction.ofText source address m options
    let y := Extraction.ofText source address n options
    Keyed.AgreeOff [name] x.record y.record ∧
      x.traces.map (tracesOff [name]) = y.traces.map (tracesOff [name]) ∧
      (∀ e ∈ [x, y], e.toJson.member? "success" = some (.bool true) ∧
        e.toJson.member? "properties" = some (.array [.object e.record])) ∧
      (name ∉ Fingerprint.identityFields → x.fingerprint = y.fingerprint) := by
  intro x y
  let p := Page.read source address options.flightDepth
  have hx : x = .ofFindings address m options (.inPage p m options) :=
    Extraction.ofPage_eq p m options
  have hy : y = .ofFindings address n options (.inPage p n options) :=
    Extraction.ofPage_eq p n options
  have hdraft := h.agree_drafts p options
  have hread : ∀ key ∈ Derivation.readKeys, key ∉ [name] := by
    intro key hkey hmem
    exact hname (List.mem_singleton.1 hmem ▸ hkey)
  have hrecord : Keyed.AgreeOff [name] x.record y.record := by
    rw [hx, hy]
    simp only [Extraction.ofFindings, h.portal]
    exact Derivation.agree_all hdraft.record hread n.portal address
  refine ⟨hrecord, ?_, fun e _ => e.member?_toJson, fun hidentity => ?_⟩
  · rw [hx, hy]
    simp only [Extraction.ofFindings]
    split
    · exact congrArg some hdraft.traces
    · rfl
  · have hprint := Fingerprint.compute?_eq hrecord fun field hfield hmem =>
      hidentity (List.mem_singleton.1 hmem ▸ hfield)
    rw [hx, hy] at hprint ⊢
    exact hprint

/-- The first segment of the address is the city; the title has a rule of its own. -/
def cityAndTitle (title : Rule) : Mapping where
  name := "m"
  textFields := [("city", .mk (.at (.urlSegment (some 1))) []), ("title", title)]
  intFields := []
  floatFields := []
  booleanFields := []
  images := []
  features := []
  defaultValues := []
  expectedRate := none
  portal := .empty

/-- A selector that cannot be read, and nothing to look for behind it. -/
def failingRule : Rule := .mk (.at (.css "h1[[" none none)) [.mk (.at .unset) []]

theorem field_isolated_title :
    let found := cityAndTitle (.mk (.at (.urlSegment (some 2))) [])
    let failed := cityAndTitle failingRule
    let x := Extraction.ofText "" "https://example.com/porto/flat-7" found .standard
    let y := Extraction.ofText "" "https://example.com/porto/flat-7" failed .standard
    found.SameBut "title" failed ∧ "title" ∉ Derivation.readKeys ∧
      "title" ∉ Fingerprint.identityFields ∧ x.coverage.missing = [] ∧
      y.coverage.missing = ["title"] ∧ Keyed.AgreeOff ["title"] x.record y.record ∧
      x.fingerprint = y.fingerprint := by
  intro found failed x y
  have hsame : found.SameBut "title" failed :=
    { mappingName := rfl
      textFields := .cons ⟨rfl, fun _ => rfl⟩ (.cons ⟨rfl, fun h => absurd rfl h⟩ .nil)
      intFields := .nil
      floatFields := .nil
      booleanFields := .nil
      images := rfl
      features := rfl
      defaultValues := rfl
      expectedRate := rfl
      portal := rfl }
  have hread : "title" ∉ Derivation.readKeys := by decide
  have hidentity : "title" ∉ Fingerprint.identityFields := by decide
  obtain ⟨hrecord, -, -, hprint⟩ :=
    field_isolated "" "https://example.com/porto/flat-7" .standard hsame hread
  exact ⟨hsame, hread, hidentity, by decide +kernel, by decide +kernel, hrecord, hprint hidentity⟩

end Estate
