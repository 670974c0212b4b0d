import Estate.Proofs.Findings
import Estate.Proofs.Influence.Drafts

/-!
What the address of a page has influence on.

Rules that look at no segment of the address come to the same whatever the address is. So, where
the fields and the features of a mapping have such rules, the address shows in the pictures, which
are found from it, in sale or rental, and in itself.
-/

namespace Estate

/-- Some node of a rule looks at the address of the page. -/
def Rule.LooksAtAddress (r : Rule) : Prop := ∃ n ∈ r.nodes, n.2.probe.locator.kind = .urlSegment

instance (r : Rule) : Decidable r.LooksAtAddress :=
  inferInstanceAs (Decidable (∃ n ∈ r.nodes, n.2.probe.locator.kind = .urlSegment))

/-- The page at another address. -/
def Page.movedTo (p : Page) (address : String) : Page := { p with address }

section

variable (p : Page) (address : String) (c : Cardinality)

lemma Probe.found_movedTo (probe : Probe) (h : probe.locator.kind ≠ .urlSegment) :
    probe.found (p.movedTo address) c = probe.found p c := by
  unfold Probe.found Probe.look
  cases hl : probe.locator with
  | urlSegment part => simp [hl, Locator.kind] at h
  | _ => rfl

lemma Resolution.ofNodes_movedTo (ns : List (List Nat × Rule))
    (h : ∀ n ∈ ns, n.2.probe.locator.kind ≠ .urlSegment) :
    ofNodes (p.movedTo address) c ns = ofNodes p c ns := by
  induction ns with
  | nil => rfl
  | cons n ns ih =>
    have hnode : ofNode (p.movedTo address) c n = ofNode p c n := by
      rw [ofNode, ofNode, Probe.cleaned, Probe.cleaned,
        n.2.probe.found_movedTo p address c (h n (by simp))]
    rw [ofNodes_cons, ofNodes_cons, hnode, ih fun m hm => h m (by simp [hm])]

lemma Rule.found_movedTo (r : Rule) (h : ¬ r.LooksAtAddress) :
    r.found (p.movedTo address) c = r.found p c :=
  Resolution.ofNodes_movedTo p address c r.reachable fun n hn hkind =>
    h ⟨n, (List.mem_filter.1 hn).1, hkind⟩

end

section

variable {m : Mapping} (p : Page) (address : String) (options : Options)

lemma Findings.fields_movedTo (h : ∀ f ∈ m.fields, ¬ f.rule.LooksAtAddress) :
    (inPage (p.movedTo address) m options).fields = (inPage p m options).fields :=
  List.map_congr_left fun f hf => by rw [f.rule.found_movedTo p address .one (h f hf)]

lemma Findings.features_movedTo (h : ∀ r ∈ m.features, ¬ r.LooksAtAddress) :
    (inPage (p.movedTo address) m options).features = (inPage p m options).features := by
  have hrules : (m.features.map fun r => (r.found (p.movedTo address) .many).values) =
      m.features.map fun r => (r.found p .many).values :=
    List.map_congr_left fun r hr => by rw [r.found_movedTo p address .many (h r hr)]
  rw [inPage, inPage, hrules]

/-- The draft of a page at another address differs in the pictures. -/
lemma Draft.agree_movedTo (hfields : ∀ f ∈ m.fields, ¬ f.rule.LooksAtAddress)
    (hfeatures : ∀ r ∈ m.features, ¬ r.LooksAtAddress) :
    AgreeOff [imagesKey] (ofFindings m (.inPage (p.movedTo address) m options))
      (ofFindings m (.inPage p m options)) := by
  unfold ofFindings
  rw [Findings.fields_movedTo p address options hfields]
  refine (AgreeOff.withLists (.refl _ _) rfl rfl (.inl (by simp)) (.inr ?_)).withDefaults _
  exact Findings.features_movedTo p address options hfeatures

end

lemma Draft.field_of_mem_traces {m : Mapping} {p : Page} {options : Options} {t : FieldTrace}
    (h : t ∈ (ofFindings m (.inPage p m options)).traces) : ∃ f ∈ m.fields, f.name = t.field := by
  have hmem : t.field ∈ (ofFindings m (.inPage p m options)).traces.map (·.field) :=
    List.mem_map.2 ⟨t, h, rfl⟩
  rw [map_field_ofFindings] at hmem
  simpa [Findings.inPage] using hmem

lemma Coverage.missing_agree {a b : Json.Members} {keys : List String}
    (h : Keyed.AgreeOff keys a b) (m : Mapping) :
    (missingFrom a m).filter (· ∉ keys) = (missingFrom b m).filter (· ∉ keys) := by
  rw [missingFrom, missingFrom, List.filter_filter, List.filter_filter]
  refine List.filter_congr fun name _ => ?_
  by_cases hname : name ∈ keys
  · simp [hname]
  · rw [h name hname]

/-- **The address of a page**: where neither fields nor features look at segments of it, and no
field goes by the name of the pictures, two extractions from a page at two addresses differ in the
pictures, in sale or rental, and in the address. Fingerprint and traces are the same, and so are the
missing fields but for the pictures. -/
theorem address_influence (source a b : String) (m : Mapping) (options : Options)
    (hfields : ∀ f ∈ m.fields, ¬ f.rule.LooksAtAddress)
    (hfeatures : ∀ r ∈ m.features, ¬ r.LooksAtAddress)
    (hname : ∀ f ∈ m.fields, f.name ≠ imagesKey) :
    let x := Extraction.ofText source a m options
    let y := Extraction.ofText source b m options
    Keyed.AgreeOff [imagesKey, "listing_type", "import_url"] x.record y.record ∧
      x.fingerprint = y.fingerprint ∧ x.traces = y.traces ∧
      x.coverage.missing.filter (· ≠ imagesKey) = y.coverage.missing.filter (· ≠ imagesKey) := by
  intro x y
  let p := Page.read source b options.flightDepth
  let d := Draft.ofFindings m (.inPage (p.movedTo a) m options)
  let e := Draft.ofFindings m (.inPage p m options)
  have hx : x = .ofFindings a m options (.inPage (p.movedTo a) m options) :=
    Extraction.ofPage_eq (p.movedTo a) m options
  have hy : y = .ofFindings b m options (.inPage p m options) := Extraction.ofPage_eq p m options
  have hdraft : Draft.AgreeOff [imagesKey] d e :=
    Draft.agree_movedTo p a options hfields hfeatures
  have hrecord : Keyed.AgreeOff [imagesKey, "listing_type", "import_url"] x.record y.record := by
    rw [hx, hy]
    exact Derivation.agree_all_address (hdraft.record.mono (by simp)) (by decide) (by simp)
      (by simp) m.portal a b
  have htraces : d.traces = e.traces := by
    have hall : ∀ page, tracesOff [imagesKey]
        (Draft.ofFindings m (.inPage page m options)).traces =
          (Draft.ofFindings m (.inPage page m options)).traces := by
      intro page
      refine tracesOff_eq fun t ht => ?_
      obtain ⟨f, hf, hfield⟩ := Draft.field_of_mem_traces ht
      rw [← hfield]
      simpa using hname f hf
    calc d.traces = tracesOff [imagesKey] d.traces := (hall _).symm
      _ = tracesOff [imagesKey] e.traces := hdraft.traces
      _ = e.traces := hall _
  have hmissing := Coverage.missing_agree hdraft.record m
  refine ⟨hrecord, ?_, ?_, ?_⟩
  · have hprint := Fingerprint.compute?_eq hrecord (by decide)
    rw [hx, hy] at hprint ⊢
    exact hprint
  · rw [hx, hy]
    simp only [Extraction.ofFindings]
    rw [htraces]
  · rw [hx, hy]
    change (Coverage.missingFrom d.record m).filter (· ≠ imagesKey) =
      (Coverage.missingFrom e.record m).filter (· ≠ imagesKey)
    simpa using hmissing

/-- A title with a fallback, a city by default, features, and a picture by its address. -/
def titleAndPictures : Mapping where
  name := "m"
  textFields := [("title", .mk (.at .unset) [.mk (.at (.flightData "listing.title")) []])]
  intFields := []
  floatFields := []
  booleanFields := []
  images := [.mk (.at (.urlSegment none)) []]
  features := [.mk (.at (.flightData "listing.features")) []]
  defaultValues := [("city", .string "Porto")]
  expectedRate := none
  portal := .empty

theorem address_influence_pictures :
    let x := Extraction.ofText "" "https://example.com/rent/a.png" titleAndPictures .standard
    let y := Extraction.ofText "" "https://example.org/sale/b.doc" titleAndPictures .standard
    (∀ f ∈ titleAndPictures.fields, ¬ f.rule.LooksAtAddress) ∧
      (∀ r ∈ titleAndPictures.features, ¬ r.LooksAtAddress) ∧
      (∀ f ∈ titleAndPictures.fields, f.name ≠ imagesKey) ∧
      x.coverage.missing = ["title", "features"] ∧
      y.coverage.missing = ["title", imagesKey, "features"] ∧
      Keyed.AgreeOff [imagesKey, "listing_type", "import_url"] x.record y.record ∧
      x.fingerprint = y.fingerprint := by
  have hfields : ∀ f ∈ titleAndPictures.fields, ¬ f.rule.LooksAtAddress := by decide
  have hfeatures : ∀ r ∈ titleAndPictures.features, ¬ r.LooksAtAddress := by decide
  have hname : ∀ f ∈ titleAndPictures.fields, f.name ≠ imagesKey := by decide
  obtain ⟨hrecord, hprint, -, -⟩ := address_influence "" "https://example.com/rent/a.png"
    "https://example.org/sale/b.doc" titleAndPictures .standard hfields hfeatures hname
  exact ⟨hfields, hfeatures, hname, by decide +kernel, by decide +kernel, hrecord, hprint⟩

end Estate
