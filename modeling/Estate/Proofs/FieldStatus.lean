import Estate.Proofs.Findings

/-!
What the trace of a field says, and what the coverage says.

The trace of a field says that it has got a value, found or by default, if and only if there is one
in the record; the coverage misses a field if the value in the record is null, blank or empty. The
two agree unless all there is for a field is a value of that kind.
-/

namespace Estate

/-- The field has got a value, found or by default. -/
def FieldStatus.Given (s : FieldStatus) : Prop := s = .populated ∨ s = .defaulted

instance (s : FieldStatus) : Decidable s.Given := inferInstanceAs (Decidable (_ ∨ _))

/-- The traces of a field. -/
def tracesOf (name : String) (ts : List FieldTrace) : List FieldTrace :=
  ts.filter (·.field == name)

lemma tracesOf_cons (name : String) (t : FieldTrace) (ts : List FieldTrace) :
    tracesOf name (t :: ts) =
      if t.field = name then t :: tracesOf name ts else tracesOf name ts := by
  simp [tracesOf, List.filter_cons]

/-- Whatever is found for a field that is not of text is a value to be counted. -/
lemma Field.isPopulated_valueOf (f : Field) (text : String) :
    (f.valueOf text).isPopulated ↔
      (f.kind = .text → ∃ c ∈ text.toList, Text.isBlank c = false) := by
  cases h : f.kind <;> simp [Field.valueOf, h, Json.Value.isPopulated, Json.Value.ofInt]

namespace Draft

/-- What a draft has for a field, and what the only trace of the field says. -/
structure Shows (d : Draft) (name : String) (v : Option Json.Value) (s : FieldStatus) : Prop where
  value : Keyed.get? d.record name = v
  trace : ∃ t, tracesOf name d.traces = [t] ∧ t.status = s

variable {d : Draft} {name key : String} {v : Option Json.Value} {s : FieldStatus}

/-! ### What is found -/

lemma get?_put (record : Json.Members) (f : Field) (r : Resolution) :
    Keyed.get? (put record f r) f.name =
      (r.first?.map f.valueOf).or (Keyed.get? record f.name) := by
  unfold put
  cases r.first? with
  | none => rfl
  | some text => simp [Keyed.get?_insert]

lemma get?_put_other (record : Json.Members) {f : Field} (r : Resolution) (h : f.name ≠ name) :
    Keyed.get? (put record f r) name = Keyed.get? record name := by
  unfold put
  cases r.first? with
  | none => rfl
  | some text => simp [Keyed.get?_insert, h.symm]

lemma get?_foldl_put {found : List (Field × Resolution)} (h : ∀ e ∈ found, e.1.name ≠ name)
    (record : Json.Members) :
    Keyed.get? (found.foldl (fun record e => put record e.1 e.2) record) name =
      Keyed.get? record name := by
  induction found generalizing record with
  | nil => rfl
  | cons e found ih =>
    rw [List.foldl_cons, ih fun e' he => h e' (by simp [he]),
      get?_put_other record e.2 (h e (by simp))]

lemma tracesOf_others {found : List (Field × Resolution)} (h : ∀ e ∈ found, e.1.name ≠ name) :
    tracesOf name (found.map fun e => traceOf e.1 e.2) = [] := by
  refine List.filter_eq_nil_iff.2 fun t ht => ?_
  obtain ⟨e, he, rfl⟩ := List.mem_map.1 ht
  simpa [traceOf] using h e he

/-- What is found for a field of which there is one only is in the record, and its trace says so. -/
lemma shows_ofFields {before after : List (Field × Resolution)} {f : Field} (r : Resolution)
    (hb : ∀ e ∈ before, e.1.name ≠ f.name) (ha : ∀ e ∈ after, e.1.name ≠ f.name) :
    (ofFields (before ++ (f, r) :: after)).Shows f.name (r.first?.map f.valueOf) (statusOf r) where
  value := by
    rw [ofFields, List.foldl_append, List.foldl_cons, get?_foldl_put ha, get?_put,
      get?_foldl_put hb]
    simp
  trace := by
    refine ⟨traceOf f r, ?_, rfl⟩
    have hsplit : tracesOf f.name (ofFields (before ++ (f, r) :: after)).traces =
        tracesOf f.name (before.map fun e => traceOf e.1 e.2) ++
          tracesOf f.name (traceOf f r :: after.map fun e => traceOf e.1 e.2) := by
      simp [ofFields, tracesOf]
    rw [hsplit, tracesOf_others hb, tracesOf_cons, tracesOf_others ha, List.nil_append]
    exact if_pos rfl

lemma given_statusOf (f : Field) (r : Resolution) :
    (statusOf r).Given ↔ (r.first?.map f.valueOf).isSome := by
  unfold statusOf Resolution.isEmpty Resolution.first?
  cases r.values with
  | nil => cases r.errors <;> simp [FieldStatus.Given]
  | cons text texts => simp [FieldStatus.Given]

/-! ### Lists -/

lemma Shows.putList (h : d.Shows name v s) (hkey : key ≠ name) (texts : List String) :
    (d.putList key texts).Shows name v s where
  value := by
    rw [Draft.putList, Keyed.get?_insert, if_neg hkey.symm]
    exact h.value
  trace := h.trace

lemma Shows.withLists (h : d.Shows name v s) (hi : name ≠ imagesKey) (hl : name ≠ featuresKey)
    (m : Mapping) (found : Findings) : (d.withLists m found).Shows name v s := by
  have himages : (if m.images.isEmpty then d
      else d.putList imagesKey (found.images.map (·.address))).Shows name v s := by
    split
    · exact h
    · exact h.putList hi.symm _
  simp only [Draft.withLists]
  split
  · exact himages
  · exact himages.putList hl.symm _

/-! ### Defaults -/

lemma markDefaulted_other (ts : List FieldTrace) (h : key ≠ name) :
    tracesOf name (markDefaulted key ts) = tracesOf name ts := by
  induction ts with
  | nil => rfl
  | cons t ts ih =>
    by_cases ht : t.field = key
    · have hfield : t.field ≠ name := ht ▸ h
      rw [markDefaulted_here ht, tracesOf_cons, tracesOf_cons, if_neg hfield, if_neg hfield]
    · rw [markDefaulted_behind ht, tracesOf_cons, tracesOf_cons, ih]

lemma markDefaulted_same {ts : List FieldTrace} {t : FieldTrace}
    (h : tracesOf name ts = [t]) :
    tracesOf name (markDefaulted name ts) = [{ t with status := .defaulted }] := by
  induction ts with
  | nil => cases h
  | cons u ts ih =>
    rw [tracesOf_cons] at h
    by_cases hu : u.field = name
    · rw [if_pos hu] at h
      obtain ⟨rfl, hrest⟩ := List.cons.inj h
      rw [markDefaulted_here hu, tracesOf_cons, hrest]
      exact if_pos hu
    · rw [if_neg hu] at h
      rw [markDefaulted_behind hu, tracesOf_cons, if_neg hu]
      exact ih h

/-- Values for other keys, or for a key that has content, change nothing. -/
lemma Shows.withDefault_keep (h : d.Shows name v s)
    (hkeep : key ≠ name ∨ v.any Json.Value.isPopulated) (w : Json.Value) :
    (d.withDefault key w).Shows name v s := by
  unfold Draft.withDefault
  split
  · exact h
  · next hempty =>
    have hkey : key ≠ name := by
      rintro rfl
      rw [h.value] at hempty
      simp [hempty] at hkeep
    obtain ⟨t, ht, hs⟩ := h.trace
    refine ⟨?_, t, ?_, hs⟩
    · rw [Keyed.get?_insert, if_neg hkey.symm]
      exact h.value
    · rw [markDefaulted_other _ hkey]
      exact ht

lemma Shows.withDefault_fill (h : d.Shows name v s) (hempty : ¬ v.any Json.Value.isPopulated)
    (w : Json.Value) : (d.withDefault name w).Shows name (some w) .defaulted := by
  obtain ⟨t, ht, -⟩ := h.trace
  rw [Draft.withDefault, h.value, if_neg hempty]
  refine ⟨?_, { t with status := .defaulted }, markDefaulted_same ht, rfl⟩
  rw [Keyed.get?_insert, if_pos rfl]

/-- With values by default in, a field has a value if it had one or one of them is for it, and has
content if it had some or one of them has. The trace keeps saying whether there is a value. -/
lemma Shows.withDefaults (h : d.Shows name v s) (hs : s.Given ↔ v.isSome) (values : Json.Members) :
    ∃ v' s', (d.withDefaults values).Shows name v' s' ∧ (s'.Given ↔ v'.isSome) ∧
      (v'.isSome ↔ v.isSome ∨ ∃ w, (name, w) ∈ values) ∧
      (v'.any Json.Value.isPopulated ↔
        v.any Json.Value.isPopulated ∨ ∃ w, (name, w) ∈ values ∧ w.isPopulated) := by
  induction values generalizing d v s with
  | nil => exact ⟨v, s, h, hs, by simp, by simp⟩
  | cons e values ih =>
    obtain ⟨key, w⟩ := e
    by_cases hkeep : key ≠ name ∨ v.any Json.Value.isPopulated
    · obtain ⟨v', s', h', hgiven, hsome, hcontent⟩ := ih (h.withDefault_keep hkeep w) hs
      refine ⟨v', s', h', hgiven, hsome.trans ?_, hcontent.trans ?_⟩
      all_goals
        rcases hkeep with hkey | hv
        · simp [hkey.symm]
        · cases v <;> simp_all
    · obtain ⟨hkey, hempty⟩ := not_or.1 hkeep
      obtain rfl : key = name := Decidable.not_not.1 hkey
      obtain ⟨v', s', h', hgiven, hsome, hcontent⟩ :=
        ih (h.withDefault_fill hempty w) (by simp [FieldStatus.Given])
      refine ⟨v', s', h', hgiven, hsome.trans ?_, hcontent.trans ?_⟩
      · simp only [Option.isSome_some, true_or, List.mem_cons, Prod.mk.injEq, true_and, true_iff]
        exact .inr ⟨w, .inl rfl⟩
      · simp [hempty, or_and_right, exists_or]

end Draft

/-! ### Extractions -/

section

variable (f : Field) (m : Mapping) (r : Resolution)

/-- A value is found for the field, or the mapping has one for it. -/
def Field.HasValue : Prop := r.first?.isSome ∨ ∃ w, (f.name, w) ∈ m.defaultValues

/-- A value is found for the field, and is no blank text, or the mapping has one for it that is not
null, blank or empty. -/
def Field.HasContent : Prop :=
  (∃ text, r.first? = some text ∧
    (f.kind = .text → ∃ c ∈ text.toList, Text.isBlank c = false)) ∨
  ∃ w, (f.name, w) ∈ m.defaultValues ∧ w.isPopulated

lemma Field.HasContent.hasValue {f : Field} {m : Mapping} {r : Resolution}
    (h : f.HasContent m r) : f.HasValue m r := by
  rcases h with ⟨text, htext, -⟩ | ⟨w, hw, -⟩
  · exact .inl (by simp [htext])
  · exact .inr ⟨w, hw⟩

end

/-- Around the one field of a name there are fields of other names. -/
lemma Mapping.split_fields {m : Mapping} {f : Field} (hf : f ∈ m.fields)
    (honce : (m.fields.map (·.name)).count f.name = 1) : ∃ before after,
      m.fields = before ++ f :: after ∧ (∀ g ∈ before, g.name ≠ f.name) ∧
        ∀ g ∈ after, g.name ≠ f.name := by
  obtain ⟨before, after, hsplit⟩ := List.append_of_mem hf
  have hother : ∀ fields : List Field, (fields.map (·.name)).count f.name = 0 →
      ∀ g ∈ fields, g.name ≠ f.name := by
    intro fields hzero g hg heq
    exact List.count_eq_zero.1 hzero (List.mem_map.2 ⟨g, hg, heq⟩)
  rw [hsplit, List.map_append, List.map_cons, List.count_append, List.count_cons_self] at honce
  exact ⟨before, after, hsplit, hother before (by omega), hother after (by omega)⟩

lemma Coverage.not_mem_missingFrom (record : Json.Members) {m : Mapping} {f : Field}
    (hf : f ∈ m.fields) : f.name ∉ missingFrom record m ↔
      (Keyed.get? record f.name).any Json.Value.isPopulated := by
  have hdeclared : f.name ∈ declared m := by
    have hname : f.name ∈ m.fields.map (·.name) := List.mem_map.2 ⟨f, hf, rfl⟩
    simp [declared, hname]
  simp [missingFrom, hdeclared]

/-- **Traces and coverage**: the one trace of a field says that it has got a value if there is one
for it, and the coverage does not miss it if the value has content. So the two agree exactly if
whatever there is for the field has content. -/
theorem trace_agrees_iff (source address : String) (m : Mapping) (options : Options)
    (ht : options.traceFields = true) {f : Field} (hf : f ∈ m.fields)
    (honce : (m.fields.map (·.name)).count f.name = 1) (hi : f.name ≠ imagesKey)
    (hl : f.name ≠ featuresKey) :
    let e := Extraction.ofText source address m options
    let r := f.rule.traced (Page.read source address options.flightDepth)
    ∃ ts t, e.traces = some ts ∧ tracesOf f.name ts = [t] ∧
      (t.status.Given ↔ f.HasValue m r) ∧ (f.name ∉ e.coverage.missing ↔ f.HasContent m r) ∧
      ((t.status.Given ↔ f.name ∉ e.coverage.missing) ↔ (f.HasValue m r → f.HasContent m r)) := by
  intro e r
  let p := Page.read source address options.flightDepth
  let found := ((Findings.ofReader p.rememberingReader m options).run .empty).1
  obtain ⟨before, after, hsplit, hb, ha⟩ := Mapping.split_fields hf honce
  have hfound : found.fields = before.map (fun g => (g, g.rule.traced p)) ++
      (f, r) :: after.map fun g => (g, g.rule.traced p) := by
    rw [Findings.fields_ofReader, hsplit, List.map_append, List.map_cons]
  have hfields : (Draft.ofFields found.fields).Shows f.name (r.first?.map f.valueOf)
      (Draft.statusOf r) := by
    rw [hfound]
    exact Draft.shows_ofFields r (by simpa using hb) (by simpa using ha)
  obtain ⟨v, s, hshows, hgiven, hsome, hcontent⟩ :=
    (hfields.withLists hi hl m found).withDefaults (Draft.given_statusOf f r) m.defaultValues
  obtain ⟨t, htrace, rfl⟩ := hshows.trace
  have hstatus : t.status.Given ↔ f.HasValue m r := by
    rw [hgiven, hsome, Option.isSome_map, Field.HasValue]
  have hmissing : f.name ∉ e.coverage.missing ↔ f.HasContent m r := by
    have hcover := Coverage.not_mem_missingFrom (Draft.ofFindings m found).record hf
    refine hcover.trans ?_
    rw [Draft.ofFindings, hshows.value, hcontent, Field.HasContent]
    refine or_congr_left ?_
    cases r.first? with
    | none => simp
    | some text => simp [f.isPopulated_valueOf]
  refine ⟨_, t, if_pos ht, htrace, hstatus, hmissing, ?_⟩
  rw [hstatus, hmissing]
  exact ⟨fun h => h.1, fun h => ⟨h, Field.HasContent.hasValue⟩⟩

/-- A mapping of text fields and values by default. -/
def Mapping.ofTexts (rules : Keyed Rule) (defaults : Json.Members) : Mapping :=
  ⟨"m", rules, [], [], [], [], [], defaults, none, .empty⟩

/-- A field that is never found. -/
def unsetRule : Rule := .mk (.at .unset) []

/-- The second segment of the address, with the character references in it decoded. -/
def decodedSegment : Rule :=
  .mk { Probe.at (.urlSegment (some 2)) with modifiers := ["stripHtmlEntities"] } []

/-- An address that ends in a reference to a space. -/
def spaceAddress : String := "https://example.com/sale/&nbsp;"

def tracing : Options := { Options.standard with traceFields := true }

/-- A city by default, should the segment be blank. -/
def cityByDefault : Mapping := .ofTexts [("city", decodedSegment)] [("city", .string "Porto")]

theorem trace_agrees_iff_city :
    let e := Extraction.ofText "" spaceAddress cityByDefault tracing
    tracing.traceFields = true ∧ ⟨"city", .text, decodedSegment⟩ ∈ cityByDefault.fields ∧
      (cityByDefault.fields.map (·.name)).count "city" = 1 ∧ "city" ≠ imagesKey ∧
      "city" ≠ featuresKey ∧
      ∃ ts t, e.traces = some ts ∧ tracesOf "city" ts = [t] ∧
        (t.status.Given ↔ "city" ∉ e.coverage.missing) := by
  have hfield : ⟨"city", .text, decodedSegment⟩ ∈ cityByDefault.fields := .head _
  have honce : (cityByDefault.fields.map (·.name)).count "city" = 1 := by decide
  have hi : "city" ≠ imagesKey := by decide
  have hl : "city" ≠ featuresKey := by decide
  obtain ⟨ts, t, hts, ht, -, -, hagree⟩ := trace_agrees_iff "" spaceAddress
    cityByDefault tracing rfl hfield honce hi hl
  exact ⟨rfl, hfield, honce, hi, hl, ts, t, hts, ht,
    hagree.2 fun _ => .inr ⟨.string "Porto", .head _, rfl⟩⟩

/-- The statuses of traces, and the missing fields. -/
def Extraction.verdicts (e : Extraction) : Option (List FieldStatus) × List String :=
  (e.traces.map (·.map (·.status)), e.coverage.missing)

/-- A null by default, and a text that is blank behind its modifiers, are values of a field for its
trace, and the coverage misses the field. -/
theorem given_and_missing :
    (Extraction.ofText "" "https://example.com/"
        (.ofTexts [("title", unsetRule)] [("title", .null)]) tracing).verdicts =
          (some [.defaulted], ["title"]) ∧
      (Extraction.ofText "" spaceAddress (.ofTexts [("title", decodedSegment)] [])
        tracing).verdicts = (some [.populated], ["title"]) := by
  decide +kernel

end Estate
