import Estate.Extraction
import Estate.Proofs.Influence.Records

/-!
Drafts that agree on all fields but some.

Whatever is done for a field in the making of a draft shows in the value and in the traces of that
field, and in nothing else.
-/

namespace Estate

/-- The traces of all other fields. -/
def tracesOff (fields : List String) (ts : List FieldTrace) : List FieldTrace :=
  ts.filter fun t => t.field ∉ fields

variable {fields : List String}

lemma tracesOff_cons_within (t : FieldTrace) (ts : List FieldTrace) (h : t.field ∈ fields) :
    tracesOff fields (t :: ts) = tracesOff fields ts :=
  List.filter_cons_of_neg (by simpa using h)

lemma tracesOff_cons_other (t : FieldTrace) (ts : List FieldTrace) (h : t.field ∉ fields) :
    tracesOff fields (t :: ts) = t :: tracesOff fields ts :=
  List.filter_cons_of_pos (by simpa using h)

lemma tracesOff_eq {ts : List FieldTrace} (h : ∀ t ∈ ts, t.field ∉ fields) :
    tracesOff fields ts = ts :=
  List.filter_eq_self.2 fun t ht => by simpa using h t ht

namespace Draft

lemma markDefaulted_within {key : String} (h : key ∈ fields) (ts : List FieldTrace) :
    tracesOff fields (markDefaulted key ts) = tracesOff fields ts := by
  induction ts with
  | nil => rfl
  | cons t ts ih =>
    by_cases ht : t.field = key
    · subst ht
      rw [markDefaulted_here rfl, tracesOff_cons_within _ _ (by exact h),
        tracesOff_cons_within t _ h]
    · rw [markDefaulted_behind ht]
      by_cases hfield : t.field ∈ fields
      · rw [tracesOff_cons_within t _ hfield, tracesOff_cons_within t _ hfield, ih]
      · rw [tracesOff_cons_other t _ hfield, tracesOff_cons_other t _ hfield, ih]

lemma markDefaulted_off {key : String} (h : key ∉ fields) (ts : List FieldTrace) :
    tracesOff fields (markDefaulted key ts) = markDefaulted key (tracesOff fields ts) := by
  induction ts with
  | nil => rfl
  | cons t ts ih =>
    by_cases ht : t.field = key
    · subst ht
      rw [markDefaulted_here rfl, tracesOff_cons_other _ _ (by exact h),
        tracesOff_cons_other t _ h, markDefaulted_here rfl]
    · rw [markDefaulted_behind ht]
      by_cases hfield : t.field ∈ fields
      · rw [tracesOff_cons_within t _ hfield, tracesOff_cons_within t _ hfield, ih]
      · rw [tracesOff_cons_other t _ hfield, tracesOff_cons_other t _ hfield,
          markDefaulted_behind ht, ih]

/-- The same stands in the record, and in the traces, for each key that is not one of these. -/
structure AgreeOff (keys : List String) (d e : Draft) : Prop where
  record : Keyed.AgreeOff keys d.record e.record
  traces : tracesOff keys d.traces = tracesOff keys e.traces

namespace AgreeOff

variable {keys : List String} {d e : Draft}

lemma refl (keys : List String) (d : Draft) : AgreeOff keys d d := ⟨.refl keys d.record, rfl⟩

lemma symm (h : AgreeOff keys d e) : AgreeOff keys e d := ⟨h.record.symm, h.traces.symm⟩

lemma trans {f : Draft} (h : AgreeOff keys d e) (h' : AgreeOff keys e f) : AgreeOff keys d f :=
  ⟨h.record.trans h'.record, h.traces.trans h'.traces⟩

lemma putList (h : AgreeOff keys d e) {key : String} {texts others : List String}
    (hsame : key ∈ keys ∨ texts = others) :
    AgreeOff keys (d.putList key texts) (e.putList key others) where
  record := by
    rcases hsame with hkey | rfl
    · exact h.record.insert_either hkey _ _
    · exact h.record.insert key _
  traces := h.traces

/-- A value by default for a key on which drafts may differ does not matter. -/
lemma withDefault_within {key : String} (hkey : key ∈ keys) (d : Draft) (v : Json.Value) :
    AgreeOff keys (d.withDefault key v) d := by
  unfold Draft.withDefault
  split
  · exact refl keys d
  · exact ⟨.insert_within hkey d.record v, markDefaulted_within hkey d.traces⟩

lemma withDefault (h : AgreeOff keys d e) (key : String) (v : Json.Value) :
    AgreeOff keys (d.withDefault key v) (e.withDefault key v) := by
  by_cases hkey : key ∈ keys
  · exact ((withDefault_within hkey d v).trans h).trans (withDefault_within hkey e v).symm
  · unfold Draft.withDefault
    rw [h.record key hkey]
    split
    · exact h
    · refine ⟨h.record.insert key v, ?_⟩
      rw [markDefaulted_off hkey, h.traces, ← markDefaulted_off hkey]

lemma withDefaults (h : AgreeOff keys d e) (values : Json.Members) :
    AgreeOff keys (d.withDefaults values) (e.withDefaults values) := by
  induction values generalizing d e with
  | nil => exact h
  | cons entry values ih => exact ih (h.withDefault entry.1 entry.2)

/-- Lists are put for the same rules, and may differ under keys on which drafts may. -/
lemma withLists (h : AgreeOff keys d e) {m n : Mapping} {found other : Findings}
    (hmi : m.images = n.images) (hml : m.features = n.features)
    (hi : imagesKey ∈ keys ∨ found.images = other.images)
    (hl : featuresKey ∈ keys ∨ found.features = other.features) :
    AgreeOff keys (d.withLists m found) (e.withLists n other) := by
  have himages : AgreeOff keys
      (if m.images.isEmpty then d else d.putList imagesKey (found.images.map (·.address)))
      (if n.images.isEmpty then e else e.putList imagesKey (other.images.map (·.address))) := by
    rw [hmi]
    split
    · exact h
    · exact h.putList (hi.imp_right fun heq => by rw [heq])
  unfold Draft.withLists
  rw [hml]
  dsimp only
  split
  · exact himages
  · exact himages.putList hl

end AgreeOff

lemma put_within {keys : List String} {f : Field} (h : f.name ∈ keys) (record : Json.Members)
    (r : Resolution) : Keyed.AgreeOff keys (put record f r) record := by
  unfold put
  cases r.first? with
  | none => exact .refl keys record
  | some text => exact .insert_within h record _

lemma agree_put {keys : List String} {a b : Json.Members} (h : Keyed.AgreeOff keys a b) (f : Field)
    (r : Resolution) : Keyed.AgreeOff keys (put a f r) (put b f r) := by
  unfold put
  cases r.first? with
  | none => exact h
  | some text => exact h.insert _ _

/-- The same is found for two fields, unless they are of a name that is one of these. -/
def SameFound (keys : List String) (x y : Field × Resolution) : Prop :=
  x.1.name = y.1.name ∧ (x.1.name ∉ keys → x = y)

lemma agree_foldl_put {keys : List String} {found other : List (Field × Resolution)}
    (hfound : List.Forall₂ (SameFound keys) found other) {a b : Json.Members}
    (h : Keyed.AgreeOff keys a b) :
    Keyed.AgreeOff keys (found.foldl (fun record e => put record e.1 e.2) a)
      (other.foldl (fun record e => put record e.1 e.2) b) := by
  induction hfound generalizing a b with
  | nil => exact h
  | @cons x y _ _ hxy _ ih =>
    obtain ⟨hname, hsame⟩ := hxy
    refine ih ?_
    by_cases hkey : x.1.name ∈ keys
    · exact ((put_within hkey a x.2).trans h).trans (put_within (hname ▸ hkey) b y.2).symm
    · rw [hsame hkey]
      exact agree_put h y.1 y.2

lemma agree_ofFields {keys : List String} {found other : List (Field × Resolution)}
    (hfound : List.Forall₂ (SameFound keys) found other) :
    AgreeOff keys (ofFields found) (ofFields other) where
  record := agree_foldl_put hfound (.refl keys [])
  traces := by
    unfold ofFields
    dsimp only
    induction hfound with
    | nil => rfl
    | @cons x y _ _ hxy _ ih =>
      obtain ⟨hname, hsame⟩ := hxy
      rw [List.map_cons, List.map_cons]
      by_cases hkey : x.1.name ∈ keys
      · have hother : y.1.name ∈ keys := hname ▸ hkey
        rw [tracesOff_cons_within (traceOf x.1 x.2) _ hkey,
          tracesOff_cons_within (traceOf y.1 y.2) _ hother, ih]
      · have hother : y.1.name ∉ keys := hname ▸ hkey
        rw [hsame hkey, tracesOff_cons_other (traceOf y.1 y.2) _ hother,
          tracesOff_cons_other (traceOf y.1 y.2) _ hother, ih]

/-! ### The fields of traces -/

lemma map_field_markDefaulted (key : String) (ts : List FieldTrace) :
    (markDefaulted key ts).map (·.field) = ts.map (·.field) := by
  induction ts with
  | nil => rfl
  | cons t ts ih =>
    by_cases ht : t.field = key
    · rw [markDefaulted_here ht, List.map_cons, List.map_cons]
    · rw [markDefaulted_behind ht, List.map_cons, List.map_cons, ih]

lemma map_field_withDefault (d : Draft) (key : String) (v : Json.Value) :
    (d.withDefault key v).traces.map (·.field) = d.traces.map (·.field) := by
  unfold withDefault
  split
  · rfl
  · exact map_field_markDefaulted key d.traces

lemma map_field_withDefaults (values : Json.Members) (d : Draft) :
    (d.withDefaults values).traces.map (·.field) = d.traces.map (·.field) := by
  induction values generalizing d with
  | nil => rfl
  | cons entry values ih => exact (ih _).trans (map_field_withDefault d entry.1 entry.2)

lemma traces_withLists (m : Mapping) (found : Findings) (d : Draft) :
    (d.withLists m found).traces = d.traces := by
  unfold withLists
  dsimp only
  split <;> split <;> rfl

/-- Every field that is looked for has a trace, in their order. -/
lemma map_field_ofFindings (m : Mapping) (found : Findings) :
    (ofFindings m found).traces.map (·.field) = found.fields.map (·.1.name) := by
  rw [ofFindings, map_field_withDefaults, traces_withLists, ofFields, List.map_map]
  rfl

end Draft

end Estate
