import Mathlib.Data.List.Basic
import Mathlib.Data.List.Infix
import Mathlib.Tactic.Lemma
import Estate.Fingerprint

/-!
What fingerprints tell apart.

The texts of the identity fields are written as lines, each behind the name of its field, and the
lines are digested. Names and marks between them keep the lines apart unless a text goes over to a
line that starts as that of an identity field does: then the lines of one listing are those of
another.
-/

namespace Estate.Fingerprint

/-- The bytes that are digested. -/
def bytes (record : Json.Members) : ByteArray := (String.join (stream record)).toUTF8

/-- The start of a digest in hexadecimal. -/
def digestText (bytes : ByteArray) : String :=
  .ofList (((Digest.sha256 bytes.toList).take 8).flatMap hexByte)

/-- What the line of a field starts with. -/
def mark (field : String) : List Char := field.toList ++ ['=']

/-- The lines of some of the fields, given the texts. -/
def written (text? : String → Option String) (fields : List String) : List Char :=
  fields.flatMap fun field =>
    ((text? field).map fun t => mark field ++ (t.toList ++ ['\n'])).getD []

/-- Some line of the text, but for its first, starts as the line of one of the fields. -/
def Imitates (fields : List String) (text : List Char) : Prop :=
  ∃ field ∈ fields, ('\n' :: mark field) <:+: text

instance (fields : List String) (text : List Char) : Decidable (Imitates fields text) :=
  inferInstanceAs (Decidable (∃ field ∈ fields, ('\n' :: mark field) <:+: text))

/-- No text of an identity field goes over to a line that could be that of an identity field. -/
def Legible (record : Json.Members) : Prop :=
  ∀ field ∈ identityFields, ∀ t ∈ fieldText? record field, ¬ Imitates identityFields t.toList

instance (record : Json.Members) : Decidable (Legible record) :=
  inferInstanceAs (Decidable (∀ field ∈ identityFields, ∀ t ∈ fieldText? record field,
    ¬ Imitates identityFields t.toList))

/-- Names of fields that can be told from what is written behind them. -/
def Names (fields : List String) : Prop :=
  fields.Nodup ∧ ∀ field ∈ fields, '=' ∉ field.toList ∧ '\n' ∉ field.toList

lemma names_identityFields : Names identityFields := by
  unfold Names
  decide

lemma written_cons (x : String → Option String) (field : String) (fields : List String) :
    written x (field :: fields) =
      ((x field).map fun t => mark field ++ (t.toList ++ ['\n'])).getD [] ++ written x fields :=
  List.flatMap_cons

lemma toList_join_stream (record : Json.Members) :
    (String.join (stream record)).toList = written (fieldText? record) identityFields := by
  rw [String.toList_join, stream]
  induction identityFields with
  | nil => rfl
  | cons field fields ih =>
    rw [List.filterMap_cons, written_cons]
    cases fieldText? record field with
    | none => exact ih
    | some t => simp [mark, ih]

lemma bytes_eq_iff (a b : Json.Members) : bytes a = bytes b ↔
    written (fieldText? a) identityFields = written (fieldText? b) identityFields := by
  rw [← toList_join_stream, ← toList_join_stream, String.toList_inj]
  exact String.toByteArray_inj

lemma stream_eq_nil_iff (record : Json.Members) :
    stream record = [] ↔ ∀ field ∈ identityFields, fieldText? record field = none := by
  simp [stream, List.filterMap_eq_nil_iff]

/-! ### Lines that are read back -/

/-- What is behind a line: nothing, or the line of one of the fields. -/
def Continues (fields : List String) (cs : List Char) : Prop :=
  cs = [] ∨ ∃ field ∈ fields, mark field <+: cs

lemma Continues.mono {fields more : List String} (h : fields ⊆ more) {cs : List Char}
    (hcs : Continues fields cs) : Continues more cs := by
  rcases hcs with hnil | ⟨field, hfield, hpre⟩
  · exact .inl hnil
  · exact .inr ⟨field, h hfield, hpre⟩

lemma Imitates.mono {fields more : List String} (h : fields ⊆ more) {cs : List Char}
    (hcs : Imitates fields cs) : Imitates more cs := by
  obtain ⟨field, hfield, hin⟩ := hcs
  exact ⟨field, h hfield, hin⟩

lemma mark_inj {f g : String} {x y : List Char} (hf : '=' ∉ f.toList) (hg : '=' ∉ g.toList)
    (h : mark f ++ x = mark g ++ y) : f = g ∧ x = y := by
  simp only [mark, List.append_assoc, List.singleton_append] at h
  rcases List.append_eq_append_iff.1 h with ⟨c, hc, hx⟩ | ⟨c, hc, hy⟩
  · cases c with
    | nil => exact ⟨String.toList_inj.1 (by simpa using hc.symm), (List.cons.inj hx).2⟩
    | cons d c =>
      obtain ⟨rfl, -⟩ := List.cons.inj hx
      exact absurd (by simp [hc]) hg
  · cases c with
    | nil => exact ⟨String.toList_inj.1 (by simpa using hc), (List.cons.inj hy).2.symm⟩
    | cons d c =>
      obtain ⟨rfl, -⟩ := List.cons.inj hy
      exact absurd (by simp [hc]) hf

/-- A text without line feeds that starts a text starts the first line of it. -/
lemma prefix_line {m cs more : List Char} (hm : '\n' ∉ m) (h : m <+: cs ++ '\n' :: more) :
    m <+: cs := by
  rcases List.prefix_or_prefix_of_prefix h (List.prefix_append cs _) with h' | ⟨r, rfl⟩
  · exact h'
  · rw [List.prefix_append_right_inj] at h
    cases r with
    | nil => simp
    | cons c r =>
      obtain ⟨rfl, -⟩ := List.cons_prefix_cons.1 h
      exact absurd (by simp) hm

section

variable {fields : List String} {s t rest more : List Char}

/-- The longer of two texts would go over to the line that is behind the shorter one. -/
lemma eq_of_longer (hmark : ∀ field ∈ fields, '\n' ∉ mark field) (ht : ¬ Imitates fields t)
    (hrest : Continues fields rest) {c : List Char} (htext : t = s ++ c)
    (hbehind : '\n' :: rest = c ++ '\n' :: more) : s = t ∧ rest = more := by
  cases c with
  | nil => exact ⟨by simpa using htext.symm, (List.cons.inj hbehind).2⟩
  | cons d c =>
    exfalso
    obtain ⟨rfl, hrest'⟩ := List.cons.inj hbehind
    rcases hrest with rfl | ⟨field, hfield, hpre⟩
    · simp at hrest'
    · rw [hrest'] at hpre
      obtain ⟨r, rfl⟩ := prefix_line (hmark field hfield) hpre
      exact ht ⟨field, hfield, s, r, by simp [htext]⟩

/-- Texts that imitate no line end where their line does. -/
lemma line_inj (hmark : ∀ field ∈ fields, '\n' ∉ mark field) (hs : ¬ Imitates fields s)
    (ht : ¬ Imitates fields t) (hrest : Continues fields rest) (hmore : Continues fields more)
    (h : s ++ '\n' :: rest = t ++ '\n' :: more) : s = t ∧ rest = more := by
  rcases List.append_eq_append_iff.1 h with ⟨c, htext, hbehind⟩ | ⟨c, htext, hbehind⟩
  · exact eq_of_longer hmark ht hrest htext hbehind
  · obtain ⟨hts, hmr⟩ := eq_of_longer hmark hs hmore htext hbehind
    exact ⟨hts.symm, hmr.symm⟩

end

section

variable {x y : String → Option String}

lemma continues_written (x : String → Option String) (fields : List String) :
    Continues fields (written x fields) := by
  induction fields with
  | nil => exact .inl rfl
  | cons field fields ih =>
    rw [written_cons]
    cases x field with
    | none => exact ih.mono (by simp)
    | some t => exact .inr ⟨field, by simp, by simp⟩

/-- Lines of other fields do not start as the line of this one. -/
lemma not_continues {field : String} {fields : List String} (hnames : Names (field :: fields))
    {cs : List Char} : ¬ Continues fields (mark field ++ cs) := by
  rintro (hnil | ⟨g, hg, r, hr⟩)
  · simp [mark] at hnil
  · obtain ⟨rfl, -⟩ := mark_inj (hnames.2 g (by simp [hg])).1 (hnames.2 field (by simp)).1 hr
    exact (List.nodup_cons.1 hnames.1).1 hg

/-- Lines are read back: where no text imitates one, the lines tell the texts. -/
lemma text_eq_of_written {fields : List String} (hnames : Names fields)
    (hx : ∀ field ∈ fields, ∀ t ∈ x field, ¬ Imitates fields t.toList)
    (hy : ∀ field ∈ fields, ∀ t ∈ y field, ¬ Imitates fields t.toList)
    (h : written x fields = written y fields) : ∀ field ∈ fields, x field = y field := by
  induction fields with
  | nil => simp
  | cons f fields ih =>
    have hlater : Names fields :=
      ⟨(List.nodup_cons.1 hnames.1).2, fun g hg => hnames.2 g (by simp [hg])⟩
    have hmark : ∀ field ∈ f :: fields, '\n' ∉ mark field := fun g hg => by
      simp [mark, (hnames.2 g hg).2]
    have hclear {z : String → Option String}
        (hz : ∀ field ∈ f :: fields, ∀ t ∈ z field, ¬ Imitates (f :: fields) t.toList) :
        ∀ field ∈ fields, ∀ t ∈ z field, ¬ Imitates fields t.toList :=
      fun g hg t ht hin => hz g (by simp [hg]) t ht (hin.mono (by simp))
    have hcont (z : String → Option String) : Continues (f :: fields) (written z fields) :=
      (continues_written z fields).mono (by simp)
    have hthen (hf : x f = y f) (hrest : written x fields = written y fields) :
        ∀ field ∈ f :: fields, x field = y field :=
      List.forall_mem_cons.2 ⟨hf, ih hlater (hclear hx) (hclear hy) hrest⟩
    rw [written_cons, written_cons] at h
    cases hxf : x f with
    | none =>
      cases hyf : y f with
      | none =>
        rw [hxf, hyf] at h
        exact hthen (by rw [hxf, hyf]) h
      | some t =>
        rw [hxf, hyf] at h
        refine absurd (continues_written x fields) ?_
        rw [show written x fields = mark f ++ ((t.toList ++ ['\n']) ++ written y fields) by
          simpa using h]
        exact not_continues hnames
    | some s =>
      cases hyf : y f with
      | none =>
        rw [hxf, hyf] at h
        refine absurd (continues_written y fields) ?_
        rw [show written y fields = mark f ++ ((s.toList ++ ['\n']) ++ written x fields) by
          simpa using h.symm]
        exact not_continues hnames
      | some t =>
        rw [hxf, hyf] at h
        have hline : s.toList ++ '\n' :: written x fields =
            t.toList ++ '\n' :: written y fields := by simpa using h
        obtain ⟨hst, hrest⟩ := line_inj hmark (hx f (by simp) s hxf) (hy f (by simp) t hyf)
          (hcont x) (hcont y) hline
        exact hthen (by rw [hxf, hyf, String.toList_inj.1 hst]) hrest

lemma written_congr {fields : List String} (h : ∀ field ∈ fields, x field = y field) :
    written x fields = written y fields :=
  List.flatMap_congr fun field hfield => by rw [h field hfield]

end

lemma compute?_eq_digestText (record : Json.Members) : compute? record =
    if ∀ field ∈ identityFields, fieldText? record field = none then none
    else some (digestText (bytes record)) := by
  rw [compute?]
  simp only [List.isEmpty_iff, stream_eq_nil_iff]
  rfl

/-- **Fingerprints and identities**: what is digested for two listings is the same if the texts of
the identity fields are, and only then, as far as no text imitates a line. There is no fingerprint
if no identity field has a text; else it is the digest. Whatever stands under other keys is
irrelevant. -/
theorem bytes_tell_texts (a b : Json.Members) :
    ((∀ field ∈ identityFields, fieldText? a field = fieldText? b field) →
      bytes a = bytes b ∧ compute? a = compute? b) ∧
    (Legible a → Legible b → bytes a = bytes b →
      ∀ field ∈ identityFields, fieldText? a field = fieldText? b field) ∧
    (compute? a = if ∀ field ∈ identityFields, fieldText? a field = none then none
      else some (digestText (bytes a))) ∧
    ((∀ key ∈ identityFields, Keyed.get? a key = Keyed.get? b key) →
      bytes a = bytes b ∧ compute? a = compute? b) := by
  have hsame (h : ∀ field ∈ identityFields, fieldText? a field = fieldText? b field) :
      bytes a = bytes b ∧ compute? a = compute? b := by
    have hbytes : bytes a = bytes b := (bytes_eq_iff a b).2 (written_congr h)
    refine ⟨hbytes, ?_⟩
    rw [compute?_eq_digestText, compute?_eq_digestText, hbytes]
    refine if_congr (forall₂_congr fun field hfield => ?_) rfl rfl
    rw [h field hfield]
  refine ⟨hsame, fun ha hb h => ?_, compute?_eq_digestText a, fun h => hsame fun field hfield => ?_⟩
  · exact text_eq_of_written names_identityFields ha hb ((bytes_eq_iff a b).1 h)
  · rw [fieldText?, fieldText?, h field hfield]

/-- A flat in a street that is written on two lines. -/
def flat (city : String) : Json.Members :=
  [("address_string", .string "Rua A\n3. Esq."), ("city", .string city),
    ("latitude", .string "41.15"), ("title", .string "Loft")]

theorem bytes_tell_texts_flat :
    Legible (flat "Porto") ∧ Legible (flat "Faro") ∧
      bytes (flat "Porto") = bytes (flat "PORTO ") ∧
      bytes (flat "Porto") ≠ bytes (flat "Faro") := by
  have hporto : Legible (flat "Porto") := by decide +kernel
  have hfaro : Legible (flat "Faro") := by decide +kernel
  have hcase : ∀ field ∈ identityFields,
      fieldText? (flat "Porto") field = fieldText? (flat "PORTO ") field := by decide +kernel
  have hcity : fieldText? (flat "Porto") "city" ≠ fieldText? (flat "Faro") "city" := by
    decide +kernel
  refine ⟨hporto, hfaro, ((bytes_tell_texts _ _).1 hcase).1, fun h => hcity ?_⟩
  exact (bytes_tell_texts _ _).2.1 hporto hfaro h "city" (by decide)

/-- A street that goes over to the line of a city. -/
def imitating : Json.Members := [("address_string", .string "Rua A\ncity=Porto")]

/-- The street and the city. -/
def imitated : Json.Members := [("address_string", .string "Rua A"), ("city", .string "Porto")]

/-- Two listings with other texts have one stream of bytes, and one fingerprint. -/
theorem imitated_line :
    bytes imitating = bytes imitated ∧ compute? imitating = compute? imitated ∧
      fieldText? imitating "city" ≠ fieldText? imitated "city" := by
  have htexts : fieldText? imitating "city" ≠ fieldText? imitated "city" := by decide +kernel
  have hbytes : bytes imitating = bytes imitated := by
    rw [bytes_eq_iff]
    decide +kernel
  refine ⟨hbytes, ?_, htexts⟩
  rw [compute?_eq_digestText, compute?_eq_digestText, hbytes]
  decide +kernel

end Estate.Fingerprint
