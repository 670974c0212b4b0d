import Estate.Proofs.Json.Readers
import Estate.Proofs.Nesting
import Mathlib.Logic.Relation

/-!
Of the locators that are written for a rule, one counts.

The keys of a rule may set several kinds of locators. The first kind in a fixed order counts, at
the rule itself and at each of its fallbacks. The keys of the kinds behind it are read, but nothing
is made of them: without them, or with other texts for them, the rule is the same.
-/

namespace Estate

/-- The kinds of locators, each in front of those that count for less. -/
def LocatorKind.priority : List LocatorKind :=
  [.css, .scriptRegex, .scriptJson, .flightData, .jsonLd, .urlSegment]

/-- The keys that belong to one kind of locator alone. -/
def LocatorKind.keys : LocatorKind → List String
  | css => ["cssLocator", "cssCountId"]
  | scriptRegex => ["scriptRegEx", "caseInsensitive"]
  | scriptJson => ["scriptJsonVar", "scriptJsonPath"]
  | flightData => ["flightDataPath"]
  | jsonLd => ["jsonLdType", "jsonLdPath"]
  | urlSegment => ["urlPathPart"]
  | unset => []

/-- The keys of the kinds that count for less. -/
def LocatorKind.below (kind : LocatorKind) : List String :=
  ((priority.dropWhile (· != kind)).drop 1).flatMap keys

namespace RuleKeys

/-- Whether keys set a kind of locator. Four kinds need a text that is not blank, linked data and
the address need none but a key of theirs. -/
def sets (k : RuleKeys) : LocatorKind → Bool
  | .css => (filled? k.cssLocator).isSome
  | .scriptRegex => (filled? k.scriptRegEx).isSome
  | .scriptJson => (filled? k.scriptJsonVar).isSome
  | .flightData => (filled? k.flightDataPath).isSome
  | .jsonLd => k.jsonLdPath.isSome || k.jsonLdType.isSome
  | .urlSegment => k.urlPathPart.isSome
  | .unset => false

end RuleKeys

open Json

namespace RuleDocument

/-- The text that is written for a key. -/
def text? (fields : Fields) (name : String) : Option String :=
  (fields.lookup name).bind Term.string?

def isTextOrNumber : Term → Bool
  | .text _ | .number _ => true
  | _ => false

/-- Whether keys set a kind of locator. Four kinds need a text that is not blank, linked data any
text, and the address a text or a number. -/
def sets (fields : Fields) : LocatorKind → Bool
  | .css => (RuleKeys.filled? (text? fields "cssLocator")).isSome
  | .scriptRegex => (RuleKeys.filled? (text? fields "scriptRegEx")).isSome
  | .scriptJson => (RuleKeys.filled? (text? fields "scriptJsonVar")).isSome
  | .flightData => (RuleKeys.filled? (text? fields "flightDataPath")).isSome
  | .jsonLd => (text? fields "jsonLdPath").isSome || (text? fields "jsonLdType").isSome
  | .urlSegment => (fields.lookup "urlPathPart").any isTextOrNumber
  | .unset => false

/-- The first kind of locator that keys set. -/
def firstSet (fields : Fields) : LocatorKind :=
  (LocatorKind.priority.find? (sets fields)).getD .unset

/-- The first kind of locator that is set where a rule is written. -/
def kind? (t : Term) : Option LocatorKind := (shape.read? t).map firstSet

/-- What is written as fallbacks. -/
def fallbackTerms (t : Term) : List Term :=
  match (shape.read? t).bind (·.lookup "fallbacks") with
  | some (.array items) => items
  | _ => []

/-- What is written where the numbers of fallbacks lead. -/
def nodeAt? (t : Term) : List Nat → Option Term
  | [] => some t
  | i :: path => (fallbackTerms t)[i]?.bind fun f => nodeAt? f path

/-- A member under a key, by whichever of its names, that counts for less than the locator of the
rule it is written for. -/
def Below (members : List (Option String × Term)) (m : Option String × Term) : Prop :=
  ∃ kind ∈ kind? (.object members), ∃ f ∈ shape.known? m, f.1 ∈ kind.below

instance (members : List (Option String × Term)) (m : Option String × Term) :
    Decidable (Below members m) :=
  inferInstanceAs (Decidable (∃ kind ∈ kind? (.object members), ∃ f ∈ shape.known? m,
    f.1 ∈ kind.below))

/-- What a rule is written as before and after some keys that count for less have been deleted or
added, at the rule itself or at a fallback. -/
inductive Edit : Term → Term → Prop where
  | delete {members : List (Option String × Term)} {keep : Option String × Term → Bool}
    (hbelow : ∀ m ∈ members, ¬ keep m → Below members m) :
    Edit (.object members) (.object (members.filter keep))
  /-- Any texts may be added under keys that are not there yet. -/
  | add {members : List (Option String × Term)} {keep : Option String × Term → Bool}
    (hbelow : ∀ m ∈ members, ¬ keep m → Below (members.filter keep) m ∧ m.2.string?.isSome)
    (hnames : ((members.filterMap shape.known?).map (·.1)).Nodup) :
    Edit (.object (members.filter keep)) (.object members)
  | fallback {before after : List (Option String × Term)} {left right : List Term} {t t' : Term}
    (h : Edit t t') :
    Edit (.object (before ++ (some "fallbacks", .array (left ++ t :: right)) :: after))
      (.object (before ++ (some "fallbacks", .array (left ++ t' :: right)) :: after))
  /-- In a rule that is written as an array the fallbacks are the item behind 17 others. -/
  | item {before after left right : List Term} {t t' : Term} (hplace : before.length = 17)
    (h : Edit t t') :
    Edit (.array (before ++ .array (left ++ t :: right) :: after))
      (.array (before ++ .array (left ++ t' :: right) :: after))

/-! ### Keys that are read -/

/-- What the fields give for each key. -/
structure Reads (depth : Nat) (fields : Fields) (k : RuleKeys) : Prop where
  cssLocator : fields.get? "cssLocator" none Term.optionalString? = some k.cssLocator
  cssAttr : fields.get? "cssAttr" none Term.optionalString? = some k.cssAttr
  xmlAttr : fields.get? "xmlAttr" none Term.optionalString? = some k.xmlAttr
  cssCountId : fields.get? "cssCountId" none (Term.stringOrNumber? depth) = some k.cssCountId
  scriptRegEx : fields.get? "scriptRegEx" none Term.optionalString? = some k.scriptRegEx
  scriptJsonVar : fields.get? "scriptJsonVar" none Term.optionalString? = some k.scriptJsonVar
  scriptJsonPath : fields.get? "scriptJsonPath" none Term.optionalString? = some k.scriptJsonPath
  flightDataPath : fields.get? "flightDataPath" none Term.optionalString? = some k.flightDataPath
  jsonLdType : fields.get? "jsonLdType" none Term.optionalString? = some k.jsonLdType
  jsonLdPath : fields.get? "jsonLdPath" none Term.optionalString? = some k.jsonLdPath
  urlPathPart : fields.get? "urlPathPart" none (Term.stringOrNumber? depth) = some k.urlPathPart
  splitTextCharacter :
    fields.get? "splitTextCharacter" none Term.optionalString? = some k.splitTextCharacter
  splitTextArrayId :
    fields.get? "splitTextArrayId" none (Term.stringOrNumber? depth) = some k.splitTextArrayId
  stripString : fields.get? "stripString" none Term.optionalString? = some k.stripString
  stripFirstChar :
    fields.get? "stripFirstChar" false (Term.flexibleBool? depth) = some k.stripFirstChar
  caseInsensitive :
    fields.get? "caseInsensitive" false (Term.flexibleBool? depth) = some k.caseInsensitive
  modifiers : fields.get? "modifiers" [] (Term.strings? depth) = some k.modifiers
  thumbnailPatterns :
    fields.get? "thumbnailPatterns" [] (Term.list? depth thumbnail?) = some k.thumbnailPatterns
  imagePathPrefix :
    fields.get? "imagePathPrefix" none Term.optionalString? = some k.imagePathPrefix
  evaluator : fields.get? "evaluator" none Term.optionalString? = some k.evaluator
  evaluatorParam : fields.get? "evaluatorParam" none Term.optionalString? = some k.evaluatorParam

lemma keys?_eq_some {depth : Nat} {fields : Fields} {k : RuleKeys} :
    keys? depth fields = some k ↔ Reads depth fields k := by
  constructor
  · intro h
    -- one step for each key, in the order in which they are read
    iterate 21 obtain ⟨_, _, h⟩ := Option.bind_eq_some_iff.1 h
    cases h
    constructor <;> assumption
  · intro h
    simp only [keys?, h.cssLocator, h.cssAttr, h.xmlAttr, h.cssCountId, h.scriptRegEx,
      h.scriptJsonVar, h.scriptJsonPath, h.flightDataPath, h.jsonLdType, h.jsonLdPath,
      h.urlPathPart, h.splitTextCharacter, h.splitTextArrayId, h.stripString, h.stripFirstChar,
      h.caseInsensitive, h.modifiers, h.thumbnailPatterns, h.imagePathPrefix, h.evaluator,
      h.evaluatorParam, Option.bind_eq_bind, Option.bind_some, Option.pure_def]

lemma text?_of_get? {fields : Fields} {name : String} {s : Option String}
    (h : fields.get? name none Term.optionalString? = some s) : text? fields name = s := by
  unfold Fields.get? at h
  unfold text?
  cases hl : fields.lookup name with
  | none =>
    rw [hl] at h
    cases h
    rfl
  | some t =>
    rw [hl] at h
    cases t with
    | null =>
      cases h
      rfl
    | text s' =>
      cases s' with
      | none => cases h
      | some s' =>
        cases h
        rfl
    | _ => cases h

lemma isSome_of_get? {depth : Nat} {fields : Fields} {name : String} {s : Option String}
    (h : fields.get? name none (Term.stringOrNumber? depth) = some s) :
    s.isSome = (fields.lookup name).any isTextOrNumber := by
  unfold Fields.get? at h
  cases hl : fields.lookup name with
  | none =>
    rw [hl] at h
    cases h
    rfl
  | some t =>
    rw [hl] at h
    obtain ⟨v, hv, rfl⟩ := Option.map_eq_some_iff.1 h
    rw [Option.any_some]
    cases t with
    | null | bool b =>
      cases hv
      rfl
    | number n | text s =>
      obtain ⟨_, -, rfl⟩ := Option.map_eq_some_iff.1 hv
      rfl
    | array items | object members =>
      cases depth with
      | zero => cases hv
      | succ d =>
        obtain ⟨_, -, rfl⟩ := Option.map_eq_some_iff.1 hv
        rfl

/-- The kinds that are set are those that are set in the keys that are read. -/
lemma sets_of_reads {depth : Nat} {fields : Fields} {k : RuleKeys} (h : Reads depth fields k) :
    sets fields = k.sets := by
  funext kind
  cases kind <;> simp only [sets, RuleKeys.sets, text?_of_get? h.cssLocator,
    text?_of_get? h.scriptRegEx, text?_of_get? h.scriptJsonVar, text?_of_get? h.flightDataPath,
    text?_of_get? h.jsonLdType, text?_of_get? h.jsonLdPath, isSome_of_get? h.urlPathPart]

end RuleDocument

namespace RuleKeys

variable [Regex.Engine]

/-- **Which locator counts**: one of the first kind that is set. -/
lemma kind_locator {k : RuleKeys} {field : String} {l : Locator} (h : k.locator field = .ok l) :
    l.kind = (LocatorKind.priority.find? k.sets).getD .unset := by
  unfold locator at h
  unfold LocatorKind.priority
  split at h
  · next hcss =>
    cases h
    simp [sets, hcss, Locator.kind]
  next hcss =>
  split at h
  · next hregex =>
    split at h
    · cases h
      simp [sets, hcss, hregex, Locator.kind]
    · cases h
  next hregex =>
  split at h
  · next hjson =>
    cases h
    simp [sets, hcss, hregex, hjson, Locator.kind]
  next hjson =>
  split at h
  · next hflight =>
    cases h
    simp [sets, hcss, hregex, hjson, hflight, Locator.kind]
  next hflight =>
  split at h
  · next hld =>
    cases h
    simp [sets, hcss, hregex, hjson, hflight, hld, Locator.kind]
  next hld =>
  split at h
  · next hurl =>
    cases h
    simp [sets, hcss, hregex, hjson, hflight, hld, hurl, Locator.kind]
  next hurl =>
  cases h
  simp [sets, hcss, hregex, hjson, hflight, hld, hurl, Locator.kind]

/-- Keys that are the same but for those of some names, which may be any of the keys that do not
belong to the first kind of locator. -/
structure AlikeBut (names : List String) (k k' : RuleKeys) : Prop where
  scriptRegEx : "scriptRegEx" ∉ names → k'.scriptRegEx = k.scriptRegEx
  caseInsensitive : "caseInsensitive" ∉ names → k'.caseInsensitive = k.caseInsensitive
  scriptJsonVar : "scriptJsonVar" ∉ names → k'.scriptJsonVar = k.scriptJsonVar
  scriptJsonPath : "scriptJsonPath" ∉ names → k'.scriptJsonPath = k.scriptJsonPath
  flightDataPath : "flightDataPath" ∉ names → k'.flightDataPath = k.flightDataPath
  jsonLdType : "jsonLdType" ∉ names → k'.jsonLdType = k.jsonLdType
  jsonLdPath : "jsonLdPath" ∉ names → k'.jsonLdPath = k.jsonLdPath
  urlPathPart : "urlPathPart" ∉ names → k'.urlPathPart = k.urlPathPart
  others : k' = { k with
    scriptRegEx := k'.scriptRegEx
    caseInsensitive := k'.caseInsensitive
    scriptJsonVar := k'.scriptJsonVar
    scriptJsonPath := k'.scriptJsonPath
    flightDataPath := k'.flightDataPath
    jsonLdType := k'.jsonLdType
    jsonLdPath := k'.jsonLdPath
    urlPathPart := k'.urlPathPart }

/-- Keys that count for less than the locator make no difference to it. -/
lemma AlikeBut.locator {k k' : RuleKeys} {kind : LocatorKind} (h : k.AlikeBut kind.below k')
    {field : String} {l : Locator} (hl : k.locator field = .ok l) (hkind : l.kind = kind) :
    k'.locator field = .ok l := by
  have hcssLocator : k'.cssLocator = k.cssLocator := by rw [h.others]
  have haccessor : k'.accessor? = k.accessor? := by rw [h.others]; rfl
  have hcssCountId : k'.cssCountId = k.cssCountId := by rw [h.others]
  unfold RuleKeys.locator at hl
  unfold RuleKeys.locator
  rw [hcssLocator, haccessor, hcssCountId]
  -- the keys that are looked at before the locator is found are none of those behind it
  split at hl
  · exact hl
  next hcss =>
  split at hl
  · next hregex =>
    split at hl
    · next hread =>
      cases hl
      obtain rfl : kind = .scriptRegex := hkind.symm
      rw [h.scriptRegEx (by decide), h.caseInsensitive (by decide), hregex]
      simp only [hread]
    · cases hl
  next hregex =>
  split at hl
  · next hjson =>
    cases hl
    obtain rfl : kind = .scriptJson := hkind.symm
    rw [h.scriptRegEx (by decide), hregex, h.scriptJsonVar (by decide), hjson,
      h.scriptJsonPath (by decide)]
  next hjson =>
  split at hl
  · next hflight =>
    cases hl
    obtain rfl : kind = .flightData := hkind.symm
    rw [h.scriptRegEx (by decide), hregex, h.scriptJsonVar (by decide), hjson,
      h.flightDataPath (by decide), hflight]
  next hflight =>
  split at hl
  · next hld =>
    cases hl
    obtain rfl : kind = .jsonLd := hkind.symm
    rw [h.scriptRegEx (by decide), hregex, h.scriptJsonVar (by decide), hjson,
      h.flightDataPath (by decide), hflight, h.jsonLdPath (by decide), h.jsonLdType (by decide)]
    exact if_pos hld
  next hld =>
  split at hl
  · next hurl =>
    cases hl
    obtain rfl : kind = .urlSegment := hkind.symm
    rw [h.scriptRegEx (by decide), hregex, h.scriptJsonVar (by decide), hjson,
      h.flightDataPath (by decide), hflight, h.jsonLdPath (by decide), h.jsonLdType (by decide),
      h.urlPathPart (by decide)]
    exact (if_neg hld).trans (if_pos hurl)
  next hurl =>
  cases hl
  obtain rfl : kind = .unset := hkind.symm
  rw [h.scriptRegEx (by decide), hregex, h.scriptJsonVar (by decide), hjson,
    h.flightDataPath (by decide), hflight, h.jsonLdPath (by decide), h.jsonLdType (by decide),
    h.urlPathPart (by decide)]
  exact (if_neg hld).trans (if_neg hurl)

lemma kind_probe {k : RuleKeys} {field : String} {p : Probe} (h : k.probe field = .ok p) :
    p.locator.kind = (LocatorKind.priority.find? k.sets).getD .unset := by
  obtain ⟨l, hl, h⟩ := Failure.bind_ok.1 h
  cases h
  exact kind_locator hl

/-- Keys that count for less than the locator make no difference to what is loaded. -/
lemma AlikeBut.probe {k k' : RuleKeys} {kind : LocatorKind} (h : k.AlikeBut kind.below k')
    {field : String} {p : Probe} (hp : k.probe field = .ok p) (hkind : p.locator.kind = kind) :
    k'.probe field = .ok p := by
  obtain ⟨l, hl, hp⟩ := Failure.bind_ok.1 hp
  cases hp
  refine Failure.bind_ok.2 ⟨l, h.locator hl hkind, ?_⟩
  rw [h.others]
  rfl

end RuleKeys

/-! ### Fields that have been edited -/

namespace Json.Fields

/-- Fields are the same but for those of some names, which may be gone, or new with a text. -/
def Amended (names : List String) (fields fields' : Fields) : Prop :=
  ∀ name, fields'.lookup name = fields.lookup name ∨ name ∈ names ∧
    (fields'.lookup name = none ∨ ∃ s, fields'.lookup name = some (.text (some s)))

variable {α : Type} {names : List String} {fields fields' : Fields} {name : String} {absent : α}
  {reader : Term → Option α}

lemma Amended.lookup_eq (h : Amended names fields fields') (hname : name ∉ names) :
    fields'.lookup name = fields.lookup name :=
  (h name).resolve_right fun hmem => hname hmem.1

lemma get?_congr (h : fields'.lookup name = fields.lookup name) :
    fields'.get? name absent reader = fields.get? name absent reader := by
  rw [Fields.get?, Fields.get?, h]

/-- A field that can be read can still be read if its reader reads any text. -/
lemma Amended.get? (h : Amended names fields fields')
    (hreader : ∀ s, ∃ a, reader (.text (some s)) = some a) {a : α}
    (ha : fields.get? name absent reader = some a) :
    ∃ a', fields'.get? name absent reader = some a' ∧ (name ∉ names → a' = a) := by
  obtain hsame | ⟨hmem, hnone | ⟨s, hs⟩⟩ := h name
  · exact ⟨a, (get?_congr hsame).trans ha, fun _ => rfl⟩
  · exact ⟨absent, by rw [Fields.get?, hnone], fun hnot => absurd hmem hnot⟩
  · obtain ⟨a', ha'⟩ := hreader s
    exact ⟨a', by rw [Fields.get?, hs]; exact ha', fun hnot => absurd hmem hnot⟩

end Json.Fields

namespace RuleDocument

/-- The keys that any kind of locator has behind it. -/
def lesser : List String := LocatorKind.below .css

lemma below_subset_lesser (kind : LocatorKind) : kind.below ⊆ lesser := by
  cases kind <;> decide

/-- Keys that can be read can be read after an edit of fields, and are the same elsewhere. -/
lemma Reads.amended {depth : Nat} {names : List String} {fields fields' : Fields} {k : RuleKeys}
    (hk : Reads depth fields k) (h : fields.Amended names fields') (hnames : names ⊆ lesser) :
    ∃ k', Reads depth fields' k' ∧ k.AlikeBut names k' := by
  have htext : ∀ s, ∃ a, Term.optionalString? (.text (some s)) = some a := fun s => ⟨s, rfl⟩
  have hindex : ∀ s, ∃ a, Term.stringOrNumber? depth (.text (some s)) = some a := fun s => ⟨s, rfl⟩
  have hflag : ∀ s, ∃ a, Term.flexibleBool? depth (.text (some s)) = some a := fun s => ⟨_, rfl⟩
  obtain ⟨regex, hregex, hregex'⟩ := h.get? htext hk.scriptRegEx
  obtain ⟨insensitive, hinsensitive, hinsensitive'⟩ := h.get? hflag hk.caseInsensitive
  obtain ⟨script, hscript, hscript'⟩ := h.get? htext hk.scriptJsonVar
  obtain ⟨path, hpath, hpath'⟩ := h.get? htext hk.scriptJsonPath
  obtain ⟨flight, hflight, hflight'⟩ := h.get? htext hk.flightDataPath
  obtain ⟨type, htype, htype'⟩ := h.get? htext hk.jsonLdType
  obtain ⟨linked, hlinked, hlinked'⟩ := h.get? htext hk.jsonLdPath
  obtain ⟨part, hpart, hpart'⟩ := h.get? hindex hk.urlPathPart
  have hsame : ∀ {α : Type} {absent : α} {reader : Term → Option α} (name : String) {a : α},
      fields.get? name absent reader = some a → name ∉ lesser →
        fields'.get? name absent reader = some a := fun name a ha hname =>
    (Fields.get?_congr (h.lookup_eq fun hmem => hname (hnames hmem))).trans ha
  refine ⟨{ k with
    scriptRegEx := regex
    caseInsensitive := insensitive
    scriptJsonVar := script
    scriptJsonPath := path
    flightDataPath := flight
    jsonLdType := type
    jsonLdPath := linked
    urlPathPart := part }, ?_, ⟨hregex', hinsensitive', hscript', hpath', hflight', htype',
      hlinked', hpart', rfl⟩⟩
  exact {
    cssLocator := hsame _ hk.cssLocator (by decide)
    cssAttr := hsame _ hk.cssAttr (by decide)
    xmlAttr := hsame _ hk.xmlAttr (by decide)
    cssCountId := hsame _ hk.cssCountId (by decide)
    scriptRegEx := hregex
    scriptJsonVar := hscript
    scriptJsonPath := hpath
    flightDataPath := hflight
    jsonLdType := htype
    jsonLdPath := hlinked
    urlPathPart := hpart
    splitTextCharacter := hsame _ hk.splitTextCharacter (by decide)
    splitTextArrayId := hsame _ hk.splitTextArrayId (by decide)
    stripString := hsame _ hk.stripString (by decide)
    stripFirstChar := hsame _ hk.stripFirstChar (by decide)
    caseInsensitive := hinsensitive
    modifiers := hsame _ hk.modifiers (by decide)
    thumbnailPatterns := hsame _ hk.thumbnailPatterns (by decide)
    imagePathPrefix := hsame _ hk.imagePathPrefix (by decide)
    evaluator := hsame _ hk.evaluator (by decide)
    evaluatorParam := hsame _ hk.evaluatorParam (by decide) }

end RuleDocument

namespace Json.Shape

variable {shape : Shape} {members : List (Option String × Term)} {fields : Fields}

lemma ofMembers?_eq_some : shape.ofMembers? members = some fields ↔
    (∀ m ∈ members, m.1.isSome) ∧ ((members.filterMap shape.known?).map (·.1)).Nodup ∧
      members.filterMap shape.known? = fields := by
  by_cases hkeys : ∀ m ∈ members, m.1.isSome
  · rw [ofMembers?_eq shape hkeys, Option.ite_none_right_eq_some, Option.some.injEq]
    exact (and_iff_right hkeys).symm
  · refine iff_of_false (fun h => hkeys ?_) fun h => hkeys h.1
    induction members generalizing fields with
    | nil => exact fun m hm => absurd hm List.not_mem_nil
    | cons m rest ih =>
      obtain ⟨_ | key, t⟩ := m
      · cases h
      · obtain ⟨fields', hrest, -⟩ := Option.bind_eq_some_iff.1 h
        have hkeys' : ¬ ∀ m ∈ rest, m.1.isSome := fun hall =>
          hkeys (List.forall_mem_cons.2 ⟨rfl, hall⟩)
        exact absurd (ih hkeys' hrest) hkeys'

/-- Where some members are left out, what they are known by is missing, and nothing else. -/
lemma lookup_filter {keep : Option String × Term → Bool} {names : List String}
    (h : ∀ m ∈ members, ¬ keep m → ∃ f ∈ shape.known? m, f.1 ∈ names) {name : String}
    (hname : name ∉ names) :
    ((members.filter keep).filterMap shape.known?).lookup name =
      (members.filterMap shape.known?).lookup name := by
  induction members with
  | nil => rfl
  | cons m rest ih =>
    have hrest := ih fun m hm => h m (List.mem_cons_of_mem _ hm)
    by_cases hkeep : keep m
    · rw [List.filter_cons_of_pos hkeep, List.filterMap_cons, List.filterMap_cons]
      cases shape.known? m with
      | none => exact hrest
      | some f =>
        obtain ⟨key, t⟩ := f
        simp only [List.lookup_cons, hrest]
    · obtain ⟨⟨key, t⟩, hf, hmem⟩ := h m List.mem_cons_self hkeep
      have hne : (name == key) = false := beq_false_of_ne fun heq => hname (heq ▸ hmem)
      rw [List.filter_cons_of_neg hkeep, List.filterMap_cons, Option.mem_def.1 hf, hrest]
      simp only [List.lookup_cons, hne]

lemma snd_eq_of_known? {m : Option String × Term} {f : String × Term} (h : f ∈ shape.known? m) :
    f.2 = m.2 := by
  obtain ⟨name, -, rfl⟩ := Option.map_eq_some_iff.1 h
  rfl

/-- Members of some names are deleted. -/
lemma amended_filter {keep : Option String × Term → Bool} {names : List String}
    (hread : shape.ofMembers? members = some fields)
    (h : ∀ m ∈ members, ¬ keep m → ∃ f ∈ shape.known? m, f.1 ∈ names) :
    ∃ fields', shape.ofMembers? (members.filter keep) = some fields' ∧
      fields.Amended names fields' := by
  obtain ⟨hkeys, hnodup, rfl⟩ := ofMembers?_eq_some.1 hread
  have hsub : ((members.filter keep).filterMap shape.known?).Sublist
      (members.filterMap shape.known?) := List.filter_sublist.filterMap _
  refine ⟨_, ofMembers?_eq_some.2 ⟨fun m hm => hkeys m (List.mem_of_mem_filter hm),
    hnodup.sublist (hsub.map _), rfl⟩, fun name => ?_⟩
  by_cases hname : name ∈ names
  · cases hl : ((members.filter keep).filterMap shape.known?).lookup name with
    | none => exact .inr ⟨hname, .inl rfl⟩
    | some t => exact .inl (Keyed.get?_of_mem hnodup (hsub.mem (Keyed.mem_of_get? hl))).symm
  · exact .inl (lookup_filter h hname)

/-- Texts of some names are added. -/
lemma amended_of_filter {keep : Option String × Term → Bool} {names : List String}
    (hread : shape.ofMembers? (members.filter keep) = some fields)
    (h : ∀ m ∈ members, ¬ keep m →
      (∃ f ∈ shape.known? m, f.1 ∈ names) ∧ ∃ s, m.2 = .text (some s))
    (hnodup : ((members.filterMap shape.known?).map (·.1)).Nodup) :
    ∃ fields', shape.ofMembers? members = some fields' ∧ fields.Amended names fields' := by
  obtain ⟨hkeys, hnodup', rfl⟩ := ofMembers?_eq_some.1 hread
  have hkeys' : ∀ m ∈ members, m.1.isSome := fun m hm => by
    by_cases hkeep : keep m
    · exact hkeys m (List.mem_filter.2 ⟨hm, hkeep⟩)
    · obtain ⟨⟨f, hf, -⟩, -⟩ := h m hm hkeep
      obtain ⟨_, hname, -⟩ := Option.map_eq_some_iff.1 hf
      exact Option.isSome_of_mem (Option.bind_eq_some_iff.1 hname).choose_spec.1
  refine ⟨_, ofMembers?_eq_some.2 ⟨hkeys', hnodup, rfl⟩, fun name => ?_⟩
  by_cases hname : name ∈ names
  · cases hl : (members.filterMap shape.known?).lookup name with
    | none => exact .inr ⟨hname, .inl rfl⟩
    | some t =>
      obtain ⟨m, hm, hf⟩ := List.mem_filterMap.1 (Keyed.mem_of_get? hl)
      by_cases hkeep : keep m
      · have hmem := List.mem_filterMap.2 ⟨m, List.mem_filter.2 ⟨hm, hkeep⟩, hf⟩
        exact .inl (Keyed.get?_of_mem hnodup' hmem).symm
      · obtain ⟨-, s, hs⟩ := h m hm hkeep
        have ht : t = m.2 := snd_eq_of_known? hf
        exact .inr ⟨hname, .inr ⟨s, by rw [ht, hs]⟩⟩
  · exact .inl (lookup_filter (fun m hm hkeep => (h m hm hkeep).1) hname).symm

end Json.Shape

/-! ### Rules that are written -/

namespace RuleDocument

/-- What is read where fallbacks are written. -/
def ReadsFallbacks : Nat → Option Term → List RuleDocument → Prop
  | _, none, docs => docs = []
  | e + 1, some (.array items), docs => List.Forall₂ (fun t d => ofTerm? e t = some d) items docs
  | _, some _, _ => False

/-- All that reading of a rule checks and does. -/
lemma ofTerm?_eq_some {d : Nat} {t : Term} {k : RuleKeys} {docs : List RuleDocument} :
    ofTerm? (d + 1) t = some (.mk k docs) ↔ ∃ fields, shape.read? t = some fields ∧
      Reads d fields k ∧ ReadsFallbacks d (fields.lookup "fallbacks") docs := by
  rw [ofTerm?, Option.bind_eq_bind, Option.bind_eq_some_iff]
  refine exists_congr fun fields => and_congr_right fun _ => ?_
  rw [Option.bind_eq_bind, Option.bind_eq_some_iff, ← keys?_eq_some]
  generalize fields.lookup "fallbacks" = written
  cases written with
  | none =>
    constructor
    · rintro ⟨_, hk, h⟩
      cases h
      exact ⟨hk, rfl⟩
    · rintro ⟨hk, rfl⟩
      exact ⟨k, hk, rfl⟩
  | some t =>
    cases t with
    | array items =>
      cases d with
      | zero =>
        refine iff_of_false ?_ fun h => h.2
        rintro ⟨_, _, h⟩
        cases h
      | succ e =>
        constructor
        · rintro ⟨_, hk, h⟩
          obtain ⟨_, hdocs, h⟩ := Option.bind_eq_some_iff.1 h
          cases h
          exact ⟨hk, mapM_eq_some.1 hdocs⟩
        · rintro ⟨hk, hdocs⟩
          exact ⟨k, hk, Option.bind_eq_some_iff.2 ⟨docs, mapM_eq_some.2 hdocs, rfl⟩⟩
    | _ =>
      refine iff_of_false ?_ fun h => h.2
      rintro ⟨_, _, h⟩
      cases h

lemma Reads.congr {depth : Nat} {fields fields' : Fields} {k : RuleKeys}
    (hk : Reads depth fields k)
    (h : ∀ name, name ≠ "fallbacks" → fields'.lookup name = fields.lookup name) :
    Reads depth fields' k := by
  have hget : ∀ {α : Type} (name : String) (absent : α) (reader : Term → Option α),
      name ≠ "fallbacks" → fields'.get? name absent reader = fields.get? name absent reader :=
    fun name _ _ hname => Fields.get?_congr (h name hname)
  rw [← keys?_eq_some] at hk ⊢
  rw [← hk]
  unfold keys?
  simp (disch := decide) only [hget]

/-- The documents of the fallbacks are read from what is written as fallbacks. -/
lemma forall₂_fallbackTerms {d : Nat} {t : Term} {k : RuleKeys} {docs : List RuleDocument}
    (h : ofTerm? (d + 1) t = some (.mk k docs)) :
    ∃ e, List.Forall₂ (fun t d => ofTerm? e t = some d) (fallbackTerms t) docs := by
  obtain ⟨fields, hread, -, hdocs⟩ := ofTerm?_eq_some.1 h
  rw [fallbackTerms, hread, Option.bind_some]
  revert hdocs
  generalize fields.lookup "fallbacks" = written
  intro hdocs
  cases written with
  | none =>
    cases hdocs
    exact ⟨0, .nil⟩
  | some s =>
    cases s with
    | array items =>
      cases d with
      | zero => cases hdocs
      | succ e => exact ⟨e, hdocs⟩
    | _ => cases d <;> cases hdocs

/-- In an object the fallbacks are one field among the others, whatever is written for them. -/
lemma read?_fallbacks {before after : List (Option String × Term)} {x : Term} {fields : Fields}
    (h : shape.read? (.object (before ++ (some "fallbacks", x) :: after)) = some fields) :
    ∃ before' after' : Fields, "fallbacks" ∉ before'.map (·.1) ∧
      ∀ y, shape.read? (.object (before ++ (some "fallbacks", y) :: after)) =
        some (before' ++ ("fallbacks", y) :: after') := by
  obtain ⟨hkeys, hnodup, -⟩ := Shape.ofMembers?_eq_some.1 h
  have hknown : ∀ y, (before ++ (some "fallbacks", y) :: after).filterMap shape.known? =
      before.filterMap shape.known? ++ ("fallbacks", y) :: after.filterMap shape.known? :=
    fun y => by rw [List.filterMap_append]; rfl
  rw [hknown, List.map_append, List.map_cons] at hnodup
  refine ⟨before.filterMap shape.known?, after.filterMap shape.known?, fun hmem => ?_, fun y => ?_⟩
  · exact (List.nodup_append.1 hnodup).2.2 _ hmem _ List.mem_cons_self rfl
  · refine Shape.ofMembers?_eq_some.2 ⟨fun m hm => ?_, ?_, hknown y⟩
    · rcases List.mem_append.1 hm with hm | hm
      · exact hkeys m (List.mem_append_left _ hm)
      · rcases List.mem_cons.1 hm with rfl | hm
        · rfl
        · exact hkeys m (List.mem_append_right _ (List.mem_cons_of_mem _ hm))
    · rwa [hknown, List.map_append, List.map_cons]

/-- In an array they are so by their place. -/
lemma read?_items_fallbacks {before after : List Term} (hplace : before.length = 17) {x : Term}
    {fields : Fields} (h : shape.read? (.array (before ++ x :: after)) = some fields) :
    ∃ before' after' : Fields, "fallbacks" ∉ before'.map (·.1) ∧
      ∀ y, shape.read? (.array (before ++ y :: after)) =
        some (before' ++ ("fallbacks", y) :: after') := by
  have hnames : shape.filterMap List.head? = (shape.filterMap List.head?).take 17 ++
      "fallbacks" :: (shape.filterMap List.head?).drop 18 := rfl
  have hlen : (before ++ x :: after).length ≤ shape.length := by
    rw [Shape.read?] at h
    exact Decidable.byContradiction fun hlong => by rw [if_neg hlong] at h; cases h
  refine ⟨((shape.filterMap List.head?).take 17).zip before,
    ((shape.filterMap List.head?).drop 18).zip after, fun hmem => ?_, fun y => ?_⟩
  · obtain ⟨⟨name, t⟩, hmem, rfl⟩ := List.mem_map.1 hmem
    exact absurd (List.of_mem_zip hmem).1 (by decide)
  · rw [Shape.read?, if_pos (by simpa using hlen), hnames, List.zip_append (by rw [hplace]; rfl)]
    rfl

lemma eq_text {t : Term} (h : t.string?.isSome) : ∃ s, t = .text (some s) := by
  cases t with
  | text s => exact (Option.isSome_iff_exists.1 h).imp fun _ hs => congrArg Term.text hs
  | _ => cases h

lemma Below.known {members : List (Option String × Term)} {m : Option String × Term}
    (h : Below members m) {fields : Fields} (hread : shape.read? (.object members) = some fields) :
    ∃ f ∈ shape.known? m, f.1 ∈ (firstSet fields).below := by
  obtain ⟨kind, hkind, h⟩ := h
  rw [kind?, hread] at hkind
  cases hkind
  exact h

/-! ### Rules that are loaded -/

variable [Regex.Engine]

/-- Wherever the one is loaded, the other is loaded as the same rule. -/
def LoadsAs (d d' : RuleDocument) : Prop :=
  ∀ field depth r, Rule.ofDocument field depth d = .ok r → Rule.ofDocument field depth d' = .ok r

lemma LoadsAs.refl (d : RuleDocument) : LoadsAs d d := fun _ _ _ h => h

lemma ofDocuments_loadsAs {ds ds' : List RuleDocument} (h : List.Forall₂ LoadsAs ds ds')
    {field : String} {depth : Nat} {rs : List Rule}
    (hds : Rule.ofDocuments field depth ds = .ok rs) :
    Rule.ofDocuments field depth ds' = .ok rs := by
  induction h generalizing rs with
  | nil => exact hds
  | cons h _ ih =>
    obtain ⟨r, hr, hds⟩ := Failure.bind_ok.1 hds
    obtain ⟨rs', hrs, hds⟩ := Failure.bind_ok.1 hds
    exact Failure.bind_ok.2 ⟨r, h field depth r hr, Failure.bind_ok.2 ⟨rs', ih hrs, hds⟩⟩

lemma LoadsAs.mk {k k' : RuleKeys} {docs docs' : List RuleDocument}
    (hk : ∀ field p, k.probe field = .ok p → k'.probe field = .ok p)
    (hdocs : List.Forall₂ LoadsAs docs docs') : LoadsAs (.mk k docs) (.mk k' docs') := by
  intro field depth r h
  obtain ⟨hdepth, p, rs, hp, hrs, rfl⟩ := Rule.ofDocument_ok h
  unfold Rule.ofDocument
  rw [if_neg (by omega)]
  exact Failure.bind_ok.2 ⟨p, hk field p hp,
    Failure.bind_ok.2 ⟨rs, ofDocuments_loadsAs hdocs hrs, rfl⟩⟩

/-- Fields without which, or with other texts for which, the locator is the same make no difference
to the rule. -/
lemma ofTerm?_amended {d : Nat} {t t' : Term} {fields fields' : Fields} {doc : RuleDocument}
    (hread : shape.read? t = some fields) (hread' : shape.read? t' = some fields')
    (h : fields.Amended (firstSet fields).below fields') (hdoc : ofTerm? d t = some doc) :
    ∃ doc', ofTerm? d t' = some doc' ∧ doc.LoadsAs doc' := by
  cases d with
  | zero => cases hdoc
  | succ d =>
    obtain ⟨k, docs⟩ := doc
    obtain ⟨fields₀, hread₀, hk, hdocs⟩ := ofTerm?_eq_some.1 hdoc
    cases hread.symm.trans hread₀
    have hlesser := below_subset_lesser (firstSet fields)
    obtain ⟨k', hk', halike⟩ := hk.amended h hlesser
    have hsame : fields'.lookup "fallbacks" = fields.lookup "fallbacks" :=
      h.lookup_eq fun hmem => absurd (hlesser hmem) (by decide)
    refine ⟨.mk k' docs, ofTerm?_eq_some.2 ⟨fields', hread', hk', hsame ▸ hdocs⟩,
      .mk (fun field p hp => halike.probe hp ?_) (List.forall₂_same.2 fun d _ => .refl d)⟩
    rw [RuleKeys.kind_probe hp, firstSet, sets_of_reads hk]

/-- A fallback that is loaded as another one makes no difference to the rule it stands in. -/
lemma ofTerm?_fallback {d : Nat} {s s' t t' : Term} {before after : Fields}
    {left right : List Term} {doc : RuleDocument} (hbefore : "fallbacks" ∉ before.map (·.1))
    (hread : shape.read? s =
      some (before ++ ("fallbacks", .array (left ++ t :: right)) :: after))
    (hread' : shape.read? s' =
      some (before ++ ("fallbacks", .array (left ++ t' :: right)) :: after))
    (h : ∀ d doc, ofTerm? d t = some doc → ∃ doc', ofTerm? d t' = some doc' ∧ doc.LoadsAs doc')
    (hdoc : ofTerm? d s = some doc) : ∃ doc', ofTerm? d s' = some doc' ∧ doc.LoadsAs doc' := by
  cases d with
  | zero => cases hdoc
  | succ d =>
    obtain ⟨k, docs⟩ := doc
    obtain ⟨fields, hfields, hk, hdocs⟩ := ofTerm?_eq_some.1 hdoc
    cases hread.symm.trans hfields
    have hnone : before.lookup "fallbacks" = none := by
      rw [← Option.not_isSome_iff_eq_none]
      exact fun hsome => hbefore ((Keyed.isSome_get? before "fallbacks").1 hsome)
    have hlookup : ∀ x, (before ++ ("fallbacks", x) :: after).lookup "fallbacks" = some x :=
      fun x => by rw [List.lookup_append, hnone, List.lookup_cons_self, Option.none_or]
    have hother : ∀ x y name, name ≠ "fallbacks" →
        (before ++ ("fallbacks", x) :: after).lookup name =
          (before ++ ("fallbacks", y) :: after).lookup name := fun x y name hname => by
      simp only [List.lookup_append, List.lookup_cons, beq_false_of_ne hname]
    rw [hlookup] at hdocs
    cases d with
    | zero => cases hdocs
    | succ e =>
      have hleft := (List.forall₂_take_append _ _ _ hdocs.flip).flip
      obtain ⟨tdoc, rdocs, ht, hright, hrest⟩ :=
        List.forall₂_cons_left_iff.1 (List.forall₂_drop_append _ _ _ hdocs.flip).flip
      rw [← List.take_append_drop left.length docs, hrest]
      generalize docs.take left.length = ldocs at hleft
      obtain ⟨tdoc', ht', hsame⟩ := h e tdoc ht
      have hread'' : ReadsFallbacks (e + 1) (some (.array (left ++ t' :: right)))
          (ldocs ++ tdoc' :: rdocs) := List.rel_append hleft (.cons ht' hright)
      have hall : List.Forall₂ LoadsAs (ldocs ++ tdoc :: rdocs) (ldocs ++ tdoc' :: rdocs) :=
        List.rel_append (List.forall₂_same.2 fun d _ => .refl d)
          (.cons hsame (List.forall₂_same.2 fun d _ => .refl d))
      exact ⟨.mk k (ldocs ++ tdoc' :: rdocs),
        ofTerm?_eq_some.2 ⟨_, hread', hk.congr (hother _ _), (hlookup _).symm ▸ hread''⟩,
        .mk (fun _ _ hp => hp) hall⟩

/-- **What is edited is loaded as it was**, if it was loaded. -/
lemma Edit.loadsAs {t t' : Term} (h : Edit t t') :
    ∀ d doc, ofTerm? d t = some doc → ∃ doc', ofTerm? d t' = some doc' ∧ doc.LoadsAs doc' := by
  have hreads : ∀ {d doc t}, ofTerm? d t = some doc → ∃ fields, shape.read? t = some fields := by
    rintro (_ | d) ⟨k, docs⟩ t hdoc
    · cases hdoc
    · exact (ofTerm?_eq_some.1 hdoc).imp fun fields h => h.1
  -- by induction on the way from the rule to the node that is edited
  induction h with
  | delete hbelow =>
    intro d doc hdoc
    obtain ⟨fields, hread⟩ := hreads hdoc
    obtain ⟨fields', hread', hamended⟩ := Shape.amended_filter hread fun m hm hkeep =>
      (hbelow m hm hkeep).known hread
    exact ofTerm?_amended hread hread' hamended hdoc
  | add hbelow hnames =>
    intro d doc hdoc
    obtain ⟨fields, hread⟩ := hreads hdoc
    obtain ⟨fields', hread', hamended⟩ := Shape.amended_of_filter hread
      (fun m hm hkeep => (hbelow m hm hkeep).imp (fun h => h.known hread) eq_text) hnames
    exact ofTerm?_amended hread hread' hamended hdoc
  | fallback _ ih =>
    intro d doc hdoc
    obtain ⟨fields, hread⟩ := hreads hdoc
    obtain ⟨before', after', hbefore, hmembers⟩ := read?_fallbacks hread
    exact ofTerm?_fallback hbefore (hmembers _) (hmembers _) ih hdoc
  | @item before after left right t t' hplace _ ih =>
    intro d doc hdoc
    obtain ⟨fields, hread⟩ := hreads hdoc
    obtain ⟨before', after', hbefore, hmembers⟩ := read?_items_fallbacks hplace hread
    exact ofTerm?_fallback hbefore (hmembers _) (hmembers _) ih hdoc

/-- So is what is edited many times. -/
lemma loadsAs_of_edits {t t' : Term} (h : Relation.ReflTransGen Edit t t') {d : Nat}
    {doc : RuleDocument} (hdoc : ofTerm? d t = some doc) :
    ∃ doc', ofTerm? d t' = some doc' ∧ doc.LoadsAs doc' := by
  induction h with
  | refl => exact ⟨doc, hdoc, .refl doc⟩
  | tail _ hedit ih =>
    obtain ⟨doc', hdoc', hsame⟩ := ih
    obtain ⟨doc'', hdoc'', hsame'⟩ := hedit.loadsAs d doc' hdoc'
    exact ⟨doc'', hdoc'', fun field depth r hr => hsame' field depth r (hsame field depth r hr)⟩

/-- The locator at a node is of the first kind that is set where the node is written. -/
lemma kind_nodeAt {field : String} (path : List Nat) : ∀ {d depth : Nat} {t : Term}
    {doc : RuleDocument} {r : Rule}, ofTerm? d t = some doc →
      Rule.ofDocument field depth doc = .ok r →
      (nodeAt? t path).bind kind? = (r.at? path).map (·.probe.locator.kind) := by
  induction path with
  | nil =>
    rintro (_ | d) depth t ⟨k, docs⟩ r hdoc hr
    · cases hdoc
    obtain ⟨fields, hread, hk, -⟩ := ofTerm?_eq_some.1 hdoc
    obtain ⟨-, p, rs, hp, -, rfl⟩ := Rule.ofDocument_ok hr
    rw [nodeAt?, Option.bind_some, kind?, hread, Option.map_some, firstSet, sets_of_reads hk,
      ← RuleKeys.kind_probe hp]
    rfl
  | cons i path ih =>
    rintro (_ | d) depth t ⟨k, docs⟩ r hdoc hr
    · cases hdoc
    obtain ⟨-, p, rs, -, hrs, rfl⟩ := Rule.ofDocument_ok hr
    obtain ⟨e, hwritten⟩ := forall₂_fallbackTerms hdoc
    obtain ⟨hlen, hread⟩ := List.forall₂_iff_get.1 hwritten
    obtain ⟨hlen', hload⟩ := List.forall₂_iff_get.1 (Rule.ofDocuments_ok hrs)
    rw [nodeAt?, Rule.at?, Rule.fallbacks_mk]
    by_cases hi : i < rs.length
    · have hi' : i < (fallbackTerms t).length := by omega
      have hi'' : i < docs.length := by omega
      rw [List.getElem?_eq_getElem hi, List.getElem?_eq_getElem hi', Option.bind_some,
        Option.bind_some]
      exact ih (hread i hi' hi'') (hload i hi'' hi)
    · rw [List.getElem?_eq_none (by omega), List.getElem?_eq_none (by omega)]
      rfl

end RuleDocument

lemma Rule.ofText_ok [Regex.Engine] {field text : String} {t : Term}
    (ht : Term.ofText? text = some t) {r : Rule} :
    Rule.ofText field text = .ok r ↔ ∃ doc, RuleDocument.ofTerm? depthLimit t = some doc ∧
      Rule.ofDocument field 0 doc = .ok r := by
  unfold Rule.ofText
  rw [ht]
  simp only [Rule.ofTerm]
  split
  · next doc hdoc =>
    simp only [hdoc, Option.some.injEq, exists_eq_left']
  · next hnone =>
    simp only [hnone, reduceCtorEq, false_and, exists_false]

open RuleDocument

/-- **One locator counts**: at every node of an accepted rule the locator is of the first kind that
is set there, and what is written may lose keys that count for less, or get new ones with any texts,
at any nodes, and is accepted as the same rule. -/
theorem Rule.one_locator_counts [Regex.Engine] {field text : String} {r : Rule}
    (h : Rule.ofText field text = .ok r) {t : Term} (ht : Term.ofText? text = some t) :
    (∀ path, (nodeAt? t path).bind kind? = (r.at? path).map (·.probe.locator.kind)) ∧
      ∀ text' t', Term.ofText? text' = some t' → Relation.ReflTransGen Edit t t' →
        Rule.ofText field text' = .ok r := by
  obtain ⟨doc, hdoc, hr⟩ := (Rule.ofText_ok ht).1 h
  refine ⟨fun path => kind_nodeAt path hdoc hr, fun text' t' ht' hedits => ?_⟩
  obtain ⟨doc', hdoc', hsame⟩ := loadsAs_of_edits hedits hdoc
  exact (Rule.ofText_ok ht').2 ⟨doc', hdoc', hsame field 0 r hr⟩

def textMember (key s : String) : Option String × Term := (some key, .text s)

/-- The members of a rule for a heading, some more in front of them, and those of its fallback. -/
def headingMembers (front fallback : List (Option String × Term)) :
    List (Option String × Term) :=
  front ++ [textMember "cssLocator" "h1", (some "fallbacks", .array [.object fallback])]

/-- A heading, in front of it a segment of the address that counts for less, and behind it a name in
linked data. -/
def headingText : String :=
  "\x7b\"urlPathPart\":\"2\",\"cssLocator\":\"h1\"," ++
    "\"fallbacks\":[\x7b\"jsonLdPath\":\"name\"\x7d]\x7d"

/-- In place of the segment there is what is no regular expression, and the fallback has got a
segment. -/
def editedHeadingText : String :=
  "\x7b\"scriptRegex\":\"(\",\"cssLocator\":\"h1\"," ++
    "\"fallbacks\":[\x7b\"jsonLdPath\":\"name\",\"urlPathPart\":\"x\"\x7d]\x7d"

theorem Rule.one_locator_counts_heading :
    ∃ r, Rule.ofText "title" headingText = .ok r ∧ r.probe.locator.kind = .css ∧
      (r.at? [0]).map (·.probe.locator.kind) = some .jsonLd ∧
      Rule.ofText "title" editedHeadingText = .ok r := by
  have hread : Term.ofText? headingText = some (.object
      (headingMembers [textMember "urlPathPart" "2"] [textMember "jsonLdPath" "name"])) := rfl
  have hread' : Term.ofText? editedHeadingText = some (.object
      (headingMembers [textMember "scriptRegex" "("]
        [textMember "jsonLdPath" "name", textMember "urlPathPart" "x"])) := rfl
  have hok : (Rule.ofText "title" headingText).toOption.any fun _ => true := by decide +kernel
  obtain ⟨r, hr, -⟩ := Failure.ok_of_any hok
  obtain ⟨hkinds, hedits⟩ := Rule.one_locator_counts hr hread
  have hless : Edit
      (.object (headingMembers [textMember "urlPathPart" "2"] [textMember "jsonLdPath" "name"]))
      (.object (headingMembers [] [textMember "jsonLdPath" "name"])) :=
    @Edit.delete _ (fun m => m.1 != some "urlPathPart") (by decide +kernel)
  have hmore : Edit (.object (headingMembers [] [textMember "jsonLdPath" "name"]))
      (.object (headingMembers [textMember "scriptRegex" "("] [textMember "jsonLdPath" "name"])) :=
    @Edit.add (textMember "scriptRegex" "(" :: headingMembers [] _)
      (fun m => m.1 != some "scriptRegex") (by decide +kernel) (by decide)
  have hfallback : Edit
      (.object (headingMembers [textMember "scriptRegex" "("] [textMember "jsonLdPath" "name"]))
      (.object (headingMembers [textMember "scriptRegex" "("]
        [textMember "jsonLdPath" "name", textMember "urlPathPart" "x"])) :=
    @Edit.fallback [_, _] [] [] [] _ _ (@Edit.add
      [textMember "jsonLdPath" "name", textMember "urlPathPart" "x"]
      (fun m => m.1 != some "urlPathPart") (by decide +kernel) (by decide))
  refine ⟨r, hr, ?_, ?_, hedits _ _ hread' (((Relation.ReflTransGen.single hless).tail hmore).tail
    hfallback)⟩
  · exact (Option.some.inj (hkinds [])).symm
  · exact (hkinds [0]).symm

end Estate
