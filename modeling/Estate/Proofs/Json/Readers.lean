import Estate.Proofs.Json.Meaning
import Estate.Request

/-!
Readers of documents make of a term what they make of the value that the term means: in which order
the members of objects are written makes no difference.
-/

namespace Estate

namespace Json

/-- The reader goes by values: it makes the same of a term and of the value the term means. -/
def ByValue {α : Type} (reader : Term → Option α) : Prop :=
  ∀ ⦃t : Term⦄ ⦃v : Value⦄, t.Means v → reader t = reader (.ofValue v)

section

variable {α : Type} {reader : Term → Option α}

lemma keyed?_means {parts : List (String × Term × Value)} {members : List (Option String × Term)}
    (hkeys : Keyed.Ascending parts) (hmembers : members.Perm (parts.map fun p => (some p.1, p.2.1)))
    (hreader : ∀ p ∈ parts, reader p.2.1 = reader (.ofValue p.2.2)) :
    keyed? reader members = keyed? reader (ofMembers (parts.map fun p => (p.1, p.2.2))) := by
  rw [keyed?_perm hmembers (Term.Means.keys_nodup hkeys hmembers), keyed?, keyed?,
    ofMembers_eq_map, List.map_map, List.mapM_map, List.mapM_map]
  refine congrArg (Option.map Keyed.ofList) (mapM_congr fun p hp => ?_)
  simp only [Function.comp_apply, pairOf?, hreader p hp]

lemma mapM_means {parts : List (Term × Value)}
    (hreader : ∀ p ∈ parts, reader p.1 = reader (.ofValue p.2)) :
    (parts.map (·.1)).mapM reader = (ofItems (parts.map (·.2))).mapM reader := by
  rw [ofItems_eq_map, List.map_map, List.mapM_map, List.mapM_map]
  exact mapM_congr hreader

end

namespace Term

lemma byValue_value? (d : Nat) : ByValue (value? d) := by
  intro t v h
  induction h generalizing d with
  | @array parts h ih =>
    cases d with
    | zero => rfl
    | succ d =>
      rw [ofValue, value?, value?, itemValues?_eq_mapM, itemValues?_eq_mapM,
        mapM_means fun p hp => ih p hp d]
  | @object parts members hkeys hmembers h ih =>
    cases d with
    | zero => rfl
    | succ d =>
      rw [ofValue, value?_object, value?_object,
        keyed?_means hkeys hmembers fun p hp => ih p hp d]
  | _ => rfl

lemma byValue_string? : ByValue string? := by
  rintro _ _ (_ | _) <;> rfl

lemma byValue_optionalString? : ByValue optionalString? := by
  rintro _ _ (_ | _) <;> rfl

lemma byValue_bool? : ByValue bool? := by
  rintro _ _ (_ | _) <;> rfl

lemma byValue_integer? : ByValue integer? := by
  rintro _ _ (_ | _) <;> rfl

lemma byValue_stringOrNumber? (d : Nat) : ByValue (stringOrNumber? d) := fun t v h => by
  rw [stringOrNumber?, stringOrNumber?, byValue_value? d h]

lemma byValue_flexibleBool? (d : Nat) : ByValue (flexibleBool? d) := fun t v h => by
  rw [flexibleBool?, flexibleBool?, byValue_value? d h]

lemma byValue_list? {α : Type} {reader : Nat → Term → Option α} (d : Nat)
    (h : ∀ e < d, ByValue (reader e)) : ByValue (list? d reader) := by
  rintro _ _ (_ | _)
  case array parts hparts =>
    cases d with
    | zero => rfl
    | succ d => exact mapM_means fun p hp => h d (Nat.lt_succ_self d) (hparts p hp)
  all_goals rfl

lemma byValue_strings? (d : Nat) : ByValue (strings? d) :=
  byValue_list? d fun _ _ => byValue_string?

end Term

/-! ### Records -/

namespace Fields

/-- Under each name there is nothing, or a term and the value it means. -/
def Alike (fields others : Fields) : Prop :=
  ∀ name, fields.lookup name = none ∧ others.lookup name = none ∨
    ∃ t v, fields.lookup name = some t ∧ others.lookup name = some (.ofValue v) ∧ t.Means v

lemma lookup_map {α β : Type} (g : α → β) (fields : List (String × α)) (name : String) :
    (fields.map fun f => (f.1, g f.2)).lookup name = (fields.lookup name).map g :=
  Keyed.get?_map g fields name

lemma alike_map {parts : List (String × Term × Value)} (h : ∀ p ∈ parts, p.2.1.Means p.2.2) :
    Alike (parts.map fun p => (p.1, p.2.1)) (parts.map fun p => (p.1, .ofValue p.2.2)) := by
  intro name
  rw [lookup_map (·.1) parts, lookup_map (fun p => Term.ofValue p.2) parts]
  cases hl : parts.lookup name with
  | none => exact .inl ⟨rfl, rfl⟩
  | some p => exact .inr ⟨p.1, p.2, rfl, rfl, h (name, p) (Keyed.mem_of_get? hl)⟩

/-- The order of fields with names of their own makes no difference. -/
lemma Alike.of_perm {fields others sorted sorted' : Fields} (h : sorted.Alike sorted')
    (hfields : fields.Perm sorted) (hothers : others.Perm sorted')
    (hnames : (sorted.map (·.1)).Nodup) (hnames' : (sorted'.map (·.1)).Nodup) :
    fields.Alike others := by
  intro name
  have hl : sorted.lookup name = fields.lookup name := Keyed.get?_perm hfields.symm hnames name
  have hr : sorted'.lookup name = others.lookup name := Keyed.get?_perm hothers.symm hnames' name
  rw [← hl, ← hr]
  exact h name

variable {α : Type} {fields others : Fields}

lemma Alike.get? (h : fields.Alike others) {reader : Term → Option α} (hr : ByValue reader)
    (name : String) (absent : α) :
    fields.get? name absent reader = others.get? name absent reader := by
  unfold Fields.get?
  obtain ⟨hf, ho⟩ | ⟨t, v, hf, ho, hv⟩ := h name
  · rw [hf, ho]
  · rw [hf, ho]
    exact hr hv

lemma Alike.lookup_bind (h : fields.Alike others) {reader : Term → Option α} (hr : ByValue reader)
    (name : String) : (fields.lookup name).bind reader = (others.lookup name).bind reader := by
  obtain ⟨hf, ho⟩ | ⟨t, v, hf, ho, hv⟩ := h name
  · rw [hf, ho]
  · rw [hf, ho]
    exact hr hv

end Fields

namespace Shape

/-- A member as a field, if its key means one. -/
def known? (shape : Shape) (m : Option String × Term) : Option (String × Term) :=
  (m.1.bind shape.fieldOf?).map fun name => (name, m.2)

/-- The members that mean fields, unless two mean the same. -/
lemma ofMembers?_eq (shape : Shape) {members : List (Option String × Term)}
    (h : ∀ m ∈ members, m.1.isSome) : shape.ofMembers? members =
      if ((members.filterMap shape.known?).map (·.1)).Nodup then
        some (members.filterMap shape.known?)
      else none := by
  induction members with
  | nil => rfl
  | cons m rest ih =>
    obtain ⟨_ | key, t⟩ := m
    · cases h (none, t) (by simp)
    · rw [ofMembers?, ih fun m hm => h m (by simp [hm]), List.filterMap_cons]
      cases hfield : shape.fieldOf? key with
      | none => split <;> simp_all [known?]
      | some name =>
        have hlookup : (List.lookup name (rest.filterMap shape.known?)).isSome ↔
            name ∈ (rest.filterMap shape.known?).map (·.1) :=
          Keyed.isSome_get? (rest.filterMap shape.known?) name
        have hknown : shape.known? (some key, t) = some (name, t) := by
          rw [known?, Option.bind_some, hfield, Option.map_some]
        simp only [hknown, List.map_cons, List.nodup_cons, ← hlookup]
        by_cases hnodup : ((rest.filterMap shape.known?).map (·.1)).Nodup
        · rw [if_pos hnodup]
          split <;> simp_all
        · rw [if_neg hnodup, if_neg fun hboth => hnodup hboth.2]
          rfl

/-- The fields of an array are its items by the names of the fields. -/
lemma read?_items (shape : Shape) (parts : List (Term × Value)) (g : Term × Value → Term) :
    shape.read? (.array (parts.map g)) = if parts.length ≤ shape.length then
      some (((shape.filterMap List.head?).zip parts).map fun p => (p.1, g p.2)) else none := by
  rw [read?, List.length_map, List.zip_map_right]
  rfl

/-- The parts of an object whose keys mean fields, by the names of the fields. -/
def partsOf (shape : Shape) (parts : List (String × Term × Value)) :
    List (String × Term × Value) :=
  parts.filterMap fun p => (shape.fieldOf? p.1).map fun name => (name, p.2)

/-- In whichever order the members stand, their fields are those of the parts in some order. -/
lemma ofMembers?_parts (shape : Shape) {parts : List (String × Term × Value)}
    (g : Term × Value → Term) {members : List (Option String × Term)}
    (h : members.Perm (parts.map fun p => (some p.1, g p.2))) :
    ∃ fields : Fields, fields.Perm ((shape.partsOf parts).map fun p => (p.1, g p.2)) ∧
      shape.ofMembers? members =
        if ((shape.partsOf parts).map (·.1)).Nodup then some fields else none := by
  have hkeys : ∀ m ∈ members, m.1.isSome := fun m hm => by
    obtain ⟨p, -, rfl⟩ := List.mem_map.1 (h.mem_iff.1 hm)
    rfl
  have hparts : (parts.map fun p => (some p.1, g p.2)).filterMap shape.known? =
      (shape.partsOf parts).map fun p => (p.1, g p.2) := by
    rw [partsOf, List.filterMap_map, List.map_filterMap]
    refine List.filterMap_congr fun p _ => ?_
    simp only [Function.comp_apply, known?, Option.bind_some, Option.map_map]
    rfl
  have hfields := hparts ▸ h.filterMap shape.known?
  have hnames := (hfields.map (·.1)).nodup_iff
  rw [List.map_map] at hnames
  exact ⟨members.filterMap shape.known?, hfields,
    (ofMembers?_eq shape hkeys).trans (if_congr hnames rfl rfl)⟩

/-- A record is read alike from a term and from the value the term means. -/
lemma read?_means (shape : Shape) {t : Term} {v : Value} (h : t.Means v) :
    shape.read? t = none ∧ shape.read? (.ofValue v) = none ∨
      ∃ fields others, shape.read? t = some fields ∧ shape.read? (.ofValue v) = some others ∧
        fields.Alike others := by
  cases h with
  | @array parts h =>
    rw [Term.ofValue, ofItems_eq_map, List.map_map, read?_items, read?_items]
    split
    · exact .inr ⟨_, _, rfl, rfl, Fields.alike_map fun p hp => h p.2 (List.of_mem_zip hp).2⟩
    · exact .inl ⟨rfl, rfl⟩
  | @object parts members hkeys hmembers h =>
    have hparts : ∀ p ∈ shape.partsOf parts, p.2.1.Means p.2.2 := fun p hp => by
      obtain ⟨q, hq, hp⟩ := List.mem_filterMap.1 hp
      obtain ⟨name, -, rfl⟩ := Option.map_eq_some_iff.1 hp
      exact h q hq
    obtain ⟨fields, hfields, hread⟩ := shape.ofMembers?_parts (·.1) hmembers
    obtain ⟨others, hothers, hread'⟩ := shape.ofMembers?_parts (fun p => .ofValue p.2)
      (List.Perm.refl (parts.map fun p => (some p.1, Term.ofValue p.2.2)))
    rw [Term.ofValue, ofMembers_eq_map, List.map_map, read?, read?, hread]
    by_cases hnames : ((shape.partsOf parts).map (·.1)).Nodup
    · refine .inr ⟨fields, others, if_pos hnames, hread'.trans (if_pos hnames), ?_⟩
      refine (Fields.alike_map hparts).of_perm hfields hothers ?_ ?_
      · rwa [List.map_map]
      · rwa [List.map_map]
    · exact .inl ⟨if_neg hnames, hread'.trans (if_neg hnames)⟩
  | _ => exact .inl ⟨rfl, rfl⟩

/-- A reader of records goes by values if what it makes of the fields does. -/
lemma byValue_read? (shape : Shape) {α : Type} {reader : Term → Option α}
    {ofFields : Fields → Option α} (hreader : ∀ t, reader t = (shape.read? t).bind ofFields)
    (h : ∀ fields others : Fields, fields.Alike others → ofFields fields = ofFields others) :
    ByValue reader := by
  intro t v ht
  rw [hreader, hreader]
  obtain ⟨hl, hr⟩ | ⟨fields, others, hl, hr, halike⟩ := shape.read?_means ht
  · rw [hl, hr]
  · rw [hl, hr]
    exact h fields others halike

end Shape

end Json

/-! ### Documents -/

open Json

namespace RuleDocument

lemma byValue_thumbnail? (d : Nat) : ByValue (thumbnail? d) := by
  cases d with
  | zero => exact fun _ _ _ => rfl
  | succ d =>
    refine thumbnailShape.byValue_read? (fun t => by rw [thumbnail?]; rfl) fun fields others h => ?_
    have hreplacement := h.get? Term.byValue_string? "replacement" ""
    obtain ⟨hf, ho⟩ | ⟨t, v, hf, ho, hv⟩ := h "pattern"
    · rw [hf, ho]
      rfl
    · simp only [hf, ho, Option.bind_eq_bind, Option.bind_some, Term.byValue_string? hv,
        hreplacement]

lemma keys?_alike (d : Nat) {fields others : Fields} (h : fields.Alike others) :
    keys? d fields = keys? d others := by
  have htext := fun name => h.get? Term.byValue_optionalString? name none
  have hindex := fun name => h.get? (Term.byValue_stringOrNumber? d) name none
  have hflag := fun name => h.get? (Term.byValue_flexibleBool? d) name false
  have htexts := fun name => h.get? (Term.byValue_strings? d) name []
  have hlist := fun name =>
    h.get? (Term.byValue_list? d fun e _ => byValue_thumbnail? e) name []
  unfold keys?
  simp only [htext, hindex, hflag, htexts, hlist]

lemma byValue_ofTerm? (d : Nat) : ByValue (ofTerm? d) := by
  induction d using Nat.strongRecOn with
  | ind d ih =>
    cases d with
    | zero => exact fun _ _ _ => by rw [ofTerm?, ofTerm?]
    | succ d =>
      refine shape.byValue_read? (fun t => by rw [ofTerm?]; rfl) fun fields others h => ?_
      rw [keys?_alike d h]
      obtain ⟨hf, ho⟩ | ⟨t, v, hf, ho, hv⟩ := h "fallbacks"
      · rw [hf, ho]
      · rw [hf, ho]
        cases hv with
        | array hparts =>
          cases d with
          | zero => rfl
          | succ e =>
            have hitems := mapM_means fun p hp => ih e (by omega) (hparts p hp)
            simp only [Term.ofValue, hitems]
        | _ => rfl

end RuleDocument

namespace PortalInfo

lemma byValue_ofTerm? (d : Nat) : ByValue (ofTerm? d) := by
  cases d with
  | zero => exact fun _ _ _ => rfl
  | succ d =>
    refine shape.byValue_read? (fun t => by rw [ofTerm?]; rfl) fun fields others h => ?_
    have htext := fun name => h.get? Term.byValue_optionalString? name none
    have htexts := fun name => h.get? (Term.byValue_strings? d) name []
    simp only [htext, htexts]

end PortalInfo

namespace MappingDocument

lemma rules?_object (d : Nat) (members : List (Option String × Term)) :
    rules? (d + 1) (.object members) = keyed? (RuleDocument.ofTerm? d) members := by
  rw [rules?, keyed?, Option.map_eq_bind]
  rfl

lemma byValue_rules? (d : Nat) : ByValue (rules? d) := by
  intro t v h
  cases h with
  | object hkeys hmembers h =>
    cases d with
    | zero => rfl
    | succ d =>
      rw [Term.ofValue, rules?_object, rules?_object]
      exact keyed?_means hkeys hmembers fun p hp => RuleDocument.byValue_ofTerm? d (h p hp)
  | _ => rfl

lemma byValue_values? (d : Nat) : ByValue (values? d) := by
  intro t v h
  have hvalue := Term.byValue_value? d h
  cases h with
  | object hkeys hmembers h => exact congrArg (Option.bind · Value.members?) hvalue
  | _ => rfl

lemma byValue_rate? : ByValue rate? := by
  rintro _ _ (_ | _) <;> rfl

/-- **A mapping document is read by its value**: the order of members makes no difference. -/
lemma byValue_ofTerm? (d : Nat) : ByValue (ofTerm? d) := by
  cases d with
  | zero => exact fun _ _ _ => rfl
  | succ d =>
    refine shape.byValue_read? (fun t => by rw [ofTerm?]; rfl) fun fields others h => ?_
    have hname := h.get? Term.byValue_optionalString? "name" none
    have hgroup := fun name => h.get? (byValue_rules? d) name []
    have hlist := fun name =>
      h.get? (Term.byValue_list? d fun e _ => RuleDocument.byValue_ofTerm? e) name []
    have hvalues := h.get? (byValue_values? d) "defaultValues" []
    have hrate := h.get? byValue_rate? "expectedExtractionRate" none
    have hportal := h.get? (PortalInfo.byValue_ofTerm? d) "portal" .empty
    simp only [hname, hgroup, hlist, hvalues, hrate, hportal]

end MappingDocument

namespace Options

lemma byValue_levels? : ByValue levels? := fun t v h => by
  rw [levels?, levels?, Term.byValue_integer? h]

lemma byValue_ofTerm? (d : Nat) : ByValue (ofTerm? d) := by
  cases d with
  | zero => exact fun _ _ _ => rfl
  | succ d =>
    refine shape.byValue_read? (fun t => by rw [ofTerm?]; rfl) fun fields others h => ?_
    have hflag := fun name absent => h.get? Term.byValue_bool? name absent
    have htexts := fun name absent => h.get? (Term.byValue_strings? d) name absent
    have hlevels := fun name absent => h.get? byValue_levels? name absent
    simp only [hflag, htexts, hlevels]

end Options

namespace Request

lemma byValue_ofTerm? (d : Nat) : ByValue (ofTerm? d) := by
  cases d with
  | zero => exact fun _ _ _ => rfl
  | succ d =>
    refine shape.byValue_read? (fun t => by rw [ofTerm?]; rfl) fun fields others h => ?_
    have haddress := h.lookup_bind Term.byValue_string? "sourceUrl"
    have hmapping := h.lookup_bind (Term.byValue_value? d) "mapping"
    have hname := h.get? Term.byValue_optionalString? "mappingName" none
    have hoptions := h.get? (Options.byValue_ofTerm? d) "options" .standard
    simp only [haddress, hmapping, hname, hoptions]

end Request

end Estate
