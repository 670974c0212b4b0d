import Estate.LinkedData
import Estate.Proofs.Text.Cutting

/-!
Looking up values in linked data by type. The texts that an object gives for its types are compared
without the address of the vocabulary, and the name that is asked for is compared as it is.
-/

namespace Estate.LinkedData

open Json

/-! ### Names of types -/

/-- The text begins with an address of the vocabulary. -/
def Addressed (s : String) : Prop :=
  ∃ name, s = "https://schema.org/" ++ name ∨ s = "http://schema.org/" ++ name

/-- The name in a text for a type: what is behind the address, or all of it. -/
inductive Bare : String → String → Prop where
  | secure (name : String) : Bare ("https://schema.org/" ++ name) name
  | plain (name : String) : Bare ("http://schema.org/" ++ name) name
  | own {name : String} (h : ¬ Addressed name) : Bare name name

/-- The text gives the type that is asked for. -/
def Gives (s type : String) : Prop :=
  ∃ name, Bare s name ∧ Text.asciiLower name = Text.asciiLower type

/-- The texts give the same type. -/
def Alike (s t : String) : Prop :=
  ∃ name other, Bare s name ∧ Bare t other ∧ Text.asciiLower name = Text.asciiLower other

lemma bareType_secure (name : String) : bareType ("https://schema.org/" ++ name) = name := by
  rw [bareType, String.toList_append, Text.after?_append]
  simp

lemma bareType_plain (name : String) : bareType ("http://schema.org/" ++ name) = name := by
  have hsecure : Text.after? "https://schema.org/".toList
      ("http://schema.org/".toList ++ name.toList) = none := by
    simp [Text.after?]
  rw [bareType, String.toList_append, hsecure, Text.after?_append]
  simp

lemma bareType_own {name : String} (h : ¬ Addressed name) : bareType name = name := by
  have hnone : ∀ address : String, (∀ rest, name ≠ address ++ rest) →
      Text.after? address.toList name.toList = none := by
    intro address haddress
    rw [Option.eq_none_iff_forall_ne_some]
    intro rest hrest
    have hsplit := Text.after?_eq_some.1 hrest
    refine haddress (.ofList rest) (String.toList_injective ?_)
    rw [hsplit, String.toList_append, String.toList_ofList]
  rw [bareType, hnone _ fun rest heq => h ⟨rest, .inl heq⟩,
    hnone _ fun rest heq => h ⟨rest, .inr heq⟩]
  simp

lemma bare_iff {s name : String} : Bare s name ↔ bareType s = name := by
  constructor
  · rintro (_ | _ | h)
    · exact bareType_secure name
    · exact bareType_plain name
    · exact bareType_own h
  · rintro rfl
    by_cases h : Addressed s
    · obtain ⟨name, rfl | rfl⟩ := h
      · rw [bareType_secure]
        exact .secure name
      · rw [bareType_plain]
        exact .plain name
    · rw [bareType_own h]
      exact .own h

lemma gives_iff {s type : String} :
    Gives s type ↔ Text.sameIgnoringAsciiCase (bareType s) type := by
  simp [Gives, bare_iff, Text.sameIgnoringAsciiCase]

lemma alike_iff {s t : String} :
    Alike s t ↔ Text.sameIgnoringAsciiCase (bareType s) (bareType t) := by
  simp [Alike, bare_iff, Text.sameIgnoringAsciiCase]

lemma length_eq_of_asciiLower_eq {s t : String} (h : Text.asciiLower s = Text.asciiLower t) :
    s.toList.length = t.toList.length := by
  have hmap := congrArg (fun text : String => text.toList.length) h
  simpa [Text.asciiLower] using hmap

lemma length_bareType_lt {t : String} (h : Addressed t) :
    (bareType t).toList.length < t.toList.length := by
  obtain ⟨name, rfl | rfl⟩ := h
  · rw [bareType_secure, String.toList_append, List.length_append]
    exact Nat.lt_add_of_pos_left (by decide)
  · rw [bareType_plain, String.toList_append, List.length_append]
    exact Nat.lt_add_of_pos_left (by decide)

lemma addressed_iff {t : String} : Addressed t ↔ bareType t ≠ t := by
  constructor
  · intro h heq
    have hlt := length_bareType_lt h
    rw [heq] at hlt
    exact Nat.lt_irrefl _ hlt
  · intro hne
    by_contra h
    exact hne (bareType_own h)

instance (t : String) : Decidable (Addressed t) := decidable_of_iff _ addressed_iff.symm

lemma gives_self_iff {t : String} : Gives t t ↔ ¬ Addressed t := by
  constructor
  · rintro ⟨name, hname, hlower⟩ haddressed
    rw [bare_iff] at hname
    have hlt := length_bareType_lt haddressed
    rw [hname, length_eq_of_asciiLower_eq hlower] at hlt
    exact Nat.lt_irrefl _ hlt
  · intro h
    exact ⟨t, .own h, rfl⟩

lemma gives_iff_alike {s t : String} (h : ¬ Addressed t) : Gives s t ↔ Alike s t := by
  rw [gives_iff, alike_iff, bareType_own h]

/-! ### Objects of a type -/

/-- A text that an object gives for its type, or for one of its types. -/
inductive Declares (v : Value) (s : String) : Prop where
  | one (h : v.member? "@type" = some (.string s))
  | among {types : List Value} (h : v.member? "@type" = some (.array types))
    (hs : .string s ∈ types)

lemma isOfType_iff {v : Value} {type : String} :
    isOfType v type ↔ ∃ s, Declares v s ∧ Gives s type := by
  constructor
  · intro h
    unfold isOfType at h
    split at h
    · next types htypes =>
      obtain ⟨t, ht, hfits⟩ := List.any_eq_true.1 h
      split at hfits
      · next s => exact ⟨s, .among htypes ht, gives_iff.2 hfits⟩
      · cases hfits
    · next t _ ht =>
      cases t with
      | string s => exact ⟨s, .one ht, gives_iff.2 h⟩
      | _ => cases h
    · cases h
  · rintro ⟨s, hs | ⟨htypes, hs⟩, hgives⟩
    · rw [isOfType, hs]
      exact gives_iff.1 hgives
    · rw [isOfType, htypes]
      exact List.any_eq_true.2 ⟨_, hs, gives_iff.1 hgives⟩

lemma isOfType_verbatim {v : Value} {t : String} (h : v.member? "@type" = some (.string t)) :
    isOfType v t ↔ ¬ Addressed t := by
  rw [isOfType_iff, ← gives_self_iff]
  constructor
  · rintro ⟨s, hs | ⟨htypes, -⟩, hgives⟩
    · rw [h] at hs
      cases hs
      exact hgives
    · rw [h] at htypes
      cases htypes
  · intro hgives
    exact ⟨t, .one h, hgives⟩

/-! ### The first value -/

/-- The object has one of the types and, at the path, the value, which is not null. -/
structure Holds (types : String → Prop) (path : String) (v w : Value) : Prop where
  typed : ∃ s, Declares v s ∧ types s
  found : v.at? path = some w
  filled : w ≠ .null

/-- The value is held by an object, and none is held by the objects before. -/
def FirstHeld (types : String → Prop) (path : String) (objects : List Value) (w : Value) : Prop :=
  ∃ front v rest, objects = front ++ v :: rest ∧ Holds types path v w ∧
    ∀ u ∈ front, ∀ x, ¬ Holds types path u x

section

variable {objects : List Value} {type path : String} {v w : Value}

lemma find?_eq_findSome? (objects : List Value) (type path : String) :
    find? objects (some type) path = objects.findSome? fun v =>
      if isOfType v type then (v.at? path).filter (!·.isNull) else none := by
  rw [find?]
  induction objects with
  | nil => rfl
  | cons v rest ih =>
    rw [List.filter_cons, List.findSome?_cons, Option.all_some]
    split
    · rw [List.findSome?_cons, ih]
    · rw [ih]

lemma not_isNull_iff : (!w.isNull) = true ↔ w ≠ .null := by
  cases w <;> simp [Value.isNull]

lemma holds_iff :
    (if isOfType v type then (v.at? path).filter (!·.isNull) else none) = some w ↔
      Holds (Gives · type) path v w := by
  constructor
  · intro h
    split at h
    · next htype =>
      obtain ⟨hfound, hfilled⟩ := Option.filter_eq_some_iff.1 h
      exact ⟨isOfType_iff.1 htype, hfound, not_isNull_iff.1 hfilled⟩
    · cases h
  · rintro ⟨htyped, hfound, hfilled⟩
    rw [if_pos (isOfType_iff.2 htyped), Option.filter_eq_some_iff]
    exact ⟨hfound, not_isNull_iff.2 hfilled⟩

lemma find?_eq_some_iff :
    find? objects (some type) path = some w ↔ FirstHeld (Gives · type) path objects w := by
  rw [find?_eq_findSome?, List.findSome?_eq_some_iff]
  simp only [holds_iff, Option.eq_none_iff_forall_ne_some, ne_eq, FirstHeld]

lemma find?_eq_none_iff :
    find? objects (some type) path = none ↔
      ∀ v ∈ objects, ∀ w, ¬ Holds (Gives · type) path v w := by
  rw [find?_eq_findSome?, List.findSome?_eq_none_iff]
  simp only [holds_iff, Option.eq_none_iff_forall_ne_some, ne_eq]

end

/-- **Looking up by type** gives the first value at the path that is not null among the objects one
of whose types is the one asked for; there is none only if no such object has one. The address of
the vocabulary makes no difference, unless it is asked for with one: an object that says just that
for its type is then not of the type. -/
theorem found_by_type (objects : List Value) (type path : String) :
    (∀ w, find? objects (some type) path = some w ↔
      FirstHeld (Gives · type) path objects w) ∧
    (find? objects (some type) path = none ↔
      ∀ v ∈ objects, ∀ w, ¬ Holds (Gives · type) path v w) ∧
    (¬ Addressed type → ∀ w, find? objects (some type) path = some w ↔
      FirstHeld (Alike · type) path objects w) ∧
    ∀ v : Value, v.member? "@type" = some (.string type) →
      (isOfType v type ↔ ¬ Addressed type) := by
  refine ⟨fun w => find?_eq_some_iff, find?_eq_none_iff, fun hbare w => ?_,
    fun v h => isOfType_verbatim h⟩
  have hsame : (Gives · type) = (Alike · type) := funext fun s => propext (gives_iff_alike hbare)
  rw [← hsame]
  exact find?_eq_some_iff

/-- A first object of the type whose value is null, and one that lists the type with an address. -/
theorem found_by_type_second :
    ¬ Addressed "residence" ∧
      FirstHeld (Alike · "residence") "name"
        [.object [("@type", .string "https://schema.org/Residence"), ("name", .null)],
          .object [("@type", .array [.string "Thing", .string "http://schema.org/RESIDENCE"]),
            ("name", .string "x")]] (.string "x") := by
  have hbare : ¬ Addressed "residence" := by decide
  exact ⟨hbare, ((found_by_type _ "residence" "name").2.2.1 hbare _).1 rfl⟩

/-- The type as it stands in the object is not found. -/
theorem verbatim_type_missed :
    Declares (.object [("@type", .string "https://schema.org/Residence"), ("name", .string "x")])
        "https://schema.org/Residence" ∧
      Alike "https://schema.org/Residence" "https://schema.org/Residence" ∧
      find? [.object [("@type", .string "https://schema.org/Residence"), ("name", .string "x")]]
        (some "https://schema.org/Residence") "name" = none := by
  exact ⟨.one rfl, alike_iff.2 (by decide), rfl⟩

end Estate.LinkedData
