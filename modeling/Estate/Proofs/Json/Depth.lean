import Mathlib.Tactic.Lemma
import Estate.Mapping.Load

/-!
Readers of terms are allowed so many levels of arrays and objects. A term that has no more levels
than that is read the same with any greater allowance.
-/

namespace Estate

namespace Json

/-- With any allowance that the depth of the term is within, the reader makes the same of it. -/
def Term.Suffices {α : Type} (t : Term) (reader : Nat → Term → Option α) : Prop :=
  ∀ d e, t.depth ≤ d → t.depth ≤ e → reader d t = reader e t

lemma depth_le_itemsDepth {items : List Term} {t : Term} (h : t ∈ items) :
    t.depth ≤ itemsDepth items := by
  induction items with
  | nil => cases h
  | cons u rest ih =>
    rw [itemsDepth]
    rcases List.mem_cons.1 h with rfl | h
    · exact Nat.le_max_left _ _
    · exact Nat.le_trans (ih h) (Nat.le_max_right _ _)

lemma depth_le_membersDepth {members : List (Option String × Term)} {m : Option String × Term}
    (h : m ∈ members) : m.2.depth ≤ membersDepth members := by
  induction members with
  | nil => cases h
  | cons n rest ih =>
    rw [membersDepth]
    rcases List.mem_cons.1 h with rfl | h
    · exact Nat.le_max_left _ _
    · exact Nat.le_trans (ih h) (Nat.le_max_right _ _)

lemma mapM_congr {α β : Type} {f g : α → Option β} {l : List α} (h : ∀ a ∈ l, f a = g a) :
    l.mapM f = l.mapM g := by
  induction l with
  | nil => rfl
  | cons a l ih =>
    rw [List.mapM_cons, List.mapM_cons, h a (by simp), ih fun b hb => h b (by simp [hb])]

/-- An allowance within which an array or object is has a level left for the parts of it. -/
lemma exists_of_lt {n d : Nat} (h : n + 1 ≤ d) : ∃ d', d = d' + 1 ∧ n ≤ d' :=
  ⟨d - 1, by omega, by omega⟩

mutual

theorem Term.value?_congr {d e : Nat} (t : Term) (hd : t.depth ≤ d) (he : t.depth ≤ e) :
    t.value? d = t.value? e := by
  cases t with
  | array items =>
    rw [Term.depth] at hd he
    obtain ⟨d', rfl, hd'⟩ := exists_of_lt hd
    obtain ⟨e', rfl, he'⟩ := exists_of_lt he
    rw [Term.value?, Term.value?, itemValues?_congr items hd' he']
  | object members =>
    rw [Term.depth] at hd he
    obtain ⟨d', rfl, hd'⟩ := exists_of_lt hd
    obtain ⟨e', rfl, he'⟩ := exists_of_lt he
    rw [Term.value?, Term.value?, memberValues?_congr members hd' he']
  | _ => simp [Term.value?]

theorem itemValues?_congr {d e : Nat} (items : List Term) (hd : itemsDepth items ≤ d)
    (he : itemsDepth items ≤ e) : itemValues? d items = itemValues? e items := by
  cases items with
  | nil => rfl
  | cons t rest =>
    rw [itemsDepth, Nat.max_le] at hd he
    rw [itemValues?, itemValues?, Term.value?_congr t hd.1 he.1,
      itemValues?_congr rest hd.2 he.2]

theorem memberValues?_congr {d e : Nat} (members : List (Option String × Term))
    (hd : membersDepth members ≤ d) (he : membersDepth members ≤ e) :
    memberValues? d members = memberValues? e members := by
  cases members with
  | nil => rfl
  | cons m rest =>
    obtain ⟨k, t⟩ := m
    rw [membersDepth, Nat.max_le] at hd he
    rw [memberValues?, memberValues?, Term.value?_congr t hd.1 he.1,
      memberValues?_congr rest hd.2 he.2]

end

mutual

/-- A term that has a value with an allowance is within it. -/
theorem Term.depth_le_of_value? (t : Term) {d : Nat} {v : Value} (h : t.value? d = some v) :
    t.depth ≤ d := by
  cases t with
  | array items =>
    cases d with
    | zero => cases h
    | succ d =>
      obtain ⟨vs, hvs, -⟩ := Option.map_eq_some_iff.1 h
      exact Nat.succ_le_succ (itemsDepth_le_of_values? items hvs)
  | object members =>
    cases d with
    | zero => cases h
    | succ d =>
      obtain ⟨vs, hvs, -⟩ := Option.map_eq_some_iff.1 h
      exact Nat.succ_le_succ (membersDepth_le_of_values? members hvs)
  | _ => exact Nat.zero_le d

theorem itemsDepth_le_of_values? (items : List Term) {d : Nat} {vs : List Value}
    (h : itemValues? d items = some vs) : itemsDepth items ≤ d := by
  cases items with
  | nil => exact Nat.zero_le d
  | cons t rest =>
    obtain ⟨v, hv, h⟩ := Option.bind_eq_some_iff.1 h
    obtain ⟨ws, hws, -⟩ := Option.bind_eq_some_iff.1 h
    exact Nat.max_le.2 ⟨t.depth_le_of_value? hv, itemsDepth_le_of_values? rest hws⟩

theorem membersDepth_le_of_values? (members : List (Option String × Term)) {d : Nat}
    {vs : List (String × Value)} (h : memberValues? d members = some vs) :
    membersDepth members ≤ d := by
  cases members with
  | nil => exact Nat.zero_le d
  | cons m rest =>
    obtain ⟨k, t⟩ := m
    obtain ⟨key, -, h⟩ := Option.bind_eq_some_iff.1 h
    obtain ⟨v, hv, h⟩ := Option.bind_eq_some_iff.1 h
    obtain ⟨ws, hws, -⟩ := Option.bind_eq_some_iff.1 h
    exact Nat.max_le.2 ⟨t.depth_le_of_value? hv, membersDepth_le_of_values? rest hws⟩

end

namespace Term

lemma suffices_stringOrNumber? (t : Term) : t.Suffices stringOrNumber? := fun d e hd he => by
  rw [stringOrNumber?, stringOrNumber?, t.value?_congr hd he]

lemma suffices_flexibleBool? (t : Term) : t.Suffices flexibleBool? := fun d e hd he => by
  rw [flexibleBool?, flexibleBool?, t.value?_congr hd he]

lemma suffices_list? {α : Type} {reader : Nat → Term → Option α} {t : Term}
    (h : ∀ u : Term, u.depth < t.depth → u.Suffices reader) :
    t.Suffices fun d t => t.list? d reader := by
  intro d e hd he
  cases t with
  | array items =>
    rw [Term.depth] at hd he h
    obtain ⟨d', rfl, hd'⟩ := exists_of_lt hd
    obtain ⟨e', rfl, he'⟩ := exists_of_lt he
    refine mapM_congr fun u hu => ?_
    have hle : u.depth ≤ itemsDepth items := depth_le_itemsDepth hu
    exact h u (by omega) d' e' (by omega) (by omega)
  | _ => rfl

lemma suffices_strings? (t : Term) : t.Suffices strings? := by
  unfold strings?
  exact suffices_list? fun u _ _ _ _ _ => rfl

end Term

/-- Fields of which each is within so many levels. -/
def Fields.Within (fields : Fields) (n : Nat) : Prop := ∀ f ∈ fields, f.2.depth ≤ n

lemma Shape.within_ofMembers? {shape : Shape} {members : List (Option String × Term)}
    {fields : Fields} (h : shape.ofMembers? members = some fields) :
    fields.Within (membersDepth members) := by
  induction members generalizing fields with
  | nil =>
    cases h
    intro f hf
    cases hf
  | cons m rest ih =>
    obtain ⟨_ | key, t⟩ := m
    · cases h
    · rw [ofMembers?] at h
      obtain ⟨later, hlater, h⟩ := Option.bind_eq_some_iff.1 h
      rw [membersDepth]
      have hrest : Fields.Within later (max t.depth (membersDepth rest)) := fun f hf =>
        Nat.le_trans (ih hlater f hf) (Nat.le_max_right _ _)
      split at h
      · cases h
        exact hrest
      · split at h
        · cases h
        · cases h
          intro f hf
          rcases List.mem_cons.1 hf with rfl | hf
          · exact Nat.le_max_left _ _
          · exact hrest f hf

/-- The fields of a record are a level below it. -/
lemma Shape.within_read? {shape : Shape} {t : Term} {fields : Fields}
    (h : shape.read? t = some fields) : ∃ n, t.depth = n + 1 ∧ fields.Within n := by
  cases t with
  | array items =>
    rw [read?] at h
    split at h
    · cases h
      refine ⟨itemsDepth items, rfl, fun f hf => ?_⟩
      exact depth_le_itemsDepth (List.of_mem_zip hf).2
    · cases h
  | object members => exact ⟨membersDepth members, rfl, within_ofMembers? h⟩
  | _ => cases h

section

variable {α : Type} {fields : Fields} {n d e : Nat}

lemma Fields.Within.lookup (hf : fields.Within n) {name : String} {t : Term}
    (h : fields.lookup name = some t) : t.depth ≤ n := by
  obtain ⟨before, behind, rfl, -⟩ := List.lookup_eq_some_iff.1 h
  exact hf (name, t) (by simp)

lemma Fields.Within.get? (hf : fields.Within n) (hd : n ≤ d) (he : n ≤ e)
    {reader : Nat → Term → Option α} (hr : ∀ t : Term, t.depth ≤ n → t.Suffices reader)
    (name : String) (absent : α) :
    fields.get? name absent (reader d) = fields.get? name absent (reader e) := by
  unfold Fields.get?
  split
  · next t ht =>
    have hle : t.depth ≤ n := hf.lookup ht
    exact hr t hle d e (Nat.le_trans hle hd) (Nat.le_trans hle he)
  · rfl

/-- A reader of records does with any allowance the same if what it does with the fields is. -/
lemma Shape.suffices_read? (shape : Shape) {reader : Nat → Term → Option α}
    {ofFields : Nat → Fields → Option α} {t : Term} (hzero : reader 0 t = none)
    (hsucc : ∀ d, reader (d + 1) t = (shape.read? t).bind (ofFields d))
    (h : ∀ n, n < t.depth → ∀ fields : Fields, fields.Within n → ∀ d e, n ≤ d → n ≤ e →
      ofFields d fields = ofFields e fields) :
    t.Suffices reader := by
  intro d e hd he
  cases hr : shape.read? t with
  | none =>
    have hnone : ∀ k, reader k t = none := fun k => by
      cases k with
      | zero => exact hzero
      | succ k => rw [hsucc, hr, Option.bind_none]
    rw [hnone, hnone]
  | some fields =>
    obtain ⟨n, hn, hf⟩ := Shape.within_read? hr
    rw [hn] at hd he
    obtain ⟨d', rfl, hd'⟩ := exists_of_lt hd
    obtain ⟨e', rfl, he'⟩ := exists_of_lt he
    rw [hsucc, hsucc, hr, Option.bind_some, Option.bind_some]
    exact h n (by omega) fields hf d' e' hd' he'

end

end Json

open Json

namespace RuleDocument

lemma suffices_thumbnail? (t : Term) : t.Suffices thumbnail? :=
  thumbnailShape.suffices_read? rfl (fun _ => rfl) fun _ _ _ _ _ _ _ _ => rfl

lemma keys?_congr {fields : Fields} {n d e : Nat} (hf : fields.Within n) (hd : n ≤ d)
    (he : n ≤ e) : keys? d fields = keys? e fields := by
  have hindex := fun name => hf.get? hd he (fun t _ => t.suffices_stringOrNumber?) name none
  have hflag := fun name => hf.get? hd he (fun t _ => t.suffices_flexibleBool?) name false
  have hlist := fun name => hf.get? hd he
    (fun t _ => Term.suffices_list? (t := t) fun u _ => suffices_thumbnail? u) name []
  have htexts := fun name => hf.get? hd he (fun t _ => t.suffices_strings?) name []
  unfold keys?
  simp only [hindex, hflag, hlist, htexts]

lemma suffices_ofTerm? (t : Term) : t.Suffices ofTerm? := by
  induction hn : t.depth using Nat.strongRecOn generalizing t with
  | ind n ih =>
    subst hn
    refine shape.suffices_read? rfl (fun d => by rw [ofTerm?]; rfl) ?_
    intro n hn fields hf d e hd he
    rw [keys?_congr hf hd he]
    cases hl : fields.lookup "fallbacks" with
    | none => rfl
    | some u =>
      cases u with
      | array items =>
        have hle : itemsDepth items + 1 ≤ n := hf.lookup hl
        obtain ⟨d', rfl, hd'⟩ := exists_of_lt (Nat.le_trans hle hd)
        obtain ⟨e', rfl, he'⟩ := exists_of_lt (Nat.le_trans hle he)
        have hitems : items.mapM (ofTerm? d') = items.mapM (ofTerm? e') := by
          refine mapM_congr fun v hv => ?_
          have hv' : v.depth ≤ itemsDepth items := depth_le_itemsDepth hv
          exact ih v.depth (by omega) v rfl d' e' (by omega) (by omega)
        simp only [hitems]
      | _ => rfl

end RuleDocument

namespace PortalInfo

lemma suffices_ofTerm? (t : Term) : t.Suffices ofTerm? := by
  refine shape.suffices_read? rfl (fun d => by rw [ofTerm?]; rfl) ?_
  intro n hn fields hf d e hd he
  have htexts := fun name => hf.get? hd he (fun t _ => t.suffices_strings?) name []
  simp only [htexts]

end PortalInfo

namespace MappingDocument

lemma suffices_rules? (t : Term) : t.Suffices rules? := by
  intro d e hd he
  cases t with
  | object members =>
    rw [Term.depth] at hd he
    obtain ⟨d', rfl, hd'⟩ := exists_of_lt hd
    obtain ⟨e', rfl, he'⟩ := exists_of_lt he
    rw [rules?, rules?]
    refine congrArg (fun pairs => pairs >>= _) (mapM_congr fun m hm => ?_)
    have hle : m.2.depth ≤ membersDepth members := depth_le_membersDepth hm
    simp only [RuleDocument.suffices_ofTerm? m.2 d' e' (by omega) (by omega)]
  | _ => rfl

lemma suffices_values? (t : Term) : t.Suffices values? := fun d e hd he => by
  unfold values?
  rw [t.value?_congr hd he]

lemma suffices_ofTerm? (t : Term) : t.Suffices ofTerm? := by
  refine shape.suffices_read? rfl (fun d => by rw [ofTerm?]; rfl) ?_
  intro n hn fields hf d e hd he
  have hgroup := fun name => hf.get? hd he (fun t _ => suffices_rules? t) name []
  have hlist := fun name => hf.get? hd he
    (fun t _ => Term.suffices_list? (t := t) fun u _ => RuleDocument.suffices_ofTerm? u) name []
  have hvalues := fun name => hf.get? hd he (fun t _ => suffices_values? t) name []
  have hportal := fun name => hf.get? hd he
    (fun t _ => PortalInfo.suffices_ofTerm? t) name .empty
  simp only [hgroup, hlist, hvalues, hportal]

end MappingDocument

/-- With an allowance that a value is within it is read as with no limit. -/
lemma Mapping.ofTerm_ofValue [Regex.Engine] (name : String) {v : Value}
    (h : (Term.ofValue v).depth ≤ depthLimit) :
    ofTerm name depthLimit (.ofValue v) = ofValue name v := by
  unfold ofValue ofTerm
  rw [MappingDocument.suffices_ofTerm? _ _ _ h (Nat.le_refl _)]

end Estate
