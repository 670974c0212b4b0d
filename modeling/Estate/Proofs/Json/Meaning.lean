import Mathlib.Data.List.Nodup
import Mathlib.Data.List.Perm.Basic
import Estate.Proofs.Json.Depth

/-!
What JSON texts mean. An object may be written with its members in any order, but with no key twice;
a text that writes a value so is read as the value. Whatever text a value is read from, the keys of
its objects ascend.
-/

namespace Estate.Json

/-- The term writes the value: the members of an object in some order, each key once. -/
inductive Term.Means : Term → Value → Prop where
  | null : Means .null .null
  | bool (b : Bool) : Means (.bool b) (.bool b)
  | number (n : Number) : Means (.number (some n)) (.number n)
  | text (s : String) : Means (.text (some s)) (.string s)
  | array {parts : List (Term × Value)} (h : ∀ p ∈ parts, Means p.1 p.2) :
    Means (.array (parts.map (·.1))) (.array (parts.map (·.2)))
  | object {parts : List (String × Term × Value)} {members : List (Option String × Term)}
    (hkeys : Keyed.Ascending parts)
    (hmembers : members.Perm (parts.map fun p => (some p.1, p.2.1)))
    (h : ∀ p ∈ parts, Means p.2.1 p.2.2) :
    Means (.object members) (.object (parts.map fun p => (p.1, p.2.2)))

/-- The text writes the value, and is nested no deeper than texts are read. -/
def Serialises (s : String) (v : Value) : Prop :=
  ∃ t, Term.ofText? s = some t ∧ t.depth ≤ depthLimit ∧ t.Means v

/-! ### Terms of values -/

lemma ofItems_eq_map (items : List Value) : ofItems items = items.map Term.ofValue := by
  induction items with
  | nil => rfl
  | cons v rest ih => rw [ofItems, ih, List.map_cons]

lemma ofMembers_eq_map (members : List (String × Value)) :
    ofMembers members = members.map fun m => (some m.1, Term.ofValue m.2) := by
  induction members with
  | nil => rfl
  | cons m rest ih =>
    obtain ⟨k, v⟩ := m
    rw [ofMembers, ih, List.map_cons]

lemma itemsDepth_le {items : List Term} {n : Nat} (h : ∀ t ∈ items, t.depth ≤ n) :
    itemsDepth items ≤ n := by
  induction items with
  | nil => exact Nat.zero_le n
  | cons t rest ih =>
    rw [itemsDepth, Nat.max_le]
    exact ⟨h t (by simp), ih fun u hu => h u (by simp [hu])⟩

lemma membersDepth_le {members : List (Option String × Term)} {n : Nat}
    (h : ∀ m ∈ members, m.2.depth ≤ n) : membersDepth members ≤ n := by
  induction members with
  | nil => exact Nat.zero_le n
  | cons m rest ih =>
    obtain ⟨k, t⟩ := m
    rw [membersDepth, Nat.max_le]
    exact ⟨h (k, t) (by simp), ih fun u hu => h u (by simp [hu])⟩

namespace Term.Means

variable {t : Term} {v : Value}

/-- The term of a value is no deeper than one that means it. -/
lemma depth_le (h : t.Means v) : (Term.ofValue v).depth ≤ t.depth := by
  induction h with
  | @array parts h ih =>
    rw [Term.ofValue, ofItems_eq_map, Term.depth, Term.depth]
    refine Nat.succ_le_succ (itemsDepth_le fun u hu => ?_)
    obtain ⟨v, hv, rfl⟩ := List.mem_map.1 hu
    obtain ⟨p, hp, rfl⟩ := List.mem_map.1 hv
    exact Nat.le_trans (ih p hp) (depth_le_itemsDepth (List.mem_map_of_mem hp))
  | @object parts members hkeys hmembers h ih =>
    rw [Term.ofValue, ofMembers_eq_map, Term.depth, Term.depth]
    refine Nat.succ_le_succ (membersDepth_le fun m hm => ?_)
    obtain ⟨e, he, rfl⟩ := List.mem_map.1 hm
    obtain ⟨p, hp, rfl⟩ := List.mem_map.1 he
    have hmem : (some p.1, p.2.1) ∈ members :=
      hmembers.mem_iff.2 (List.mem_map_of_mem (f := fun p => (some p.1, p.2.1)) hp)
    exact Nat.le_trans (ih p hp) (depth_le_membersDepth hmem)
  | _ => exact Nat.le_refl _

lemma of_items {items : List Value} (h : ∀ v ∈ items, (Term.ofValue v).Means v) :
    (Term.ofValue (.array items)).Means (.array items) := by
  have hparts : ∀ p ∈ items.map fun v => (Term.ofValue v, v), Means p.1 p.2 := by
    simpa using h
  simpa [Term.ofValue, ofItems_eq_map, Function.comp_def] using array hparts

lemma of_members {members : List (String × Value)} (hkeys : Keyed.Ascending members)
    (h : ∀ m ∈ members, (Term.ofValue m.2).Means m.2) :
    (Term.ofValue (.object members)).Means (.object members) := by
  have hparts : ∀ p ∈ members.map fun m => (m.1, Term.ofValue m.2, m.2), Means p.2.1 p.2.2 := by
    intro p hp
    obtain ⟨m, hm, rfl⟩ := List.mem_map.1 hp
    exact h m hm
  have hkeys' : Keyed.Ascending (members.map fun m => (m.1, Term.ofValue m.2, m.2)) := by
    simpa [Keyed.Ascending, Function.comp_def] using hkeys
  simpa [Term.ofValue, ofMembers_eq_map, Function.comp_def] using
    object hkeys' (List.Perm.refl _) hparts

lemma ascending {parts : List (String × Term × Value)} (h : Keyed.Ascending parts) :
    Keyed.Ascending (parts.map fun p => (p.1, p.2.2)) := by
  simpa [Keyed.Ascending, Function.comp_def] using h

/-- A value that is meant by a term is meant by its own. -/
lemma self (h : t.Means v) : (Term.ofValue v).Means v := by
  induction h with
  | null => exact .null
  | bool b => exact .bool b
  | number n => exact .number n
  | text s => exact .text s
  | @array parts h ih =>
    refine of_items fun v hv => ?_
    obtain ⟨p, hp, rfl⟩ := List.mem_map.1 hv
    exact ih p hp
  | @object parts members hkeys hmembers h ih =>
    refine of_members (ascending hkeys) fun m hm => ?_
    obtain ⟨p, hp, rfl⟩ := List.mem_map.1 hm
    exact ih p hp

/-- The members may be written in another order. -/
lemma perm {members others : List (Option String × Term)} (h : (Term.object members).Means v)
    (hperm : others.Perm members) : (Term.object others).Means v := by
  cases h with
  | object hkeys hmembers h => exact .object hkeys (hperm.trans hmembers) h

/-- What stands in an object that is meant is meant. -/
lemma member {members : List (String × Value)} (h : t.Means (.object members)) {key : String}
    (hv : (key, v) ∈ members) : (Term.ofValue v).Means v := by
  cases h with
  | object _ _ h =>
    obtain ⟨p, hp, heq⟩ := List.mem_map.1 hv
    cases heq
    exact (h p hp).self

end Term.Means

mutual

/-- The keys of each object in the value ascend. -/
def Value.isSorted : Value → Bool
  | .array items => itemsSorted items
  | .object ms => membersSorted ms
  | _ => true

def itemsSorted : List Value → Bool
  | [] => true
  | v :: rest => v.isSorted && itemsSorted rest

def membersSorted : List (String × Value) → Bool
  | [] => true
  | (k, v) :: rest => rest.all (fun m => k < m.1) && v.isSorted && membersSorted rest

end

mutual

/-- The term of a value means it if the keys ascend. -/
theorem Value.means_ofValue {v : Value} (h : v.isSorted) : (Term.ofValue v).Means v := by
  cases v with
  | null => exact .null
  | bool b => exact .bool b
  | number n => exact .number n
  | string s => exact .text s
  | array items =>
    rw [Value.isSorted] at h
    exact .of_items (means_ofItems h)
  | object ms =>
    rw [Value.isSorted] at h
    obtain ⟨hkeys, hmeans⟩ := means_ofMembers h
    exact .of_members hkeys hmeans

theorem means_ofItems {items : List Value} (h : itemsSorted items) :
    ∀ v ∈ items, (Term.ofValue v).Means v := by
  cases items with
  | nil => simp
  | cons v rest =>
    rw [itemsSorted, Bool.and_eq_true] at h
    have hv : (Term.ofValue v).Means v := Value.means_ofValue h.1
    have hrest := means_ofItems h.2
    simpa [hv] using hrest

theorem means_ofMembers {ms : List (String × Value)} (h : membersSorted ms) :
    Keyed.Ascending ms ∧ ∀ m ∈ ms, (Term.ofValue m.2).Means m.2 := by
  cases ms with
  | nil => exact ⟨.nil, by simp⟩
  | cons m rest =>
    obtain ⟨k, v⟩ := m
    rw [membersSorted, Bool.and_eq_true, Bool.and_eq_true] at h
    have hv : (Term.ofValue v).Means v := Value.means_ofValue h.1.2
    obtain ⟨hkeys, hmeans⟩ := means_ofMembers h.2
    refine ⟨List.pairwise_cons.2 ⟨?_, hkeys⟩, ?_⟩
    · simpa using h.1.1
    · simpa [hv] using hmeans

end

/-! ### Reading -/

section

variable {α β : Type}

/-- A member by its key and the reader of its value. -/
def pairOf? (reader : Term → Option α) (m : Option String × Term) : Option (String × α) := do
  return (← m.1, ← reader m.2)

/-- An object read member by member; of several members of one key the last stays. -/
def keyed? (reader : Term → Option α) (members : List (Option String × Term)) : Option (Keyed α) :=
  (members.mapM (pairOf? reader)).map Keyed.ofList

lemma mapM_eq_some {f : α → Option β} {l : List α} {bs : List β} :
    l.mapM f = some bs ↔ List.Forall₂ (fun a b => f a = some b) l bs := by
  induction l generalizing bs with
  | nil => cases bs <;> simp
  | cons a l ih =>
    rw [List.mapM_cons, List.forall₂_cons_left_iff]
    constructor
    · intro h
      obtain ⟨b, hb, h⟩ := Option.bind_eq_some_iff.1 h
      obtain ⟨rest, hrest, h⟩ := Option.bind_eq_some_iff.1 h
      cases h
      exact ⟨b, rest, hb, ih.1 hrest, rfl⟩
    · rintro ⟨b, rest, hb, hrest, rfl⟩
      exact Option.bind_eq_some_iff.2 ⟨b, hb, Option.bind_eq_some_iff.2 ⟨rest, ih.2 hrest, rfl⟩⟩

lemma mapM_eq_map {f : α → Option β} {g : α → β} {l : List α} (h : ∀ a ∈ l, f a = some (g a)) :
    l.mapM f = some (l.map g) := by
  induction l with
  | nil => rfl
  | cons a l ih =>
    rw [List.mapM_cons, h a (by simp), ih fun b hb => h b (by simp [hb])]
    rfl

variable {reader : Term → Option α} {members others : List (Option String × Term)}

lemma pairOf?_eq_some {m : Option String × Term} {e : String × α} :
    pairOf? reader m = some e ↔ m.1 = some e.1 ∧ reader m.2 = some e.2 := by
  obtain ⟨_ | key, t⟩ := m
  · simp [pairOf?]
  · cases h : reader t <;> simp [pairOf?, h, Prod.ext_iff]

lemma keys_of_entries {entries : List (String × α)}
    (h : List.Forall₂ (fun m e => pairOf? reader m = some e) members entries) :
    members.map (·.1) = entries.map fun e => some e.1 := by
  induction h with
  | nil => rfl
  | cons he _ ih => rw [List.map_cons, List.map_cons, ih, (pairOf?_eq_some.1 he).1]

lemma keyed?_of_perm (h : members.Perm others) (hkeys : (members.map (·.1)).Nodup)
    {entries : Keyed α} (hread : keyed? reader others = some entries) :
    keyed? reader members = some entries := by
  obtain ⟨own, hown, rfl⟩ := Option.map_eq_some_iff.1 hread
  obtain ⟨written, hwritten, hperm⟩ := List.perm_comp_forall₂ h (mapM_eq_some.1 hown)
  have hnodup : (written.map (·.1)).Nodup := by
    rw [keys_of_entries hwritten] at hkeys
    refine List.Nodup.of_map some ?_
    rw [List.map_map]
    exact hkeys
  rw [keyed?, mapM_eq_some.2 hwritten, Option.map_some, Keyed.ofList_perm hperm hnodup]

/-- Where each key stands once, the order of the members makes no difference. -/
lemma keyed?_perm (h : members.Perm others) (hkeys : (members.map (·.1)).Nodup) :
    keyed? reader members = keyed? reader others := by
  have hkeys' : (others.map (·.1)).Nodup := (h.map _).nodup_iff.1 hkeys
  exact Option.ext fun entries =>
    ⟨fun hread => keyed?_of_perm h.symm hkeys' hread, fun hread => keyed?_of_perm h hkeys hread⟩

end

lemma itemValues?_eq_mapM (d : Nat) (items : List Term) :
    itemValues? d items = items.mapM (·.value? d) := by
  induction items with
  | nil => rfl
  | cons t rest ih => rw [itemValues?, List.mapM_cons, ih]

lemma memberValues?_eq_mapM (d : Nat) (members : List (Option String × Term)) :
    memberValues? d members = members.mapM (pairOf? (·.value? d)) := by
  induction members with
  | nil => rfl
  | cons m rest ih =>
    obtain ⟨_ | key, t⟩ := m
    · rfl
    · rw [memberValues?, List.mapM_cons, ih]
      cases h : t.value? d <;> simp [pairOf?, h]

lemma Term.value?_object (d : Nat) (members : List (Option String × Term)) :
    (Term.object members).value? (d + 1) = (keyed? (·.value? d) members).map .object := by
  rw [value?, memberValues?_eq_mapM, keyed?, Option.map_map]
  rfl

namespace Term.Means

lemma keys_nodup {parts : List (String × Term × Value)} (hkeys : Keyed.Ascending parts)
    {members : List (Option String × Term)}
    (hmembers : members.Perm (parts.map fun p => (some p.1, p.2.1))) :
    (members.map (·.1)).Nodup := by
  have hsome : (parts.map fun p => some p.1).Nodup := by
    have h := hkeys.nodup.map fun _ _ => Option.some.inj
    rwa [List.map_map] at h
  have hparts := (hmembers.map (·.1)).nodup_iff
  rw [List.map_map] at hparts
  exact hparts.2 hsome

/-- **Texts are read as the values they write.** -/
lemma value? {t : Term} {v : Value} (h : t.Means v) {d : Nat} (hd : t.depth ≤ d) :
    t.value? d = some v := by
  induction h generalizing d with
  | @array parts h ih =>
    rw [Term.depth] at hd
    obtain ⟨d', rfl, hd'⟩ := exists_of_lt hd
    have hparts : (parts.map (·.1)).mapM (·.value? d') = some (parts.map (·.2)) := by
      rw [List.mapM_map]
      refine mapM_eq_map fun p hp => ih p hp ?_
      exact Nat.le_trans (depth_le_itemsDepth (List.mem_map_of_mem hp)) hd'
    rw [Term.value?, itemValues?_eq_mapM, hparts, Option.map_some]
  | @object parts members hkeys hmembers h ih =>
    rw [Term.depth] at hd
    obtain ⟨d', rfl, hd'⟩ := exists_of_lt hd
    have hparts : (parts.map fun p => (some p.1, p.2.1)).mapM (pairOf? (·.value? d')) =
        some (parts.map fun p => (p.1, p.2.2)) := by
      rw [List.mapM_map]
      refine mapM_eq_map fun p hp => pairOf?_eq_some.2 ⟨rfl, ih p hp ?_⟩
      have hmem : (some p.1, p.2.1) ∈ members := hmembers.mem_iff.2 (List.mem_map.2 ⟨p, hp, rfl⟩)
      exact Nat.le_trans (depth_le_membersDepth hmem) hd'
    rw [value?_object, keyed?_perm hmembers (keys_nodup hkeys hmembers), keyed?, hparts,
      Option.map_some, Option.map_some, Keyed.ofList_eq_self (ascending hkeys)]
  | _ => rfl

end Term.Means

/-! ### The order of the members of what is read -/

lemma itemsSorted_iff {items : List Value} : itemsSorted items ↔ ∀ v ∈ items, v.isSorted := by
  induction items with
  | nil => simp [itemsSorted]
  | cons v rest ih => rw [itemsSorted, Bool.and_eq_true, ih, List.forall_mem_cons]

lemma membersSorted_iff {ms : Members} :
    membersSorted ms ↔ Keyed.Ascending ms ∧ ∀ m ∈ ms, m.2.isSorted := by
  induction ms with
  | nil => simp [membersSorted, Keyed.Ascending]
  | cons m rest ih =>
    obtain ⟨k, v⟩ := m
    rw [membersSorted, Bool.and_eq_true, Bool.and_eq_true, ih, Keyed.ascending_cons,
      List.forall_mem_cons, List.all_eq_true]
    simp only [decide_eq_true_eq]
    tauto

mutual

/-- The members of an object that is read are put in order. -/
theorem Term.isSorted_of_value? (t : Term) {d : Nat} {v : Value} (h : t.value? d = some v) :
    v.isSorted := by
  cases t with
  | null => cases h; rfl
  | bool b => cases h; rfl
  | number n =>
    obtain ⟨n, -, rfl⟩ := Option.map_eq_some_iff.1 h
    rfl
  | text s =>
    obtain ⟨s, -, rfl⟩ := Option.map_eq_some_iff.1 h
    rfl
  | array items =>
    cases d with
    | zero => cases h
    | succ d =>
      obtain ⟨vs, hvs, rfl⟩ := Option.map_eq_some_iff.1 h
      exact itemsSorted_iff.2 (isSorted_of_itemValues? items hvs)
  | object members =>
    cases d with
    | zero => cases h
    | succ d =>
      obtain ⟨vs, hvs, rfl⟩ := Option.map_eq_some_iff.1 h
      refine membersSorted_iff.2 ⟨Keyed.ascending_ofList vs, fun m hm => ?_⟩
      exact isSorted_of_memberValues? members hvs m (Keyed.mem_ofList hm)

theorem isSorted_of_itemValues? (items : List Term) {d : Nat} {vs : List Value}
    (h : itemValues? d items = some vs) : ∀ v ∈ vs, v.isSorted := by
  cases items with
  | nil =>
    cases h
    exact fun v hv => absurd hv List.not_mem_nil
  | cons t rest =>
    obtain ⟨v, hv, h⟩ := Option.bind_eq_some_iff.1 h
    obtain ⟨ws, hws, h⟩ := Option.bind_eq_some_iff.1 h
    cases h
    exact List.forall_mem_cons.2 ⟨t.isSorted_of_value? hv, isSorted_of_itemValues? rest hws⟩

theorem isSorted_of_memberValues? (members : List (Option String × Term)) {d : Nat}
    {vs : List (String × Value)} (h : memberValues? d members = some vs) :
    ∀ m ∈ vs, m.2.isSorted := by
  cases members with
  | nil =>
    cases h
    exact fun m hm => absurd hm List.not_mem_nil
  | cons m rest =>
    obtain ⟨k, t⟩ := m
    obtain ⟨key, -, h⟩ := Option.bind_eq_some_iff.1 h
    obtain ⟨v, hv, h⟩ := Option.bind_eq_some_iff.1 h
    obtain ⟨ws, hws, h⟩ := Option.bind_eq_some_iff.1 h
    cases h
    exact List.forall_mem_cons.2 ⟨t.isSorted_of_value? hv, isSorted_of_memberValues? rest hws⟩

end

lemma Value.isSorted_of_ofText? {s : String} {v : Value} (h : Value.ofText? s = some v) :
    v.isSorted := by
  obtain ⟨t, -, hv⟩ := Option.bind_eq_some_iff.1 h
  exact t.isSorted_of_value? hv

lemma Serialises.ofText? {s : String} {v : Value} (h : Serialises s v) :
    Value.ofText? s = some v := by
  obtain ⟨t, ht, hdepth, hmeans⟩ := h
  rw [Value.ofText?, ht, Option.bind_some, hmeans.value? hdepth]

end Estate.Json
