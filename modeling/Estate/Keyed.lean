/-!
Lists of keys with values, in ascending order of the keys and each key once.
-/

namespace Estate

abbrev Keyed (α : Type) := List (String × α)

namespace Keyed

variable {α : Type}

def get? (entries : Keyed α) (key : String) : Option α := List.lookup key entries

def contains (entries : Keyed α) (key : String) : Bool := (get? entries key).isSome

/-- Put a value under a key, in place of the one that stood there. -/
def insert (entries : Keyed α) (key : String) (a : α) : Keyed α :=
  match entries with
  | [] => [(key, a)]
  | (k, b) :: rest =>
    if key < k then (key, a) :: (k, b) :: rest
    else if key = k then (key, a) :: rest
    else (k, b) :: insert rest key a

/-- Put a value under a key unless one stands there. -/
def insertNew (entries : Keyed α) (key : String) (a : α) : Keyed α :=
  if contains entries key then entries else insert entries key a

def erase (entries : Keyed α) (key : String) : Keyed α := entries.filter fun e => e.1 != key

/-- Of the values given for a key the last stays. -/
def ofList (pairs : List (String × α)) : Keyed α :=
  pairs.foldl (fun entries p => insert entries p.1 p.2) []

def keys (entries : Keyed α) : List String := entries.map (·.1)

@[simp] theorem get?_nil (name : String) : get? ([] : Keyed α) name = none := rfl

theorem get?_cons (k : String) (b : α) (rest : Keyed α) (name : String) :
    get? ((k, b) :: rest) name = if name = k then some b else get? rest name := by
  by_cases h : name = k
  · simp [get?, h]
  · have h' : (name == k) = false := by simpa using h
    simp [get?, List.lookup_cons, h, h']

/-- A value is found under the key it was put under; nothing else changes. -/
theorem get?_insert (entries : Keyed α) (key name : String) (a : α) :
    get? (insert entries key a) name = if name = key then some a else get? entries name := by
  induction entries with
  | nil => simp [insert, get?_cons]
  | cons e rest ih =>
    obtain ⟨k, b⟩ := e
    unfold insert
    split
    · rw [get?_cons]
    · split
      · next h =>
        subst h
        simp only [get?_cons]
        split <;> rfl
      · next h =>
        rw [get?_cons, ih, get?_cons]
        by_cases hk : name = k
        · have hn : name ≠ key := fun hn => h (hn.symm.trans hk)
          rw [if_pos hk, if_neg hn, if_pos hk]
        · rw [if_neg hk, if_neg hk]

/-- What stands under a key stays there. -/
theorem get?_insertNew (entries : Keyed α) (key name : String) (a : α) :
    get? (insertNew entries key a) name =
      if name = key then some ((get? entries key).getD a) else get? entries name := by
  unfold insertNew contains
  cases h : get? entries key with
  | none => simp [get?_insert]
  | some b =>
    rw [Option.isSome_some, if_pos rfl, Option.getD_some]
    split
    · next hname => rw [hname, h]
    · rfl

theorem get?_map {β : Type} (g : α → β) (entries : Keyed α) (name : String) :
    get? (entries.map fun e => (e.1, g e.2)) name = (get? entries name).map g := by
  induction entries with
  | nil => rfl
  | cons e rest ih =>
    rw [List.map_cons, get?_cons, ih, get?_cons]
    split <;> rfl

theorem get?_erase (entries : Keyed α) (key name : String) :
    get? (erase entries key) name = if name = key then none else get? entries name := by
  induction entries with
  | nil => simp [erase]
  | cons e rest ih =>
    by_cases hkey : e.1 = key
    · have hrest : erase (e :: rest) key = erase rest key :=
        List.filter_cons_of_neg (by simpa using hkey)
      rw [hrest, ih, get?_cons, hkey]
      split <;> rfl
    · have hrest : erase (e :: rest) key = e :: erase rest key :=
        List.filter_cons_of_pos (by simpa using hkey)
      rw [hrest, get?_cons, ih, get?_cons]
      by_cases hname : name = e.1
      · rw [if_pos hname, if_pos hname, if_neg (hname ▸ hkey)]
      · rw [if_neg hname, if_neg hname]

theorem isSome_get? (entries : Keyed α) (name : String) :
    (get? entries name).isSome ↔ name ∈ entries.map (·.1) := by
  induction entries with
  | nil => simp
  | cons e rest ih =>
    rw [get?_cons, List.map_cons, List.mem_cons, ← ih]
    by_cases h : name = e.1 <;> simp [h]

theorem mem_of_get? {entries : Keyed α} {name : String} {a : α} (h : get? entries name = some a) :
    (name, a) ∈ entries := by
  induction entries with
  | nil => cases h
  | cons e rest ih =>
    rw [get?_cons] at h
    split at h
    · next hname =>
      cases h
      rw [hname]
      exact List.mem_cons_self
    · exact List.mem_cons_of_mem e (ih h)

theorem get?_foldl_insert {pairs : List (String × α)} (h : (pairs.map (·.1)).Nodup)
    (entries : Keyed α) (name : String) :
    get? (pairs.foldl (fun entries p => insert entries p.1 p.2) entries) name =
      (get? pairs name).or (get? entries name) := by
  induction pairs generalizing entries with
  | nil => rfl
  | cons e pairs ih =>
    obtain ⟨hkey, hpairs⟩ := List.nodup_cons.1 h
    rw [List.foldl_cons, ih hpairs, get?_insert, get?_cons]
    by_cases hname : name = e.1
    · have hnone : get? pairs name = none := by
        rw [← Option.not_isSome_iff_eq_none, isSome_get?, hname]
        exact hkey
      rw [hnone, if_pos hname, if_pos hname]
      rfl
    · rw [if_neg hname, if_neg hname]

/-- Where each key is given once, its value is found. -/
theorem get?_ofList {pairs : List (String × α)} (h : (pairs.map (·.1)).Nodup) (name : String) :
    get? (ofList pairs) name = get? pairs name := by
  rw [ofList, get?_foldl_insert h, get?_nil, Option.or_none]

/-- Of values given for one key the last is found. -/
theorem get?_ofList_last (name : String) (list : List α) :
    get? (ofList (list.map fun a => (name, a))) name = list.getLast? := by
  rcases List.eq_nil_or_concat list with rfl | ⟨more, a, rfl⟩
  · rfl
  · rw [ofList, List.concat_eq_append, List.map_append, List.foldl_append]
    simp [get?_insert]

/-! ### The order in which values are given -/

theorem insert_nil (key : String) (a : α) : insert [] key a = [(key, a)] := rfl

theorem insert_before {k key : String} (h : key < k) (b : α) (rest : Keyed α) (a : α) :
    insert ((k, b) :: rest) key a = (key, a) :: (k, b) :: rest := if_pos h

theorem insert_after {k key : String} (h : k < key) (b : α) (rest : Keyed α) (a : α) :
    insert ((k, b) :: rest) key a = (k, b) :: insert rest key a := by
  have hne : ¬ key = k := fun heq => String.lt_irrefl key (heq ▸ h)
  rw [insert, if_neg (String.lt_asymm h), if_neg hne]

/-- Values for two keys may be put in in either order. -/
theorem insert_comm (entries : Keyed α) {k l : String} (h : k ≠ l) (a b : α) :
    insert (insert entries k a) l b = insert (insert entries l b) k a := by
  have hasymm : ∀ x y : String, x < y → ¬ y < x := fun _ _ => String.lt_asymm
  have htrans : ∀ x y z : String, x < y → y < z → x < z := fun _ _ _ => String.lt_trans
  have htotal : ∀ x y : String, x ≠ y → ¬ x < y → y < x := fun x y hne hlt =>
    Decidable.byContradiction fun hgt =>
      hne (String.le_antisymm (String.not_lt.1 hgt) (String.not_lt.1 hlt))
  induction entries with
  | nil => grind [insert]
  | cons e rest ih => grind [insert]

theorem get?_of_mem {pairs : List (String × α)} (h : (pairs.map (·.1)).Nodup) {name : String}
    {a : α} (ha : (name, a) ∈ pairs) : get? pairs name = some a := by
  induction pairs with
  | nil => cases ha
  | cons e rest ih =>
    obtain ⟨hkey, hrest⟩ := List.nodup_cons.1 h
    rw [get?_cons]
    rcases List.mem_cons.1 ha with rfl | ha
    · rw [if_pos rfl]
    · have hne : name ≠ e.1 := fun hname => hkey (List.mem_map.2 ⟨(name, a), ha, hname⟩)
      rw [if_neg hne, ih hrest ha]

/-- Where each key is given once, the same is found in any order. -/
theorem get?_perm {pairs others : List (String × α)} (h : pairs.Perm others)
    (hkeys : (pairs.map (·.1)).Nodup) (name : String) : get? pairs name = get? others name := by
  have hothers : (others.map (·.1)).Nodup := (h.map _).nodup_iff.1 hkeys
  refine Option.ext fun a => ⟨fun ha => ?_, fun ha => ?_⟩
  · exact get?_of_mem hothers (h.mem_iff.1 (mem_of_get? ha))
  · exact get?_of_mem hkeys (h.mem_iff.2 (mem_of_get? ha))

/-- Where each key is given once, the values may be put in in any order. -/
theorem ofList_perm {pairs others : List (String × α)} (h : pairs.Perm others)
    (hkeys : (pairs.map (·.1)).Nodup) : ofList pairs = ofList others := by
  refine h.foldl_eq' (fun p hp q hq entries => ?_) []
  by_cases hkey : p.1 = q.1
  · have hp' : get? pairs p.1 = some p.2 := get?_of_mem hkeys hp
    have hq' : get? pairs q.1 = some q.2 := get?_of_mem hkeys hq
    rw [hkey, hq', Option.some.injEq] at hp'
    rw [hkey, hp']
  · exact insert_comm entries hkey p.2 q.2

/-- The keys ascend. -/
def Ascending (pairs : List (String × α)) : Prop := (pairs.map (·.1)).Pairwise (· < ·)

theorem insert_behind {entries : Keyed α} {key : String} (h : ∀ k ∈ keys entries, k < key) (a : α) :
    insert entries key a = entries ++ [(key, a)] := by
  induction entries with
  | nil => rfl
  | cons e rest ih =>
    have hlt : e.1 < key := h e.1 List.mem_cons_self
    have hrest : insert rest key a = rest ++ [(key, a)] :=
      ih fun k hk => h k (List.mem_cons_of_mem _ hk)
    rw [insert_after hlt, hrest, List.cons_append]

theorem foldl_insert_behind {entries pairs : List (String × α)} (h : Ascending (entries ++ pairs)) :
    pairs.foldl (fun entries p => insert entries p.1 p.2) entries = entries ++ pairs := by
  induction pairs generalizing entries with
  | nil => rw [List.foldl_nil, List.append_nil]
  | cons p pairs ih =>
    have hlt : ∀ k ∈ keys entries, k < p.1 := fun k hk => by
      rw [Ascending, List.map_append] at h
      exact (List.pairwise_append.1 h).2.2 k hk p.1 List.mem_cons_self
    have happend : entries ++ p :: pairs = entries ++ [(p.1, p.2)] ++ pairs :=
      List.append_cons entries p pairs
    rw [List.foldl_cons, insert_behind hlt, happend]
    exact ih (happend ▸ h)

/-- Entries that ascend are kept as they are. -/
theorem ofList_eq_self {pairs : List (String × α)} (h : Ascending pairs) : ofList pairs = pairs := by
  have hbehind : Ascending ([] ++ pairs) := h
  exact foldl_insert_behind hbehind

theorem Ascending.nodup {pairs : List (String × α)} (h : Ascending pairs) :
    (pairs.map (·.1)).Nodup :=
  List.Pairwise.imp (fun {k l} (hlt : k < l) (heq : k = l) => String.lt_irrefl l (heq ▸ hlt)) h

theorem ascending_cons {e : String × α} {rest : Keyed α} :
    Ascending (e :: rest) ↔ (∀ m ∈ rest, e.1 < m.1) ∧ Ascending rest := by
  simp only [Ascending, List.map_cons, List.pairwise_cons, List.forall_mem_map]

theorem mem_insert {entries : Keyed α} {key : String} {a : α} {e : String × α}
    (h : e ∈ insert entries key a) : e = (key, a) ∨ e ∈ entries := by
  induction entries with
  | nil => exact .inl (List.mem_singleton.1 h)
  | cons m rest ih =>
    unfold insert at h
    split at h
    · exact List.mem_cons.1 h
    · split at h
      · exact (List.mem_cons.1 h).imp_right (List.mem_cons_of_mem m)
      · rcases List.mem_cons.1 h with rfl | h
        · exact .inr List.mem_cons_self
        · exact (ih h).imp_right (List.mem_cons_of_mem m)

theorem Ascending.insert {entries : Keyed α} (h : Ascending entries) (key : String) (a : α) :
    Ascending (insert entries key a) := by
  induction entries with
  | nil => exact ascending_cons.2 ⟨fun m hm => absurd hm List.not_mem_nil, .nil⟩
  | cons e rest ih =>
    obtain ⟨hfirst, hrest⟩ := ascending_cons.1 h
    unfold Keyed.insert
    split
    · next hlt =>
      refine ascending_cons.2 ⟨fun m hm => ?_, h⟩
      rcases List.mem_cons.1 hm with rfl | hm
      · exact hlt
      · exact String.lt_trans hlt (hfirst m hm)
    · next hge =>
      split
      · next heq => exact ascending_cons.2 ⟨heq ▸ hfirst, hrest⟩
      · next hne =>
        have hlt : e.1 < key := Decidable.byContradiction fun hle =>
          hne (String.le_antisymm (String.not_lt.1 hle) (String.not_lt.1 hge))
        refine ascending_cons.2 ⟨fun m hm => ?_, ih hrest⟩
        rcases mem_insert hm with rfl | hm
        · exact hlt
        · exact hfirst m hm

theorem ascending_foldl_insert {entries : Keyed α} (h : Ascending entries)
    (pairs : List (String × α)) :
    Ascending (pairs.foldl (fun entries p => Keyed.insert entries p.1 p.2) entries) := by
  induction pairs generalizing entries with
  | nil => exact h
  | cons p pairs ih => exact ih (h.insert p.1 p.2)

/-- Entries put in one by one ascend. -/
theorem ascending_ofList (pairs : List (String × α)) : Ascending (ofList pairs) := by
  have hnone : Ascending ([] : Keyed α) := List.Pairwise.nil
  exact ascending_foldl_insert hnone pairs

theorem mem_foldl_insert {pairs : List (String × α)} {entries : Keyed α} {e : String × α}
    (h : e ∈ pairs.foldl (fun entries p => insert entries p.1 p.2) entries) :
    e ∈ entries ∨ e ∈ pairs := by
  induction pairs generalizing entries with
  | nil => exact .inl h
  | cons p pairs ih =>
    rcases ih h with h | h
    · rcases mem_insert h with rfl | h
      · exact .inr List.mem_cons_self
      · exact .inl h
    · exact .inr (List.mem_cons_of_mem p h)

theorem mem_ofList {pairs : List (String × α)} {e : String × α} (h : e ∈ ofList pairs) :
    e ∈ pairs :=
  (mem_foldl_insert h).resolve_left List.not_mem_nil

end Keyed

end Estate
