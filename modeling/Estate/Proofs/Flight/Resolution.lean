import Mathlib.Data.List.Forall2
import Mathlib.Tactic.Lemma
import Estate.Proofs.Flight.Search

/-!
How deep references are followed.

Arrays, objects and references count as one level each on the way from a value to what stands inside
it. Whatever is less levels away than are followed is resolved. So a reference that is left stands
at least so many levels away, and if no way is longer all references are replaced.
-/

namespace Estate.Flight

open Json

/-- The part of a value at a place: an item, or the value of a member. -/
def part? : Value → Nat → Option Value
  | .array items, i => items[i]?
  | .object ms, i => (ms[i]?).map (·.2)
  | _, _ => none

/-- What stands inside a value, at a place in a place and so on. -/
def inside? (v : Value) (places : List Nat) : Option Value := places.foldlM part? v

/-- A way from one value to another: the places that it passes in arrays and objects, and how many
levels it uses for them and for the references between. -/
inductive Leads (f : Flight) : Value → List Nat → Nat → Value → Prop where
  | here (v : Value) : Leads f v [] 0 v
  | part {v u w : Value} {i levels : Nat} {places : List Nat} (hpart : part? v i = some u)
    (h : Leads f u places levels w) : Leads f v (i :: places) (levels + 1) w
  | hop {s : String} {u w : Value} {levels : Nat} {places : List Nat}
    (htarget : f.target? s = some u) (h : Leads f u places levels w) :
    Leads f (.string s) places (levels + 1) w

/-- The value with all references replaced, however deep they are. -/
inductive Substituted (f : Flight) : Value → Value → Prop where
  | atom {v : Value} (hparts : ∀ i, part? v i = none) (hrefers : f.refers v = false) :
    Substituted f v v
  | hop {s : String} {u w : Value} (htarget : f.target? s = some u) (h : Substituted f u w) :
    Substituted f (.string s) w
  | array {items others : List Value} (h : List.Forall₂ (Substituted f) items others) :
    Substituted f (.array items) (.array others)
  | object {ms others : List (String × Value)} (hkeys : ms.map (·.1) = others.map (·.1))
    (h : List.Forall₂ (Substituted f) (ms.map (·.2)) (others.map (·.2))) :
    Substituted f (.object ms) (.object others)

/-- No way from the value uses more levels than so many. -/
def spans (f : Flight) : Nat → Value → Bool
  | 0, .string s => (f.target? s).isNone
  | 0, .array items => items.isEmpty
  | 0, .object ms => ms.isEmpty
  | levels + 1, .string s => (f.target? s).all (f.spans levels)
  | levels + 1, .array items => items.all (f.spans levels)
  | levels + 1, .object ms => ms.all fun e => f.spans levels e.2
  | _, _ => true

/-- The resolved value of a key. -/
def resolved? (f : Flight) (key : String) : Option Value := (f.raw? key).map f.resolve

section

variable {f : Flight} {v u w : Value} {places : List Nat} {levels n : Nat}

/-! ### Ways -/

lemma refers_eq_false_of_part? {i : Nat} (h : part? v i = some u) : f.refers v = false := by
  cases v with
  | string s => cases h
  | _ => rfl

lemma Leads.then_hop {s : String} (h : f.Leads v places levels (.string s))
    (htarget : f.target? s = some u) : f.Leads v places (levels + 1) u := by
  generalize hw : Value.string s = w at h
  induction h with
  | here v => subst hw; exact .hop htarget (.here u)
  | part hpart _ ih => exact .part hpart (ih hw)
  | hop hfirst _ ih => exact .hop hfirst (ih hw)

lemma leads_inside (h : inside? v places = some w) : f.Leads v places places.length w := by
  induction places generalizing v with
  | nil => cases h; exact .here _
  | cons i places ih =>
    rw [inside?, List.foldlM_cons] at h
    obtain ⟨u, hpart, hrest⟩ := Option.bind_eq_some_iff.1 h
    exact .part hpart (ih hrest)

lemma le_of_spans (hspans : f.spans n v) (h : f.Leads v places levels w) : levels ≤ n := by
  induction h generalizing n with
  | here v => exact Nat.zero_le n
  | @part v u w i levels places hpart _ ih =>
    cases v with
    | array items =>
      have hmem : u ∈ items := List.mem_of_getElem? hpart
      cases n with
      | zero => simp [spans] at hspans; simp [hspans] at hmem
      | succ n => exact Nat.succ_le_succ (ih (List.all_eq_true.1 hspans u hmem))
    | object ms =>
      obtain ⟨e, he, rfl⟩ := Option.map_eq_some_iff.1 hpart
      have hmem : e ∈ ms := List.mem_of_getElem? he
      cases n with
      | zero => simp [spans] at hspans; simp [hspans] at hmem
      | succ n => exact Nat.succ_le_succ (ih (List.all_eq_true.1 hspans e hmem))
    | _ => cases hpart
  | hop htarget _ ih =>
    cases n with
    | zero => simp [spans, htarget] at hspans
    | succ n =>
      rw [spans, htarget] at hspans
      exact Nat.succ_le_succ (ih hspans)

lemma spans_of_le (h : ∀ places levels w, f.Leads v places levels w → levels ≤ n) :
    f.spans n v := by
  have hpart {m i : Nat} {v u : Value}
      (h : ∀ places levels w, f.Leads v places levels w → levels ≤ m + 1)
      (hi : part? v i = some u) : ∀ places levels w, f.Leads u places levels w → levels ≤ m :=
    fun places levels w hway => Nat.le_of_succ_le_succ (h (i :: places) _ w (.part hi hway))
  induction n generalizing v with
  | zero =>
    have hnone : ∀ i, part? v i = none := by
      intro i
      cases hi : part? v i with
      | none => rfl
      | some u => exact absurd (h [i] 1 u (.part hi (.here u))) (by omega)
    cases v with
    | string s =>
      cases ht : f.target? s with
      | none => simp [spans, ht]
      | some u => exact absurd (h [] 1 u (.hop ht (.here u))) (by omega)
    | array items => simpa [spans, part?] using hnone 0
    | object ms => simpa [spans, part?] using hnone 0
    | _ => rfl
  | succ n ih =>
    cases v with
    | string s =>
      cases ht : f.target? s with
      | none => simp [spans, ht]
      | some u =>
        rw [spans, ht]
        exact ih fun places levels w hway =>
          Nat.le_of_succ_le_succ (h places _ w (.hop ht hway))
    | array items =>
      refine List.all_eq_true.2 fun u hu => ?_
      obtain ⟨i, hi⟩ := List.getElem?_of_mem hu
      exact ih (hpart h hi)
    | object ms =>
      refine List.all_eq_true.2 fun e he => ?_
      obtain ⟨i, hi⟩ := List.getElem?_of_mem he
      exact ih (hpart h (i := i) (by simp [part?, hi]))
    | _ => rfl

/-! ### Values that are cut off -/

lemma resolveFrom_hop {s : String} (h : f.target? s = some u) (levels : Nat) :
    f.resolveFrom (levels + 1) (.string s) = f.resolveFrom levels u := by
  simp only [resolveFrom, h]

lemma part?_resolveFrom (hrefers : f.refers v = false) (levels i : Nat) :
    part? (f.resolveFrom (levels + 1) v) i = (part? v i).map (f.resolveFrom levels) := by
  cases v with
  | string s =>
    have hnone : f.target? s = none := by simpa [refers] using hrefers
    simp only [resolveFrom, hnone]
    rfl
  | array items => simp [resolveFrom, part?]
  | object ms => simp [resolveFrom, part?, Function.comp_def]
  | _ => rfl

/-- What a way leads to stands at its places in the resolved value, resolved as deep as levels are
left. -/
lemma inside?_of_leads (h : f.Leads v places levels w) (hle : levels ≤ n) :
    inside? (f.resolveFrom n v) places = some (f.resolveFrom (n - levels) w) := by
  induction h generalizing n with
  | here v => rfl
  | part hpart _ ih =>
    obtain ⟨n, rfl⟩ := Nat.exists_eq_add_one_of_ne_zero (Nat.ne_zero_of_lt hle)
    rw [inside?, List.foldlM_cons, part?_resolveFrom (refers_eq_false_of_part? hpart), hpart]
    rw [Nat.add_sub_add_right]
    exact ih (Nat.le_of_succ_le_succ hle)
  | hop htarget _ ih =>
    obtain ⟨n, rfl⟩ := Nat.exists_eq_add_one_of_ne_zero (Nat.ne_zero_of_lt hle)
    rw [resolveFrom_hop htarget, Nat.add_sub_add_right]
    exact ih (Nat.le_of_succ_le_succ hle)

/-- A reference is left only where a way of so many levels or more leads to it. -/
lemma leads_of_left {s : String} (h : inside? (f.resolveFrom n v) places = some (.string s))
    (hs : (f.target? s).isSome) : ∃ levels, n ≤ levels ∧ f.Leads v places levels (.string s) := by
  induction n generalizing v places with
  | zero => exact ⟨places.length, Nat.zero_le _, leads_inside h⟩
  | succ n ih =>
    by_cases hrefers : f.refers v = true
    · cases v with
      | string t =>
        obtain ⟨u, hu⟩ := Option.isSome_iff_exists.1 hrefers
        rw [resolveFrom_hop hu] at h
        obtain ⟨levels, hle, hway⟩ := ih h
        exact ⟨levels + 1, Nat.succ_le_succ hle, .hop hu hway⟩
      | _ => cases hrefers
    · rw [Bool.not_eq_true] at hrefers
      cases places with
      | nil =>
        have hroot : f.resolveFrom (n + 1) v = .string s := Option.some.inj h
        cases v with
        | string t =>
          have hnone : f.target? t = none := by simpa [refers] using hrefers
          simp only [resolveFrom, hnone, Value.string.injEq] at hroot
          rw [← hroot, hnone] at hs
          cases hs
        | _ => cases hroot
      | cons i places =>
        rw [inside?, List.foldlM_cons, part?_resolveFrom hrefers] at h
        obtain ⟨r, hr, hrest⟩ := Option.bind_eq_some_iff.1 h
        obtain ⟨u, hu, rfl⟩ := Option.map_eq_some_iff.1 hr
        obtain ⟨levels, hle, hway⟩ := ih hrest
        exact ⟨levels + 1, Nat.succ_le_succ hle, .part hu hway⟩

/-! ### Values that are resolved as a whole -/

lemma resolveFrom_atom (hparts : ∀ i, part? v i = none) (hrefers : f.refers v = false) (n : Nat) :
    f.resolveFrom n v = v := by
  cases v with
  | string s => exact resolveFrom_plain (by simpa [refers, plain] using hrefers) n
  | array items =>
    have hnil : items = [] := by simpa [part?] using hparts 0
    exact resolveFrom_plain (by simp [hnil, plain, plainItems]) n
  | object ms =>
    have hnil : ms = [] := by simpa [part?] using hparts 0
    exact resolveFrom_plain (by simp [hnil, plain, plainMembers]) n
  | _ => exact resolveFrom_plain rfl n

lemma substituted_resolveFrom (h : f.spans n v) : f.Substituted v (f.resolveFrom n v) := by
  induction n generalizing v with
  | zero =>
    cases v with
    | string s => exact .atom (fun _ => rfl) (by simpa [spans, refers] using h)
    | array items =>
      obtain rfl : items = [] := by simpa [spans] using h
      exact .array .nil
    | object ms =>
      obtain rfl : ms = [] := by simpa [spans] using h
      exact .object rfl .nil
    | _ => exact .atom (fun _ => rfl) rfl
  | succ n ih =>
    cases v with
    | string s =>
      cases ht : f.target? s with
      | none =>
        have hatom : f.resolveFrom (n + 1) (.string s) = .string s := by
          simp only [resolveFrom, ht]
        rw [hatom]
        exact .atom (fun _ => rfl) (by simp [refers, ht])
      | some u =>
        rw [spans, ht] at h
        rw [resolveFrom_hop ht]
        exact .hop ht (ih h)
    | array items =>
      rw [spans, List.all_eq_true] at h
      exact .array (List.forall₂_map_right_iff.2 (List.forall₂_same.2 fun v hv => ih (h v hv)))
    | object ms =>
      rw [spans, List.all_eq_true] at h
      refine .object (by simp [Function.comp_def]) ?_
      rw [List.map_map, List.forall₂_map_left_iff, List.forall₂_map_right_iff]
      exact List.forall₂_same.2 fun e he => ih (h e he)
    | _ => exact .atom (fun _ => rfl) rfl

lemma eq_map_of_forall₂ {α β : Type} {R : α → β → Prop} {g : α → β} {as : List α} {bs : List β}
    (h : List.Forall₂ R as bs) (hg : ∀ a ∈ as, ∀ b, R a b → b = g a) : bs = as.map g := by
  induction h with
  | nil => rfl
  | cons hab _ ih =>
    rw [List.map_cons, hg _ (by simp) _ hab, ih fun a ha => hg a (by simp [ha])]

/-- There is one value with all references replaced. -/
lemma Substituted.eq_resolveFrom (hspans : f.spans n v) (h : f.Substituted v w) :
    w = f.resolveFrom n v := by
  induction n generalizing v w with
  | zero =>
    cases h with
    | atom hparts hrefers => exact (resolveFrom_atom hparts hrefers 0).symm
    | hop htarget _ => simp [spans, htarget] at hspans
    | array h =>
      rw [spans, List.isEmpty_iff] at hspans
      subst hspans
      cases h
      rfl
    | object hkeys h =>
      rw [spans, List.isEmpty_iff] at hspans
      subst hspans
      rw [List.map_eq_nil_iff.1 hkeys.symm]
      rfl
  | succ n ih =>
    cases h with
    | atom hparts hrefers => exact (resolveFrom_atom hparts hrefers (n + 1)).symm
    | hop htarget h =>
      rw [spans, htarget] at hspans
      rw [resolveFrom_hop htarget]
      exact ih hspans h
    | array h =>
      rw [spans, List.all_eq_true] at hspans
      rw [resolveFrom, eq_map_of_forall₂ h fun u hu w hw => ih (hspans u hu) hw]
    | @object ms others hkeys h =>
      rw [spans, List.all_eq_true] at hspans
      have hvalues : others.map (·.2) = (ms.map (·.2)).map (f.resolveFrom n) := by
        refine eq_map_of_forall₂ h fun u hu w hw => ?_
        obtain ⟨e, he, rfl⟩ := List.mem_map.1 hu
        exact ih (hspans e he) hw
      rw [resolveFrom, List.zip_of_prod hkeys.symm hvalues]
      simp [List.zip_map', Function.comp_def]

lemma spans_mono (h : f.spans n v) {more : Nat} (hle : n ≤ more) : f.spans more v :=
  spans_of_le fun _ _ _ hway => Nat.le_trans (le_of_spans h hway) hle

lemma resolveFrom_withDepth (f : Flight) (depth levels : Nat) (v : Value) :
    ({ f with depth := depth } : Flight).resolveFrom levels v = f.resolveFrom levels v := by
  induction levels generalizing v with
  | zero => rfl
  | succ levels ih =>
    have htarget (s : String) : ({ f with depth := depth } : Flight).target? s = f.target? s := rfl
    cases v with
    | string s => simp only [resolveFrom, htarget, ih]
    | array items => simp only [resolveFrom, List.map_congr_left fun v _ => ih v]
    | object ms => simp only [resolveFrom, ih]
    | _ => rfl

lemma isSome_resolved? (f : Flight) (key : String) :
    (f.resolved? key).isSome ↔ key ∈ f.keys := by
  rw [resolved?, Option.isSome_map]
  exact Keyed.isSome_get? f.chunks key

end

/-- **References are followed as deep as is allowed, and no deeper**: each key has a resolved value,
be its references circular. In it there stands, behind every way of no more levels than are
followed, what the way leads to, resolved with the levels that are left, and a reference is left
only behind a way of at least so many levels. If no way is longer the resolved value is the one with
all references replaced; none is left in it, and following references deeper changes nothing. -/
theorem resolution_exact (f : Flight) (key : String) :
    ((f.resolved? key).isSome ↔ key ∈ f.keys) ∧
    ∀ v r, f.raw? key = some v → f.resolved? key = some r →
      (∀ places levels w, f.Leads v places levels w → levels ≤ f.depth →
        inside? r places = some (f.resolveFrom (f.depth - levels) w)) ∧
      (∀ places s, inside? r places = some (.string s) → (f.target? s).isSome →
        ∃ levels, f.depth ≤ levels ∧ f.Leads v places levels (.string s)) ∧
      ((∀ places levels w, f.Leads v places levels w → levels ≤ f.depth) →
        (∀ u, f.Substituted v u ↔ u = r) ∧
        (∀ places s, inside? r places = some (.string s) → f.target? s = none) ∧
        ∀ more, f.depth ≤ more → ({ f with depth := more } : Flight).resolved? key = some r) := by
  refine ⟨isSome_resolved? f key, fun v r hraw hr => ?_⟩
  obtain rfl : f.resolveFrom f.depth v = r := by
    rw [resolved?, hraw] at hr
    exact Option.some.inj hr
  refine ⟨fun _ _ _ hway hle => inside?_of_leads hway hle, fun _ _ hleft hs =>
    leads_of_left hleft hs, fun hways => ?_⟩
  have hspans : f.spans f.depth v := spans_of_le hways
  refine ⟨fun u => ⟨fun h => h.eq_resolveFrom hspans, ?_⟩, fun places s hleft => ?_,
    fun more hle => ?_⟩
  · rintro rfl
    exact substituted_resolveFrom hspans
  · cases htarget : f.target? s with
    | none => rfl
    | some u =>
      -- the way that leads to the reference would go on to what it refers to
      obtain ⟨levels, hle, hway⟩ := leads_of_left hleft (by simp [htarget])
      exact absurd (hways places _ u (hway.then_hop htarget)) (by omega)
  · have hdeeper : f.resolveFrom more v = f.resolveFrom f.depth v :=
      (substituted_resolveFrom (spans_mono hspans hle)).eq_resolveFrom hspans
    have hraw' : ({ f with depth := more } : Flight).raw? key = some v := hraw
    rw [resolved?, hraw', Option.map_some, resolve, resolveFrom_withDepth, hdeeper]

/-- A reference in a list that is referred to itself. -/
def chain (depth : Nat) : Flight :=
  ⟨[("1", .object [("a", .string "$2")]), ("2", .array [.string "$3"]), ("3", .string "end")],
    depth⟩

/-- Three levels lead to the second reference and the fourth to its value. -/
theorem resolution_exact_chain :
    (∀ places levels w, (chain 4).Leads (.object [("a", .string "$2")]) places levels w →
      levels ≤ 4) ∧
      (chain 4).Substituted (.object [("a", .string "$2")])
        (.object [("a", .array [.string "end"])]) ∧
      (chain 9).resolved? "1" = some (.object [("a", .array [.string "end"])]) ∧
      (chain 3).resolved? "1" = some (.object [("a", .array [.string "$3"])]) ∧
      ∃ levels, 3 ≤ levels ∧
        (chain 3).Leads (.object [("a", .string "$2")]) [0, 0] levels (.string "$3") := by
  have hways : ∀ places levels w,
      (chain 4).Leads (.object [("a", .string "$2")]) places levels w → levels ≤ 4 :=
    fun _ _ _ => le_of_spans (by decide +kernel)
  obtain ⟨-, -, hdeep⟩ := (resolution_exact (chain 4) "1").2 _ _ rfl rfl
  obtain ⟨-, hleft, -⟩ := (resolution_exact (chain 3) "1").2 _ _ rfl rfl
  obtain ⟨hall, -, hmore⟩ := hdeep hways
  exact ⟨hways, (hall _).2 rfl, hmore 9 (by decide), rfl, hleft [0, 0] "$3" rfl rfl⟩

end Estate.Flight
