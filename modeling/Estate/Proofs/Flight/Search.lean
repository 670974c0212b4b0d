import Estate.Flight
import Estate.Proofs.Json.Location

/-!
The search for a path that starts with a key, among values that refer to one another.

The search looks into the table of chunks as it was received: a path leads through what stands
there, and only what it ends at has its references replaced. So it finds what stands at the path
among the resolved values, unless the path would have to pass through a reference.
-/

namespace Estate.Flight

open Json

/-! ### Keys -/

/-- The characters of a key. -/
def IsKey (key : String) : Prop := key.toList ≠ [] ∧ ∀ c ∈ key.toList, Text.isWord c

lemma keys_put (chunks : List (String × Value)) (key : String) (v : Value) :
    (put chunks key v).map (·.1) =
      if key ∈ chunks.map (·.1) then chunks.map (·.1) else chunks.map (·.1) ++ [key] := by
  have hmem : (chunks.lookup key).isSome ↔ key ∈ chunks.map (·.1) := Keyed.isSome_get? chunks key
  unfold put
  by_cases h : key ∈ chunks.map (·.1)
  · rw [if_pos (hmem.2 h), if_pos h, List.map_map]
    refine List.map_congr_left fun e _ => ?_
    by_cases he : e.1 = key <;> simp [he]
  · rw [if_neg fun hsome => h (hmem.1 hsome), if_neg h, List.map_append]
    rfl

lemma isKey_of_lineEntry? {line : List Char} {e : String × Value} (h : lineEntry? line = some e) :
    IsKey e.1 := by
  unfold lineEntry? at h
  split at h
  · cases h
  · dsimp only at h
    split at h
    · cases h
    · next hword =>
      obtain ⟨v, -, rfl⟩ := Option.map_eq_some_iff.1 h
      simpa [IsKey] using hword

/-- The keys of a payload are words, each there once. -/
lemma keys_ofPayload (text : List Char) :
    (ofPayload text).keys.Nodup ∧ ∀ key ∈ (ofPayload text).keys, IsKey key := by
  have hfold {entries : List (String × Value)} (hentries : ∀ e ∈ entries, IsKey e.1)
      (chunks : List (String × Value)) (hnodup : (chunks.map (·.1)).Nodup)
      (hkeys : ∀ key ∈ chunks.map (·.1), IsKey key) :
      ((entries.foldl (fun chunks e => put chunks e.1 e.2) chunks).map (·.1)).Nodup ∧
        ∀ key ∈ (entries.foldl (fun chunks e => put chunks e.1 e.2) chunks).map (·.1),
          IsKey key := by
    induction entries generalizing chunks with
    | nil => exact ⟨hnodup, hkeys⟩
    | cons e entries ih =>
      refine ih (fun e' he' => hentries e' (by simp [he'])) _ ?_ ?_
      · rw [keys_put]
        split
        · exact hnodup
        · next h =>
          exact List.nodup_append.2 ⟨hnodup, by simp, fun a ha b hb heq => h
            (by rwa [← List.mem_singleton.1 hb, ← heq])⟩
      · rw [keys_put]
        split
        · exact hkeys
        · intro key hkey
          rcases List.mem_append.1 hkey with hkey | hkey
          · exact hkeys key hkey
          · obtain rfl := List.mem_singleton.1 hkey
            exact hentries e (by simp)
  refine hfold (fun e he => ?_) [] List.nodup_nil (by simp)
  obtain ⟨line, -, hline⟩ := List.mem_filterMap.1 he
  exact isKey_of_lineEntry? hline

lemma IsKey.tight {key : String} (h : IsKey key) : Text.Tight key.toList :=
  Text.tight_of_all fun c hc => Text.isBlank_of_isWord (h.2 c hc)

lemma IsKey.plain {key : String} (h : IsKey key) : PlainKey key.toList where
  filled := h.1
  dot := fun hc => absurd (h.2 _ hc) (by decide)
  bracket := fun hc => absurd (h.2 _ hc) (by decide)
  tight := h.tight

/-- A path that starts with a key starts with the step to its value. -/
lemma pathSteps_key {key : String} (h : IsKey key) (path : String) :
    pathSteps (key ++ "." ++ path).toList = .name key.toList :: pathSteps path.toList := by
  rw [String.toList_append, String.toList_append, List.append_assoc]
  have hdot : ".".toList ++ path.toList = '.' :: path.toList := rfl
  rw [hdot, pathSteps_dot, h.plain.pathSteps, List.singleton_append]

/-! ### References -/

/-- The value is a text that refers to another. -/
def refers (f : Flight) : Value → Bool
  | .string s => (f.target? s).isSome
  | _ => false

mutual

/-- No reference stands anywhere in the value. -/
def plain (f : Flight) : Value → Bool
  | .string s => (f.target? s).isNone
  | .array items => f.plainItems items
  | .object ms => f.plainMembers ms
  | _ => true

def plainItems (f : Flight) : List Value → Bool
  | [] => true
  | v :: items => f.plain v && f.plainItems items

def plainMembers (f : Flight) : List (String × Value) → Bool
  | [] => true
  | (_, v) :: ms => f.plain v && f.plainMembers ms

end

/-- Where the following of references ends, none is left. -/
def uncut (f : Flight) : Nat → Value → Bool
  | 0, v => f.plain v
  | levels + 1, v =>
    match v with
    | .string s =>
      match f.target? s with
      | some w => f.uncut levels w
      | none => true
    | .array items => items.all (f.uncut levels)
    | .object ms => ms.all fun e => f.uncut levels e.2
    | _ => true

/-- Following references deeper would change nothing. -/
def Settled (f : Flight) (v : Value) : Prop :=
  ∀ levels, f.depth ≤ levels → f.resolveFrom levels v = f.resolve v

section

variable {f : Flight}

lemma plainItems_iff {items : List Value} :
    f.plainItems items = true ↔ ∀ v ∈ items, f.plain v = true := by
  induction items with
  | nil => simp [plainItems]
  | cons v items ih => simp [plainItems, ih]

lemma plainMembers_iff {ms : List (String × Value)} :
    f.plainMembers ms = true ↔ ∀ e ∈ ms, f.plain e.2 = true := by
  induction ms with
  | nil => simp [plainMembers]
  | cons e ms ih =>
    obtain ⟨key, v⟩ := e
    simp only [plainMembers, Bool.and_eq_true, ih, List.forall_mem_cons]

lemma map_eq_self {α : Type} {g : α → α} {as : List α} (h : ∀ a ∈ as, g a = a) :
    as.map g = as := by
  rw [List.map_congr_left h, List.map_id']

lemma resolveFrom_plain {v : Value} (h : f.plain v) (levels : Nat) :
    f.resolveFrom levels v = v := by
  induction levels generalizing v with
  | zero => rfl
  | succ levels ih =>
    cases v with
    | string s =>
      rw [plain, Option.isNone_iff_eq_none] at h
      simp only [resolveFrom, h]
    | array items =>
      rw [plain, plainItems_iff] at h
      rw [resolveFrom, map_eq_self fun v hv => ih (h v hv)]
    | object ms =>
      rw [plain, plainMembers_iff] at h
      rw [resolveFrom, map_eq_self fun e he => by rw [ih (h e he)]]
    | _ => rfl

/-- Following references deeper than to where none is left changes nothing. -/
lemma resolveFrom_uncut {levels more : Nat} (hle : levels ≤ more) {v : Value}
    (h : f.uncut levels v) : f.resolveFrom more v = f.resolveFrom levels v := by
  induction levels generalizing more v with
  | zero => exact resolveFrom_plain h more
  | succ levels ih =>
    obtain ⟨more, rfl⟩ := Nat.exists_eq_add_one_of_ne_zero (Nat.ne_zero_of_lt hle)
    have hle : levels ≤ more := by omega
    cases v with
    | string s =>
      rw [uncut] at h
      simp only [resolveFrom]
      cases ht : f.target? s with
      | none => rfl
      | some w =>
        simp only [ht] at h
        exact ih hle h
    | array items =>
      simp only [uncut, List.all_eq_true] at h
      simp only [resolveFrom]
      rw [List.map_congr_left fun v hv => ih hle (h v hv)]
    | object ms =>
      simp only [uncut, List.all_eq_true] at h
      simp only [resolveFrom]
      rw [List.map_congr_left fun e he => by rw [ih hle (h e he)]]
    | _ => rfl

lemma settled_of_uncut {v : Value} (h : f.uncut f.depth v) : f.Settled v :=
  fun _ hle => resolveFrom_uncut hle h

/-! ### Paths through references -/

/-- What is inside a settled value is settled, and resolved along with it. -/
lemma settled_array {items : List Value} (h : f.Settled (.array items)) :
    f.resolve (.array items) = .array (items.map f.resolve) ∧ ∀ v ∈ items, f.Settled v := by
  have heq : f.resolve (.array items) = .array (items.map f.resolve) :=
    (h (f.depth + 1) (Nat.le_succ _)).symm
  refine ⟨heq, fun v hv levels hle => ?_⟩
  have hmore := h (levels + 1) (Nat.le_succ_of_le hle)
  rw [heq, resolveFrom, Value.array.injEq] at hmore
  exact List.map_inj_left.1 hmore v hv

lemma settled_object {ms : List (String × Value)} (h : f.Settled (.object ms)) :
    f.resolve (.object ms) = .object (ms.map fun e => (e.1, f.resolve e.2)) ∧
      ∀ e ∈ ms, f.Settled e.2 := by
  have heq : f.resolve (.object ms) = .object (ms.map fun e => (e.1, f.resolve e.2)) :=
    (h (f.depth + 1) (Nat.le_succ _)).symm
  refine ⟨heq, fun e he levels hle => ?_⟩
  have hmore := h (levels + 1) (Nat.le_succ_of_le hle)
  rw [heq, resolveFrom, Value.object.injEq] at hmore
  exact (Prod.mk.inj (List.map_inj_left.1 hmore e he)).2

lemma resolve_text {s : String} (href : f.refers (.string s) = false) :
    f.resolve (.string s) = .string s :=
  resolveFrom_plain (by simpa [refers, plain] using href) f.depth

lemma isNull_resolve {v : Value} (h : v.isNull) : (f.resolve v).isNull := by
  cases v with
  | null => rw [resolve, resolveFrom_plain rfl, Value.isNull]
  | _ => cases h

lemma item?_resolve {v : Value} (h : f.Settled v) (href : f.refers v = false) (i : Nat) :
    (f.resolve v).item? i = (v.item? i).map f.resolve := by
  cases v with
  | array items => rw [(settled_array h).1]; exact List.getElem?_map
  | object ms => rw [(settled_object h).1]; rfl
  | string s => rw [resolve_text href]; rfl
  | _ => rw [resolve, resolveFrom_plain rfl]; rfl

lemma member?_resolve {v : Value} (h : f.Settled v) (href : f.refers v = false) (key : String) :
    (f.resolve v).member? key = (v.member? key).map f.resolve := by
  cases v with
  | array items => rw [(settled_array h).1]; rfl
  | object ms => rw [(settled_object h).1]; exact Keyed.get?_map f.resolve ms key
  | string s => rw [resolve_text href]; rfl
  | _ => rw [resolve, resolveFrom_plain rfl]; rfl

/-- A step into a resolved value leads to what the step into the value leads to, resolved. -/
lemma step?_resolve {v : Value} (h : f.Settled v) (href : f.refers v = false) (s : Step) :
    (f.resolve v).step? s = (v.step? s).map f.resolve := by
  have hitem (i : Option Nat) :
      i.bind (f.resolve v).item? = (i.bind v.item?).map f.resolve := by
    cases i with
    | none => rfl
    | some i => exact item?_resolve h href i
  cases s with
  | item i => exact hitem i
  | name key =>
    simp only [Value.step?, member?_resolve h href, hitem]
    cases v.member? (.ofList key) <;> rfl

lemma settled_step {v w : Value} (h : f.Settled v) {s : Step} (hstep : v.step? s = some w) :
    f.Settled w := by
  have hitem {i : Nat} (hi : v.item? i = some w) : f.Settled w := by
    cases v with
    | array items => exact (settled_array h).2 w (List.mem_of_getElem? hi)
    | _ => cases hi
  have hmember {key : String} (hkey : v.member? key = some w) : f.Settled w := by
    cases v with
    | object ms => exact (settled_object h).2 (key, w) (Keyed.mem_of_get? hkey)
    | _ => cases hkey
  cases s with
  | item i =>
    obtain ⟨i, -, hi⟩ := Option.bind_eq_some_iff.1 hstep
    exact hitem hi
  | name key =>
    rcases (Option.orElse_eq_some _ _ _).1 hstep with hkey | ⟨-, hi⟩
    · exact hmember hkey
    · obtain ⟨i, -, hi⟩ := Option.bind_eq_some_iff.1 hi
      exact hitem hi

/-- The steps have to pass through a reference: one stands before their end. -/
def crosses (f : Flight) : Value → List Step → Bool
  | _, [] => false
  | v, s :: steps => f.refers v || (v.step? s).any fun w => f.crosses w steps

lemma step?_refers {v : Value} (h : f.refers v) (s : Step) : v.step? s = none := by
  cases v with
  | string t =>
    have hitem (i : Option Nat) : i.bind (Value.string t).item? = none := by cases i <;> rfl
    cases s with
    | item i => exact hitem i
    | name key => exact hitem (Text.index? key)
  | _ => cases h

/-- What stands behind a reference is not found. -/
lemma walk_crosses {v : Value} {steps : List Step} (h : f.crosses v steps) :
    steps.foldlM Value.step? v = none := by
  induction steps generalizing v with
  | nil => cases h
  | cons s steps ih =>
    rw [List.foldlM_cons]
    rcases Bool.or_eq_true_iff.1 h with h | h
    · rw [step?_refers h]
      rfl
    · obtain ⟨w, hstep, hw⟩ := (Option.any_eq_true _ _).1 h
      rw [hstep]
      exact ih hw

/-- A path that passes through no reference leads to the same in a value and in the resolved value,
where it is resolved. -/
lemma walk_resolve {v : Value} {steps : List Step} (h : f.Settled v)
    (hcross : f.crosses v steps = false) :
    steps.foldlM Value.step? (f.resolve v) = (steps.foldlM Value.step? v).map f.resolve := by
  induction steps generalizing v with
  | nil => rfl
  | cons s steps ih =>
    obtain ⟨href, hrest⟩ := Bool.or_eq_false_iff.1 hcross
    rw [List.foldlM_cons, List.foldlM_cons, step?_resolve h href]
    cases hstep : v.step? s with
    | none => rfl
    | some w =>
      rw [hstep] at hrest
      exact ih (settled_step h hstep) hrest

lemma at?_key {key : String} (hkey : IsKey key) {ms : Members} {w : Value}
    (h : Keyed.get? ms key = some w) (path : String) :
    (Value.object ms).at? (key ++ "." ++ path) = w.at? path := by
  have hstep : (Value.object ms).step? (.name key.toList) = some w := by
    simp only [Value.step?, Value.member?, String.ofList_toList, h]
    rfl
  rw [Value.at?, pathSteps_key hkey, List.foldlM_cons, hstep]
  rfl

end

/-- **Search by key**: where no resolved value has anything at the path that starts with a key, the
search finds what the resolved values have under the key, as far as the rest of the path passes
through no reference; it finds nothing where the path would have to. -/
theorem search?_key (text : List Char) (depth : Nat) (key path : String) (w : Value) :
    let f : Flight := { ofPayload text with depth := depth }
    f.raw? key = some w → f.uncut f.depth w →
    (∀ e ∈ f.chunks, present? (f.resolve e.2) (key ++ "." ++ path) = none) →
      (Value.object f.resolved).at? (key ++ "." ++ path) = (f.resolve w).at? path ∧
      (f.crosses w (pathSteps path.toList) = true → f.search? (key ++ "." ++ path) = none) ∧
      (f.crosses w (pathSteps path.toList) = false →
        (∀ v, w.at? path = some v → (f.resolve v).isNull → v.isNull) →
        f.search? (key ++ "." ++ path) = present? (f.resolve w) path) := by
  intro f hraw huncut hnone
  obtain ⟨hnodup, hkeys⟩ := keys_ofPayload text
  have hkey : IsKey key := hkeys key (List.mem_map_of_mem (Keyed.mem_of_get? hraw))
  have hresolved : Keyed.get? f.resolved key = some (f.resolve w) := by
    have hraw : Keyed.get? f.chunks key = some w := hraw
    have hmap : ((f.chunks.map fun e => (e.1, f.resolve e.2)).map (·.1)).Nodup := by
      rw [List.map_map]
      exact hnodup
    rw [resolved, Keyed.get?_ofList hmap, Keyed.get?_map, hraw]
    rfl
  have hchunks : Keyed.get? (Keyed.ofList f.chunks) key = some w := by
    rw [Keyed.get?_ofList hnodup]
    exact hraw
  have hsearch : f.search? (key ++ "." ++ path) = (present? w path).map f.resolve := by
    rw [search?, List.findSome?_eq_none_iff.2 hnone, Option.none_or, present?, present?,
      at?_key hkey hchunks]
  refine ⟨at?_key hkey hresolved path, fun hcross => ?_, fun hcross hend => ?_⟩
  · rw [hsearch, present?, Value.at?, walk_crosses hcross]
    rfl
  · have hwalk := walk_resolve (settled_of_uncut huncut) hcross
    rw [hsearch, present?, present?, Value.at?, Value.at?, hwalk]
    rw [Value.at?] at hend
    cases hat : (pathSteps path.toList).foldlM Value.step? w with
    | none => rfl
    | some v =>
      have hnull : (f.resolve v).isNull = v.isNull :=
        Bool.eq_iff_iff.2 ⟨hend v hat, isNull_resolve⟩
      simp only [Option.map_some, Option.filter_some, hnull]
      split <;> rfl

/-- Two chunks, the second of which is referred to in the first. -/
def referring (second : String) : List Char :=
  ("1:\x7b\"a\":\"$2\"\x7d\n2:" ++ second).toList

theorem search?_key_reference :
    let f : Flight := { ofPayload (referring "\x7b\"d\":5\x7d") with depth := 10 }
    ∃ w, f.raw? "1" = some w ∧ f.uncut f.depth w ∧
      (∀ e ∈ f.chunks, present? (f.resolve e.2) ("1" ++ "." ++ "a") = none) ∧
      (∀ e ∈ f.chunks, present? (f.resolve e.2) ("1" ++ "." ++ "a.d") = none) ∧
      f.crosses w (pathSteps "a".toList) = false ∧
      (∀ v, w.at? "a" = some v → (f.resolve v).isNull → v.isNull) ∧
      f.crosses w (pathSteps "a.d".toList) = true ∧
      f.search? ("1" ++ "." ++ "a") = present? (f.resolve w) "a" ∧
      f.search? ("1" ++ "." ++ "a.d") = none := by
  intro f
  have hsome : (f.raw? "1").isSome := by decide +kernel
  have hnone {p : String}
      (h : f.chunks.all fun e => (present? (f.resolve e.2) p).isNone) :
      ∀ e ∈ f.chunks, present? (f.resolve e.2) p = none := by simpa using h
  have hall {p : Value → Bool} (h : (f.raw? "1").all p) {w : Value} (hw : f.raw? "1" = some w) :
      p w := by
    rw [hw] at h
    exact h
  obtain ⟨w, hw⟩ := Option.isSome_iff_exists.1 hsome
  have huncut : f.uncut f.depth w := hall (p := f.uncut f.depth) (by decide +kernel) hw
  have ha := hnone (p := "1" ++ "." ++ "a") (by decide +kernel)
  have hd := hnone (p := "1" ++ "." ++ "a.d") (by decide +kernel)
  have hpast : f.crosses w (pathSteps "a.d".toList) :=
    hall (p := fun w => f.crosses w (pathSteps "a.d".toList)) (by decide +kernel) hw
  have hcross : (!f.crosses w (pathSteps "a".toList)) = true :=
    hall (p := fun w => !f.crosses w (pathSteps "a".toList)) (by decide +kernel) hw
  have hend : (w.at? "a").all fun v => !(f.resolve v).isNull || v.isNull :=
    hall (p := fun w => (w.at? "a").all fun v => !(f.resolve v).isNull || v.isNull)
      (by decide +kernel) hw
  have hend (v : Value) (hv : w.at? "a" = some v) (hnull : (f.resolve v).isNull) : v.isNull := by
    rw [hv] at hend
    simpa [hnull] using hend
  rw [Bool.not_eq_true'] at hcross
  exact ⟨w, hw, huncut, ha, hd, hcross, hend, hpast,
    (search?_key (referring "\x7b\"d\":5\x7d") 10 "1" "a" w hw huncut ha).2.2 hcross hend,
    (search?_key (referring "\x7b\"d\":5\x7d") 10 "1" "a.d" w hw huncut hd).2.1 hpast⟩

/-- What the resolved values have behind a reference is not found, and a null behind a reference
is. -/
theorem search?_misses :
    (let f := ofPayload (referring "\x7b\"d\":5\x7d");
      (f.chunks.all fun e => f.uncut f.depth e.2 && (present? (f.resolve e.2) "1.a.d").isNone) ∧
      (present? (.object f.resolved) "1.a.d").isSome ∧ (f.search? "1.a.d").isNone) ∧
    (let f := ofPayload (referring "null");
      (f.chunks.all fun e => f.uncut f.depth e.2 && (present? (f.resolve e.2) "1.a").isNone) ∧
      (present? (.object f.resolved) "1.a").isNone ∧ (f.search? "1.a").isSome) := by
  decide +kernel

end Estate.Flight
