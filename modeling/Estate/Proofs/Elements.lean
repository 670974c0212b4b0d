import Estate.Selection
import Estate.Proofs.Failure

/-!
Elements read all together and each by its number.

All elements of a selection give what each of them gives, in their order, as long as each of them
can be read: an attribute in which a path is followed has to hold JSON. One that does not hides the
values of all the others.
-/

namespace Estate.Selection

open Html Failure

/-- A path is to be followed in an attribute of the element that does not hold JSON. -/
def Unreadable (accessor : Option String) (s : Spot) (e : LookupError) : Prop :=
  ∃ name path, Reading.ofAccessor accessor = .attributePath name path ∧
    ∃ raw, s.attribute? name = some raw ∧ Json.Value.ofText? raw = none ∧ e = .attributeJson name

lemma value?_eq_error {accessor : Option String} {s : Spot} {e : LookupError} :
    (Reading.ofAccessor accessor).value? s = .error e ↔ Unreadable accessor s e := by
  constructor
  · intro h
    unfold Reading.value? at h
    split at h
    · cases h
    · cases h
    · cases h
    · next name path hreading =>
      split at h
      · cases h
      · next raw hraw =>
        split at h
        · cases h
        · next hjson =>
          cases h
          exact ⟨name, path, hreading, raw, hraw, hjson, rfl⟩
  · rintro ⟨name, path, hreading, raw, hraw, hjson, rfl⟩
    simp only [hreading, Reading.value?, hraw, hjson]

section

variable {selector : String} {sel : Selector} {nodes : List Node} {accessor : Option String}
  {firstOnly : Bool} {k : Nat}

/-- An element by its number gives what is read of it. -/
lemma values_nth (h : Selector.ofText? selector = some sel) {s : Spot}
    (hs : (sel.select nodes)[k]? = some s) :
    values nodes selector accessor (some k) firstOnly =
      ((Reading.ofAccessor accessor).value? s).map Option.toList := by
  unfold values pick
  rw [h]
  dsimp only
  rw [hs, Option.toList_some, List.mapM_cons, List.mapM_nil]
  cases (Reading.ofAccessor accessor).value? s with
  | error e => rfl
  | ok found => cases found <;> rfl

/-- There is no element past the last one. -/
lemma values_beyond (h : Selector.ofText? selector = some sel)
    (hk : (sel.select nodes).length ≤ k) :
    values nodes selector accessor (some k) firstOnly = .ok [] := by
  unfold values pick
  rw [h]
  dsimp only
  rw [List.getElem?_eq_none hk]
  rfl

lemma values_all (h : Selector.ofText? selector = some sel) :
    values nodes selector accessor none false =
      ((sel.select nodes).mapM (Reading.ofAccessor accessor).value?).map
        fun found => (found.map Option.toList).flatten := by
  have hjoin (found : List (Option String)) :
      found.filterMap id = (found.map Option.toList).flatten := by
    rw [← List.flatMap_def, List.filterMap_eq_flatMap_toList]
    rfl
  unfold values pick
  rw [h]
  simp only [Bool.false_eq_true, if_false, hjoin]

lemma values_nth_eq_error (h : Selector.ofText? selector = some sel) {e : LookupError} :
    values nodes selector accessor (some k) firstOnly = .error e ↔
      ∃ s ∈ (sel.select nodes)[k]?, Unreadable accessor s e := by
  simp only [← value?_eq_error]
  cases hs : (sel.select nodes)[k]? with
  | none => simp [values_beyond h (List.getElem?_eq_none_iff.1 hs)]
  | some s => simp [values_nth h hs, map_error]

lemma exists_values_nth (h : Selector.ofText? selector = some sel) :
    (∃ part, values nodes selector accessor (some k) firstOnly = .ok part) ↔
      ∀ s ∈ (sel.select nodes)[k]?, ∃ found,
        (Reading.ofAccessor accessor).value? s = .ok found := by
  cases hs : (sel.select nodes)[k]? with
  | none => simp [values_beyond h (List.getElem?_eq_none_iff.1 hs)]
  | some s => simp [values_nth h hs, map_ok]

/-- The first element that cannot be read decides. -/
lemma values_all_eq_error (firstOnly : Bool) (h : Selector.ofText? selector = some sel)
    {e : LookupError} :
    values nodes selector accessor none false = .error e ↔
      ∃ k, values nodes selector accessor (some k) firstOnly = .error e ∧
        ∀ j < k, ∃ part, values nodes selector accessor (some j) firstOnly = .ok part := by
  rw [values_all h, map_error, mapM_error]
  simp only [exists_values_nth h, values_nth_eq_error h, ← value?_eq_error]
  refine exists_congr fun k => ?_
  constructor
  · rintro ⟨s, hs, herror, hbefore⟩
    exact ⟨⟨s, hs, herror⟩, hbefore⟩
  · rintro ⟨⟨s, hs, herror⟩, hbefore⟩
    exact ⟨s, hs, herror, hbefore⟩

/-- What each of the elements gives, in a row. -/
def Gives (nodes : List Node) (selector : String) (accessor : Option String) (firstOnly : Bool)
    (parts : List (List String)) : Prop :=
  ∀ k part, parts[k]? = some part →
    values nodes selector accessor (some k) firstOnly = .ok part

lemma gives_of_values_all (firstOnly : Bool) (h : Selector.ofText? selector = some sel)
    {all : List String}
    (hall : values nodes selector accessor none false = .ok all) :
    ∃ parts, parts.length = (sel.select nodes).length ∧ parts.flatten = all ∧
      Gives nodes selector accessor firstOnly parts := by
  rw [values_all h, map_ok] at hall
  obtain ⟨found, hfound, rfl⟩ := hall
  obtain ⟨hlength, hget⟩ := List.forall₂_iff_get.1 (mapM_ok.1 hfound)
  refine ⟨found.map Option.toList, by rw [List.length_map, hlength], rfl, fun k part hpart => ?_⟩
  rw [List.getElem?_map, Option.map_eq_some_iff] at hpart
  obtain ⟨v, hv, rfl⟩ := hpart
  obtain ⟨hk, rfl⟩ := List.getElem?_eq_some_iff.1 hv
  have hk' : k < (sel.select nodes).length := hlength ▸ hk
  have hread := hget k hk' hk
  rw [List.get_eq_getElem, List.get_eq_getElem] at hread
  rw [values_nth h (List.getElem?_eq_getElem hk'), hread]
  rfl

lemma Gives.unique {parts others : List (List String)}
    (hparts : Gives nodes selector accessor firstOnly parts)
    (hothers : Gives nodes selector accessor firstOnly others)
    (hlength : parts.length = others.length) : parts = others := by
  refine List.ext_getElem hlength fun k hk hk' => ?_
  have hleft := hparts k _ (List.getElem?_eq_getElem hk)
  have hright := hothers k _ (List.getElem?_eq_getElem hk')
  exact Except.ok.inj (hleft.symm.trans hright)

/-- All elements give what each gives, one after the other. -/
lemma values_all_eq_ok (h : Selector.ofText? selector = some sel) {all : List String} :
    values nodes selector accessor none false = .ok all ↔
      ∃ parts, parts.length = (sel.select nodes).length ∧ parts.flatten = all ∧
        Gives nodes selector accessor firstOnly parts := by
  refine ⟨gives_of_values_all firstOnly h, ?_⟩
  rintro ⟨parts, hlength, rfl, hparts⟩
  cases hall : values nodes selector accessor none false with
  | error e =>
    obtain ⟨k, hk, -⟩ := (values_all_eq_error firstOnly h).1 hall
    obtain ⟨s, hs, -⟩ := (values_nth_eq_error h).1 hk
    obtain ⟨hlt, -⟩ := List.getElem?_eq_some_iff.1 hs
    exact nomatch hk.symm.trans (hparts k _ (List.getElem?_eq_getElem (hlength ▸ hlt)))
  | ok all =>
    obtain ⟨others, hsame, rfl, hothers⟩ := gives_of_values_all firstOnly h hall
    rw [hparts.unique hothers (hlength.trans hsame.symm)]

end

/-- **All elements and each by itself**: what is read of all elements is what is read of each, one
after the other, and fails as the first of them that fails. An element fails exactly if it cannot be
read, so that where all can be read every value of one of them is among the values of all. -/
theorem all_elements_and_each {selector : String} {sel : Selector}
    (h : Selector.ofText? selector = some sel) (nodes : List Node) (accessor : Option String)
    (firstOnly : Bool) :
    (∀ all, values nodes selector accessor none false = .ok all ↔
      ∃ parts, parts.length = (sel.select nodes).length ∧ parts.flatten = all ∧
        Gives nodes selector accessor firstOnly parts) ∧
    (∀ e, values nodes selector accessor none false = .error e ↔
      ∃ k, values nodes selector accessor (some k) firstOnly = .error e ∧
        ∀ j < k, ∃ part, values nodes selector accessor (some j) firstOnly = .ok part) ∧
    (∀ k e, values nodes selector accessor (some k) firstOnly = .error e ↔
      ∃ s ∈ (sel.select nodes)[k]?, Unreadable accessor s e) ∧
    ((∀ s ∈ sel.select nodes, ∀ e, ¬ Unreadable accessor s e) →
      ∀ k v, values nodes selector accessor (some k) firstOnly = .ok [v] →
        ∃ all, values nodes selector accessor none false = .ok all ∧ v ∈ all) := by
  refine ⟨fun all => values_all_eq_ok h, fun e => values_all_eq_error firstOnly h,
    fun k e => values_nth_eq_error h, fun hreadable k v hv => ?_⟩
  cases hall : values nodes selector accessor none false with
  | error e =>
    obtain ⟨j, hj, -⟩ := (values_all_eq_error firstOnly h).1 hall
    obtain ⟨s, hs, hbad⟩ := (values_nth_eq_error h).1 hj
    exact absurd hbad (hreadable s (List.mem_of_getElem? hs) e)
  | ok all =>
    refine ⟨all, rfl, ?_⟩
    obtain ⟨parts, hlength, rfl, hparts⟩ := gives_of_values_all firstOnly h hall
    by_cases hk : k < parts.length
    · have hpart := hparts k _ (List.getElem?_eq_getElem hk)
      have hvalue : [v] = parts[k] := Except.ok.inj (hv.symm.trans hpart)
      exact List.mem_flatten.2 ⟨parts[k], List.getElem_mem hk, hvalue ▸ List.mem_singleton_self v⟩
    · rw [values_beyond h (by omega)] at hv
      cases hv

/-- The card of a listing, with what is known of it in an attribute. -/
def card (i : Nat) (data : String) : Node :=
  .element i ⟨.html, "li", [⟨none, "data-card", data⟩]⟩ []

/-- Cards in a row. -/
def cards (data : List (Nat × String)) : List Node := data.map fun d => card d.1 d.2

lemma allFrom_cards (data : List (Nat × String)) (before : List Node) :
    Spot.allFrom none before (cards data) = Spot.rowFrom none before (cards data) := by
  induction data generalizing before with
  | nil => simp only [cards, List.map_nil, Spot.allFrom, Spot.rowFrom]
  | cons d data ih =>
    simp only [cards] at ih
    simp only [cards, List.map_cons, card, Spot.allFrom, Spot.rowFrom, List.nil_append]
    exact congrArg _ (ih _)

lemma fits_cards (data : List (Nat × String)) (before : List Node) :
    ∀ s ∈ Spot.rowFrom none before (cards data), Selector.fits ⟨[.single [.type "li"]]⟩ s := by
  induction data generalizing before with
  | nil => exact fun s hs => absurd hs List.not_mem_nil
  | cons d data ih =>
    refine List.forall_mem_cons.2 ⟨?_, ih _⟩
    simp only [Selector.fits, Selector.anyFits, Selector.Pattern.fits, Selector.allHold,
      Selector.Condition.holds]
    rfl

/-- Cards that are numbered in their order are selected as they stand. -/
lemma select_cards {data : List (Nat × String)}
    (h : (Spot.rowFrom none [] (cards data)).Pairwise fun s t => decide (s.serial ≤ t.serial)) :
    Selector.select ⟨[.single [.type "li"]]⟩ (cards data) = Spot.rowFrom none [] (cards data) := by
  rw [Selector.select, Spot.all, allFrom_cards, List.filter_eq_self.2 (fits_cards data []),
    List.mergeSort_of_pairwise h]

lemma selector_li : Selector.ofText? "li" = some ⟨[.single [.type "li"]]⟩ := rfl

/-- What the price on a card is read as. -/
lemma value?_card (i : Nat) (data : String) (before after : List Node) :
    (Reading.ofAccessor (some "data-card.price")).value? (.mk (card i data) before after none) =
      match Json.Value.ofText? data with
      | some v => .ok ((v.at? "price").bind Json.Value.plainText?)
      | none => .error (.attributeJson "data-card") := by
  have hreading : Reading.ofAccessor (some "data-card.price") =
      .attributePath "data-card" "price" := by decide +kernel
  rw [hreading]
  rfl

/-- Two cards with prices, and one without between them. -/
def pricedCards : List Node :=
  cards [(0, "\x7b\"price\": 7\x7d"), (1, "\x7b\"rooms\": 3\x7d"), (2, "\x7b\"price\": 9\x7d")]

theorem all_elements_and_each_cards :
    Selector.ofText? "li" = some ⟨[.single [.type "li"]]⟩ ∧
      Gives pricedCards "li" (some "data-card.price") true [["7"], [], ["9"]] ∧
      values pricedCards "li" (some "data-card.price") none false = .ok ["7", "9"] := by
  have hselect : Selector.select ⟨[.single [.type "li"]]⟩ pricedCards =
      Spot.rowFrom none [] pricedCards := select_cards (by decide)
  have hread {k : Nat} {i : Nat} {data : String} {before after : List Node} {part : List String}
      (hs : (Spot.rowFrom none [] pricedCards)[k]? = some (.mk (card i data) before after none))
      (hdata : (Json.Value.ofText? data).map (fun v =>
        ((v.at? "price").bind Json.Value.plainText?).toList) = some part) :
      values pricedCards "li" (some "data-card.price") (some k) true = .ok part := by
    obtain ⟨v, hv, rfl⟩ := Option.map_eq_some_iff.1 hdata
    rw [values_nth selector_li (hselect ▸ hs), value?_card, hv]
    rfl
  have hparts : Gives pricedCards "li" (some "data-card.price") true [["7"], [], ["9"]] := by
    rintro (_ | _ | _ | k) part hpart <;> cases hpart
    · exact hread rfl (by decide +kernel)
    · exact hread rfl (by decide +kernel)
    · exact hread rfl (by decide +kernel)
  have hall := (all_elements_and_each selector_li pricedCards (some "data-card.price") true).1
  exact ⟨selector_li, hparts, (hall _).2 ⟨_, by rw [hselect]; rfl, rfl, hparts⟩⟩

/-- One card that is cut off hides the price on the other. -/
theorem cut_off_hides :
    let nodes := cards [(0, "\x7b\"price\": "), (1, "\x7b\"price\": 9\x7d")]
    values nodes "li" (some "data-card.price") (some 1) false = .ok ["9"] ∧
      values nodes "li" (some "data-card.price") none false =
        .error (.attributeJson "data-card") := by
  intro nodes
  have hselect : Selector.select ⟨[.single [.type "li"]]⟩ nodes = Spot.rowFrom none [] nodes :=
    select_cards (by decide)
  have hcut : Json.Value.ofText? "\x7b\"price\": " = none :=
    Option.isNone_iff_eq_none.1 (by decide +kernel)
  have hwhole : (Json.Value.ofText? "\x7b\"price\": 9\x7d").map (fun v =>
      (v.at? "price").bind Json.Value.plainText?) = some (some "9") := by decide +kernel
  obtain ⟨v, hv, hprice⟩ := Option.map_eq_some_iff.1 hwhole
  have hfirst : (Selector.select ⟨[.single [.type "li"]]⟩ nodes)[0]? =
      some (.mk (card 0 "\x7b\"price\": ") [] [card 1 "\x7b\"price\": 9\x7d"] none) := by
    rw [hselect]
    rfl
  have hsecond : (Selector.select ⟨[.single [.type "li"]]⟩ nodes)[1]? =
      some (.mk (card 1 "\x7b\"price\": 9\x7d") [card 0 "\x7b\"price\": "] [] none) := by
    rw [hselect]
    rfl
  constructor
  · rw [values_nth selector_li hsecond, value?_card, hv]
    exact congrArg (fun found => Except.ok found.toList) hprice
  · refine (values_all_eq_error false selector_li).2
      ⟨0, ?_, fun j hj => absurd hj (Nat.not_lt_zero j)⟩
    rw [values_nth selector_li hfirst, value?_card, hcut]
    rfl

end Estate.Selection
