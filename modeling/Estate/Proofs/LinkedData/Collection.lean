import Mathlib
import Estate.LinkedData
import Estate.Proofs.Json.Meaning

/-!
The objects that the linked data of a page consists of. They are the objects with a type that a
block leads to through the items of lists and through graphs that are lists; each is collected once
and without its graph, in the order of the page.

A place in a value is the way to it, and a list of objects is compared with the list of their places
(`Lists`). Lists of the parts of a value are put together to the list of the value.
-/

namespace Estate.LinkedData

open Json

/-! ### Places -/

/-- A move to an item of a list, or to the list that is the graph of an object. -/
inductive Hop where
  | item (i : Nat)
  | graph

/-- What a way leads to. A graph that is no list is not entered. -/
inductive Reaches : Value → List Hop → Value → Prop where
  | here (v : Value) : Reaches v [] v
  | item {items : List Value} {i : Nat} {v w : Value} {way : List Hop} (hv : items[i]? = some v)
    (h : Reaches v way w) : Reaches (.array items) (.item i :: way) w
  | graph {ms : Members} {items : List Value} {w : Value} {way : List Hop}
    (hgraph : Keyed.get? ms "@graph" = some (.array items)) (h : Reaches (.array items) way w) :
    Reaches (.object ms) (.graph :: way) w

/-- The order of items, with an object behind what is in its graph. -/
inductive Before : List Hop → List Hop → Prop where
  | inside (hop : Hop) (way : List Hop) : Before (hop :: way) []
  | earlier {i j : Nat} (h : i < j) (way other : List Hop) :
    Before (.item i :: way) (.item j :: other)
  | further (hop : Hop) {way other : List Hop} (h : Before way other) :
    Before (hop :: way) (hop :: other)

/-- An object stands in a page where a way leads to it from the value of a block. All blocks are
counted, also those that cannot be read, but only in one that can be read does an object stand. -/
def StandsIn (nodes : List Html.Node) (place : Nat × List Hop) (ms : Members) : Prop :=
  ∃ block v, (selector.select nodes)[place.1]? = some block ∧
    Value.ofText? (Text.trimmed block.innerMarkup) = some v ∧ Reaches v place.2 (.object ms)

lemma Before.irrefl (way : List Hop) : ¬ Before way way := by
  intro h
  induction way with
  | nil => cases h
  | cons hop way ih =>
    cases h with
    | earlier h => exact Nat.lt_irrefl _ h
    | further _ h => exact ih h

lemma lex_irrefl (place : Nat × List Hop) : ¬ Prod.Lex (· < ·) Before place place := by
  rintro (⟨_, _, h⟩ | ⟨_, h⟩)
  · exact Nat.lt_irrefl _ h
  · exact Before.irrefl _ h

lemma before_of_lex {p q : Nat × List Hop} (h : Prod.Lex (· < ·) Before p q) :
    Before (.item p.1 :: p.2) (.item q.1 :: q.2) := by
  rcases h with ⟨way, other, hlt⟩ | ⟨i, hfurther⟩
  · exact .earlier hlt way other
  · exact .further (.item i) hfurther

lemma reaches_array {items : List Value} {way : List Hop} {ms : Members} :
    Reaches (.array items) way (.object ms) ↔
      ∃ p : Nat × List Hop, .item p.1 :: p.2 = way ∧
        ∃ v, items[p.1]? = some v ∧ Reaches v p.2 (.object ms) := by
  constructor
  · rintro (_ | ⟨hv, h⟩)
    exact ⟨(_, _), rfl, _, hv, h⟩
  · rintro ⟨p, rfl, v, hv, h⟩
    exact .item hv h

lemma reaches_object {own ms : Members} {way : List Hop} :
    Reaches (.object own) way (.object ms) ↔
      (∃ rest, .graph :: rest = way ∧ ∃ items, Keyed.get? own "@graph" = some (.array items) ∧
        Reaches (.array items) rest (.object ms)) ∨ way = [] ∧ ms = own := by
  constructor
  · rintro (_ | _ | ⟨hgraph, h⟩)
    · exact .inr ⟨rfl, rfl⟩
    · exact .inl ⟨_, rfl, _, hgraph, h⟩
  · rintro (⟨rest, rfl, items, hgraph, h⟩ | ⟨rfl, rfl⟩)
    · exact .graph hgraph h
    · exact .here _

/-! ### Lists put together -/

section

variable {α P Q : Type}

/-- The objects are those with a type, each without its graph, in the order of their places. -/
structure Lists (before : P → P → Prop) (stands : P → Members → Prop) (places : List P)
    (objects : List Value) : Prop where
  ordered : places.Pairwise before
  complete : ∀ p, p ∈ places ↔ ∃ ms, stands p ms ∧ hasType ms
  taken : List.Forall₂ (fun p o => ∃ ms, stands p ms ∧ o = .object (Keyed.erase ms "@graph"))
    places objects

variable {before : P → P → Prop} {stands others : P → Members → Prop} {ps qs : List P}
  {os more : List Value}

namespace Lists

lemma empty (h : ∀ p ms, ¬ stands p ms) : Lists before stands [] [] where
  ordered := .nil
  complete p := by simp [h p]
  taken := .nil

lemma congr (h : Lists before stands ps os) (hsame : ∀ p ms, stands p ms ↔ others p ms) :
    Lists before others ps os := by
  have heq : stands = others := funext fun p => funext fun ms => propext (hsame p ms)
  exact heq ▸ h

lemma append (h : Lists before stands ps os) (hmore : Lists before others qs more)
    (hbefore : ∀ p q ms ns, stands p ms → others q ns → before p q) :
    Lists before (fun p ms => stands p ms ∨ others p ms) (ps ++ qs) (os ++ more) where
  ordered := by
    refine List.pairwise_append.2 ⟨h.ordered, hmore.ordered, fun p hp q hq => ?_⟩
    obtain ⟨ms, hms, -⟩ := (h.complete p).1 hp
    obtain ⟨ns, hns, -⟩ := (hmore.complete q).1 hq
    exact hbefore p q ms ns hms hns
  complete p := by
    rw [List.mem_append, h.complete, hmore.complete, ← exists_or]
    simp only [or_and_right]
  taken := by
    refine List.rel_append ?_ ?_
    · exact h.taken.imp fun p o ⟨ms, hms, ho⟩ => ⟨ms, .inl hms, ho⟩
    · exact hmore.taken.imp fun p o ⟨ms, hms, ho⟩ => ⟨ms, .inr hms, ho⟩

/-- Objects listed by their places in a part are listed by their places in the whole. -/
lemma within {after : Q → Q → Prop} (h : Lists before stands ps os) (f : P → Q)
    (hbefore : ∀ p q, before p q → after (f p) (f q)) :
    Lists after (fun q ms => ∃ p, f p = q ∧ stands p ms) (ps.map f) os where
  ordered := List.pairwise_map.2 (h.ordered.imp fun {p q} => hbefore p q)
  complete q := by
    simp only [List.mem_map, h.complete]
    constructor
    · rintro ⟨p, ⟨ms, hms, htype⟩, rfl⟩
      exact ⟨ms, ⟨p, rfl, hms⟩, htype⟩
    · rintro ⟨ms, ⟨p, rfl, hms⟩, htype⟩
      exact ⟨p, ⟨ms, hms, htype⟩, rfl⟩
  taken := by
    refine List.forall₂_map_left_iff.2 (h.taken.imp fun p o ⟨ms, hms, ho⟩ => ?_)
    exact ⟨ms, ⟨p, rfl, hms⟩, ho⟩

end Lists

lemma lex_succ {p q : Nat × P} (h : Prod.Lex (· < ·) before p q) :
    Prod.Lex (· < ·) before (Prod.map Nat.succ id p) (Prod.map Nat.succ id q) := by
  rcases h with ⟨x, y, hlt⟩ | ⟨x, hxy⟩
  · exact .left x y (Nat.succ_lt_succ hlt)
  · exact .right _ hxy

/-- What is listed of each thing in a row is listed of the row. -/
lemma exists_row {found : α → List Value} {stands : α → P → Members → Prop} {row : List α}
    (h : ∀ a ∈ row, ∃ places, Lists before (stands a) places (found a)) :
    ∃ places, Lists (Prod.Lex (· < ·) before)
      (fun (p : Nat × P) ms => ∃ a, row[p.1]? = some a ∧ stands a p.2 ms) places
      (row.flatMap found) := by
  induction row with
  | nil => exact ⟨[], .empty fun p ms => by simp⟩
  | cons a row ih =>
    obtain ⟨first, hfirst⟩ := h a List.mem_cons_self
    obtain ⟨later, hlater⟩ := ih fun b hb => h b (List.mem_cons_of_mem a hb)
    have hhead := hfirst.within (Prod.mk 0) fun p q hpq =>
      (Prod.Lex.right 0 hpq : Prod.Lex (· < ·) before (0, p) (0, q))
    have htail := hlater.within (Prod.map Nat.succ id) fun _ _ => lex_succ
    refine ⟨_, (hhead.append htail ?_).congr ?_⟩
    · rintro _ _ ms ns ⟨p, rfl, -⟩ ⟨q, rfl, -⟩
      exact .left p _ (Nat.succ_pos q.1)
    · rintro ⟨_ | i, p⟩ ms
      · simp
      · simp

end

/-! ### The objects in a value -/

lemma objectsAmong_eq_flatMap (items : List Value) :
    objectsAmong items = items.flatMap objectsIn := by
  induction items with
  | nil => rfl
  | cons v rest ih => rw [objectsAmong, ih, List.flatMap_cons]

lemma objectsInGraph_cons_of_ne {key : String} {v : Value} {rest : Members}
    (h : ∀ items, (key, v) ≠ ("@graph", .array items)) :
    objectsInGraph ((key, v) :: rest) = objectsInGraph rest := by
  cases v with
  | array items =>
    have hkey : (key == "@graph") = false :=
      beq_eq_false_iff_ne.2 fun heq => h items (by rw [heq])
    rw [objectsInGraph, hkey, if_neg Bool.false_ne_true]
  | _ => rw [objectsInGraph]; simp

/-- A list that is given for a graph is gone through. -/
lemma objectsInGraph_cases (ms : Members) :
    (∃ items, ("@graph", .array items) ∈ ms ∧ objectsInGraph ms = objectsIn (.array items)) ∨
      (∀ items, ("@graph", .array items) ∉ ms) ∧ objectsInGraph ms = [] := by
  induction ms with
  | nil => exact .inr ⟨fun items => List.not_mem_nil, rfl⟩
  | cons m rest ih =>
    by_cases hm : ∃ items, m = ("@graph", .array items)
    · obtain ⟨items, rfl⟩ := hm
      refine .inl ⟨items, List.mem_cons_self, ?_⟩
      rw [objectsInGraph, if_pos (beq_self_eq_true _), objectsIn]
    · rw [not_exists] at hm
      rw [objectsInGraph_cons_of_ne hm]
      refine ih.imp ?_ ?_
      · rintro ⟨items, hitems, hfound⟩
        exact ⟨items, List.mem_cons_of_mem m hitems, hfound⟩
      · rintro ⟨hnone, hfound⟩
        refine ⟨fun items hitems => ?_, hfound⟩
        exact (List.mem_cons.1 hitems).elim (fun heq => hm items heq.symm) (hnone items)

/-- The objects in the graph of an object, if it is a list. -/
lemma exists_in_graph {own : Members} (hkeys : Keyed.Ascending own)
    (h : ∀ items, ("@graph", .array items) ∈ own → ∃ places,
      Lists Before (fun way ms => Reaches (.array items) way (.object ms)) places
        (objectsIn (.array items))) :
    ∃ places, Lists Before (fun way ms => ∃ rest, .graph :: rest = way ∧
      ∃ items, Keyed.get? own "@graph" = some (.array items) ∧
        Reaches (.array items) rest (.object ms)) places (objectsInGraph own) := by
  rcases objectsInGraph_cases own with ⟨items, hitems, hfound⟩ | ⟨hnone, hfound⟩
  · -- No key stands twice, so this is the graph that is looked up.
    obtain ⟨places, hplaces⟩ := h items hitems
    have hget : Keyed.get? own "@graph" = some (.array items) :=
      Keyed.get?_of_mem hkeys.nodup hitems
    rw [hfound]
    refine ⟨_, (hplaces.within (.graph :: ·) fun _ _ => .further .graph).congr fun way ms => ?_⟩
    simp [hget]
  · rw [hfound]
    refine ⟨[], .empty ?_⟩
    rintro way ms ⟨rest, -, items, hget, -⟩
    exact hnone items (Keyed.mem_of_get? hget)

lemma hasType_erase_graph (ms : Members) : hasType (Keyed.erase ms "@graph") = hasType ms := by
  rw [hasType, Keyed.contains, Keyed.get?_erase, if_neg (by decide), hasType, Keyed.contains]

/-- The object itself, if it has a type. -/
lemma exists_own (own : Members) :
    ∃ places, Lists Before (fun way ms => way = [] ∧ ms = own) places
      (if hasType (Keyed.erase own "@graph") then [.object (Keyed.erase own "@graph")]
        else []) := by
  rw [hasType_erase_graph]
  by_cases htype : hasType own
  · rw [if_pos htype]
    refine ⟨[[]], .cons (fun _ h => absurd h List.not_mem_nil) .nil, fun way => ?_, ?_⟩
    · simp [htype]
    · exact .cons ⟨own, ⟨rfl, rfl⟩, rfl⟩ .nil
  · rw [if_neg htype]
    refine ⟨[], .nil, fun way => ?_, .nil⟩
    simp [htype]

/-- The objects that are collected from a value are those that it leads to, place by place. -/
theorem exists_places (v : Value) (hv : v.isSorted) :
    ∃ places, Lists Before (fun way ms => Reaches v way (.object ms)) places (objectsIn v) := by
  induction v using Value.induction with
  | array items ih =>
    rw [Value.isSorted, itemsSorted_iff] at hv
    obtain ⟨places, h⟩ := exists_row fun w hw => ih w hw (hv w hw)
    rw [objectsIn, objectsAmong_eq_flatMap]
    exact ⟨_, (h.within (fun p => .item p.1 :: p.2) fun _ _ => before_of_lex).congr
      fun way ms => reaches_array.symm⟩
  | object own ih =>
    rw [Value.isSorted, membersSorted_iff] at hv
    obtain ⟨hkeys, hsorted⟩ := hv
    obtain ⟨inner, hinner⟩ := exists_in_graph hkeys fun items hitems =>
      ih _ hitems (hsorted _ hitems)
    obtain ⟨outer, houter⟩ := exists_own own
    rw [objectsIn]
    refine ⟨_, (hinner.append houter ?_).congr fun way ms => reaches_object.symm⟩
    rintro _ _ ms ns ⟨rest, rfl, -⟩ ⟨rfl, -⟩
    exact .inside .graph rest
  | _ =>
    refine ⟨[], .empty fun way ms h => ?_⟩
    cases h

/-! ### The objects of a page -/

/-- A block that cannot be read holds nothing. -/
lemma exists_places_of_text (text : String) :
    ∃ places, Lists Before (fun way ms => ∃ v, Value.ofText? text = some v ∧
      Reaches v way (.object ms)) places ((Value.ofText? text).toList.flatMap objectsIn) := by
  cases hv : Value.ofText? text with
  | none => exact ⟨[], .empty fun way ms => by simp⟩
  | some v =>
    obtain ⟨places, h⟩ := exists_places v (Value.isSorted_of_ofText? hv)
    rw [Option.toList_some, List.flatMap_singleton]
    exact ⟨places, h.congr fun way ms => by simp⟩

lemma ofPage_eq_flatMap (nodes : List Html.Node) :
    ofPage nodes = (selector.select nodes).flatMap fun block =>
      (Value.ofText? (Text.trimmed block.innerMarkup)).toList.flatMap objectsIn := by
  rw [ofPage, objectsAmong_eq_flatMap, blocks, List.filterMap_eq_flatMap_toList, List.flatMap_assoc]

/-- Elements are selected in the order in which they are opened. -/
lemma select_pairwise (selector : Selector) (nodes : List Html.Node) :
    (selector.select nodes).Pairwise fun s t => s.serial ≤ t.serial := by
  have hsorted : (selector.select nodes).Pairwise fun s t => decide (s.serial ≤ t.serial) := by
    refine List.pairwise_mergeSort (fun r s t hrs hst => ?_) (fun s t => ?_) _
    · rw [decide_eq_true_eq] at hrs hst ⊢
      exact Nat.le_trans hrs hst
    · simpa using Nat.le_total s.serial t.serial
  exact hsorted.imp of_decide_eq_true

/-- **Collection loses and repeats nothing**: the collected objects are, one for one, the objects
with a type that stand in the blocks of the page, without their graphs. They come in the order of
the blocks, which is that of the page, and in a block in the order of items, each behind what is in
its graph. -/
theorem collected_once (nodes : List Html.Node) :
    (selector.select nodes).Pairwise (fun s t => s.serial ≤ t.serial) ∧
      ∃ places : List (Nat × List Hop), places.Nodup ∧
        Lists (Prod.Lex (· < ·) Before) (StandsIn nodes) places (ofPage nodes) := by
  refine ⟨select_pairwise selector nodes, ?_⟩
  obtain ⟨places, h⟩ := exists_row fun block (_ : block ∈ selector.select nodes) =>
    exists_places_of_text (Text.trimmed block.innerMarkup)
  have hnodup : places.Nodup := by
    refine h.ordered.imp ?_
    rintro p q hpq rfl
    exact lex_irrefl p hpq
  rw [ofPage_eq_flatMap]
  exact ⟨places, hnodup, h.congr fun place ms => by simp [StandsIn]⟩

/-- An object that is a graph by itself, and not in a list, is lost. -/
theorem single_graph_left_out :
    Value.ofText? "\x7b\"@graph\":\x7b\"@type\":\"A\",\"name\":\"x\"\x7d\x7d" =
        some (.object [("@graph", .object [("@type", .string "A"), ("name", .string "x")])]) ∧
      hasType [("@type", .string "A"), ("name", .string "x")] ∧
      ofPage [.element 1 ⟨.html, "script", [⟨none, "type", "application/ld+json"⟩]⟩
        [.text "\x7b\"@graph\":\x7b\"@type\":\"A\",\"name\":\"x\"\x7d\x7d"]] = [] := by
  refine ⟨?_, rfl, ?_⟩
  · cbv
  · cbv

end Estate.LinkedData
