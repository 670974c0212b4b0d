import Mathlib.Data.List.Induction
import Estate.Proofs.LastWord
import Estate.Proofs.SearchOrder
import Estate.Proofs.Text.Content

/-!
Where nothing is found.

A blank text comes to nothing when it is cleaned, and modifiers leave nothing as it is, but for
those that read a number: they read zero. Unless a zero is left a rule that has found nothing but
blanks passes to its fallbacks, and so does one that has found no text at all.
-/

namespace Estate

namespace Modifier

/-! ### Modifiers of nothing -/

/-- Modifiers make a zero of nothing: one that reads a number stands behind all that strip a
character. -/
def LeavesZero (names : List String) : Prop :=
  LastWord (fun name => name = int.name ∨ name = float.name) (· ≠ stripFirstChar.name) names

lemma applyChars_nil (m : Modifier) :
    m.applyChars [] = if m = int ∨ m = float then ['0'] else [] := by
  cases m <;> decide +kernel

lemma applyChars_zero (m : Modifier) :
    m.applyChars ['0'] = if m = stripFirstChar then [] else ['0'] := by
  cases m <;> decide +kernel

lemma name_inj {m n : Modifier} (h : m.name = n.name) : m = n := by
  have hall : ∀ m ∈ all, ∀ n ∈ all, m.name = n.name → m = n := by decide
  have hmem (m : Modifier) : m ∈ all := by cases m <;> decide
  exact hall m (hmem m) n (hmem n) h

lemma ofName?_eq_some {name : String} {m : Modifier} : ofName? name = some m ↔ name = m.name := by
  constructor
  · intro h
    have hfound := List.find?_some h
    exact (eq_of_beq hfound).symm
  · rintro rfl
    cases m <;> decide

/-- A name does the same to a text as the modifier of that name, or nothing. -/
lemma applyNamed?_getD (name s : String) :
    (∃ m, name = Modifier.name m ∧ (applyNamed? name s).getD s = m.apply s) ∨
      (∀ m, name ≠ Modifier.name m) ∧ (applyNamed? name s).getD s = s := by
  cases h : ofName? name with
  | none =>
    refine .inr ⟨fun m hm => ?_, by rw [applyNamed?, h]; rfl⟩
    rw [ofName?_eq_some.2 hm] at h
    cases h
  | some m => exact .inl ⟨m, ofName?_eq_some.1 h, by rw [applyNamed?, h]; rfl⟩

lemma applyNamed?_empty (name : String) :
    (applyNamed? name "").getD "" = if name = int.name ∨ name = float.name then "0" else "" := by
  rcases applyNamed?_getD name "" with ⟨m, rfl, h⟩ | ⟨hnone, h⟩
  · have hreads : (m.name = int.name ∨ m.name = float.name) ↔ m = int ∨ m = float :=
      or_congr ⟨name_inj, congrArg name⟩ ⟨name_inj, congrArg name⟩
    rw [h, apply, String.toList_empty, applyChars_nil]
    simp only [hreads]
    split <;> rfl
  · rw [h, if_neg fun hname => hname.elim (hnone int) (hnone float)]

lemma applyNamed?_zero (name : String) :
    (applyNamed? name "0").getD "0" = if name = stripFirstChar.name then "" else "0" := by
  rcases applyNamed?_getD name "0" with ⟨m, rfl, h⟩ | ⟨hnone, h⟩
  · have hstrips : m.name = stripFirstChar.name ↔ m = stripFirstChar := ⟨name_inj, congrArg name⟩
    have hzero : "0".toList = ['0'] := rfl
    rw [h, apply, hzero, applyChars_zero]
    simp only [hstrips]
    split <;> rfl
  · rw [h, if_neg (hnone stripFirstChar)]

lemma applyAll_concat (names : List String) (name s : String) :
    applyAll (names ++ [name]) s =
      (applyNamed? name (applyAll names s)).getD (applyAll names s) := by
  rw [applyAll, List.foldl_append]
  rfl

lemma leavesZero_concat {names : List String} {name : String} :
    LeavesZero (names ++ [name]) ↔
      (name = int.name ∨ name = float.name) ∨ name ≠ stripFirstChar.name ∧ LeavesZero names :=
  lastWord_concat

/-- Nothing stays nothing, or becomes a zero. -/
lemma applyAll_empty (names : List String) :
    (LeavesZero names → applyAll names "" = "0") ∧
      (¬ LeavesZero names → applyAll names "" = "") := by
  induction names using List.reverseRecOn with
  | nil =>
    have hno : ¬ LeavesZero [] := not_lastWord_nil
    exact ⟨fun h => absurd h hno, fun _ => rfl⟩
  | append_singleton names name ih =>
    rw [applyAll_concat, leavesZero_concat]
    by_cases hzero : LeavesZero names
    · rw [ih.1 hzero, applyNamed?_zero]
      have hreads : ¬ stripFirstChar.name = int.name ∧ ¬ stripFirstChar.name = float.name := by
        decide
      by_cases hname : name = stripFirstChar.name
      · subst hname
        simp [hreads]
      · simp [hname, hzero]
    · rw [ih.2 hzero, applyNamed?_empty]
      simp only [hzero, and_false, or_false]
      exact ⟨fun hreads => if_pos hreads, fun hreads => if_neg hreads⟩

lemma leavesZero_iff {names : List String} : LeavesZero names ↔ applyAll names "" = "0" := by
  refine ⟨(applyAll_empty names).1, fun h => ?_⟩
  by_contra hno
  rw [(applyAll_empty names).2 hno] at h
  exact absurd h (by decide)

instance (names : List String) : Decidable (LeavesZero names) :=
  decidable_of_iff _ leavesZero_iff.symm

end Modifier

/-! ### Blanks -/

namespace Cleanup

lemma pick_of_all_nil {parts : List (List Char)} (h : ∀ part ∈ parts, part = []) (index : Int) :
    pick parts index = [] := by
  unfold pick
  dsimp only
  generalize (if index < 0 then (parts.length : Int) + index else index) = i
  split
  · rfl
  · cases hpart : parts[i.toNat]? with
    | none => rw [List.getD_eq_getElem?_getD, hpart, Option.getD_none]
    | some part =>
      rw [List.getD_eq_getElem?_getD, hpart, Option.getD_some]
      exact h part (List.mem_of_getElem? hpart)

lemma splitPart_nil (c : Cleanup) : c.splitPart [] = [] := by
  unfold splitPart
  split
  · next sep _ =>
    have hparts : ∀ part ∈ Text.splitAtText sep.toList [], part = [] := by
      unfold Text.splitAtText
      split <;> simp [Text.partsFrom]
    rw [pick_of_all_nil hparts]
    rfl
  · rfl

lemma stripText_nil (c : Cleanup) : c.stripText [] = [] := by
  unfold stripText
  split
  · next text _ =>
    have hreplaced : Text.replaceText text.toList [] [] = [] := by
      unfold Text.replaceText
      split <;> simp [Text.partsFrom]
    rw [hreplaced]
    rfl
  · rfl

lemma stripFirst_nil (c : Cleanup) : c.stripFirst [] = [] := by
  unfold stripFirst
  split <;> rfl

/-- Of a blank text its modifiers see nothing. -/
lemma apply_blank (c : Cleanup) (modifiers : List String) {raw : String}
    (h : ¬ Text.Filled raw.toList) : c.apply modifiers raw = Modifier.applyAll modifiers "" := by
  rw [apply, Text.trim_eq_nil h, splitPart_nil, stripText_nil, stripFirst_nil, String.ofList_nil]

end Cleanup

/-! ### What a probe finds -/

/-- The locator leads to a JSON value. -/
def Locator.readsJson : Locator → Bool
  | .scriptJson _ _ => true
  | .flightData _ => true
  | .jsonLd _ _ => true
  | _ => false

/-- The value whose text is taken of an item: of an object what a path leads to. -/
def readItem? (itemPath : Option String) (v : Json.Value) : Option Json.Value :=
  match v, itemPath with
  | .object _, some path => v.at? path
  | _, _ => some v

lemma itemText?_eq (itemPath : Option String) (v : Json.Value) :
    itemText? itemPath v = (readItem? itemPath v).bind Json.Value.plainText? := by
  cases itemPath with
  | none => cases v <;> rfl
  | some path => cases v <;> rfl

/-- The values whose texts are taken: of an array the items, where a list is wanted. -/
def readValues (itemPath : Option String) (c : Cardinality) (v : Option Json.Value) :
    List Json.Value :=
  match v, c with
  | none, _ => []
  | some (.array items), .many => items.filterMap (readItem? itemPath)
  | some v, _ => (readItem? itemPath v).toList

lemma itemText?_toList (itemPath : Option String) (v : Json.Value) :
    (itemText? itemPath v).toList =
      (readItem? itemPath v).toList.filterMap Json.Value.plainText? := by
  rw [itemText?_eq]
  cases readItem? itemPath v with
  | none => rfl
  | some w => cases h : w.plainText? <;> simp [h]

lemma valueTexts_eq (itemPath : Option String) (c : Cardinality) (v : Option Json.Value) :
    valueTexts itemPath c v = (readValues itemPath c v).filterMap Json.Value.plainText? := by
  rcases v with _ | v
  · rfl
  · have hone := itemText?_toList itemPath v
    cases c with
    | one => cases v <;> exact hone
    | many =>
      cases v with
      | array items =>
        rw [readValues, List.filterMap_filterMap]
        exact congrArg (List.filterMap · items) (funext (itemText?_eq itemPath))
      | _ => exact hone

namespace Probe

variable (p : Page) (c : Cardinality)

/-- The texts that a probe finds in a page, none if it fails. -/
def raws (probe : Probe) : List String := (probe.found p c).toOption.getD []

/-- The JSON value that the locator leads to. -/
def json? (probe : Probe) : Option Json.Value :=
  match probe.locator with
  | .scriptJson name path => (p.lookUp? name).bind (·.at? path)
  | .flightData path => p.flight.search? path
  | .jsonLd type path => LinkedData.find? p.linkedData type path
  | _ => none

/-- The JSON values that the locator and the path of items lead to. -/
def reached (probe : Probe) : List Json.Value := readValues probe.itemPath c (probe.json? p)

/-- There is nothing but blanks: in the texts that are found, or for a locator of JSON values in
those that are reached, empty arrays and objects apart. -/
def FindsNothing (probe : Probe) : Prop :=
  (∀ s ∈ probe.raws p c, ¬ Text.Filled s.toList) ∨
    probe.locator.readsJson ∧ ∀ v ∈ probe.reached p c,
      ¬ v.isPopulated ∧ v ≠ .array [] ∧ v ≠ .object []

/-- A probe at a depth yields no value, and for its rule that is found which its fallbacks find. -/
def FallsThrough (m : Page.Memory) (depth : Nat) (fallbacks : List Rule) (probe : Probe) : Prop :=
  ((probe.values p.rememberingReader c).run m).1.toOption.getD [] = [] ∧
    ((Resolution.ofRule p.rememberingReader c depth (.mk probe fallbacks)).run m).1 =
      let r := ((Resolution.ofFallbacks p.rememberingReader c (depth + 1) 0 fallbacks).run m).1
      { r with errors := (probe.error? p c).toList ++ r.errors }

variable {p c} {probe : Probe}

lemma found_json (h : probe.locator.readsJson) :
    probe.found p c = .ok ((probe.reached p c).filterMap Json.Value.plainText?) := by
  rw [reached, ← valueTexts_eq]
  unfold found look json?
  cases hlocator : probe.locator with
  | scriptJson => rfl
  | flightData => rfl
  | jsonLd => rfl
  | _ =>
    rw [hlocator] at h
    cases h

lemma raws_json (h : probe.locator.readsJson) :
    probe.raws p c = (probe.reached p c).filterMap Json.Value.plainText? := by
  rw [raws, found_json h]
  rfl

lemma plainText?_null {v : Json.Value} (h : v.isNull) : v.plainText? = none := by
  cases v with
  | null => rfl
  | _ => cases h

lemma plainText?_blank {v : Json.Value} (h : ¬ v.isPopulated) (harray : v ≠ .array [])
    (hobject : v ≠ .object []) {s : String} (hs : v.plainText? = some s) :
    ¬ Text.Filled s.toList := by
  cases v with
  | null => cases hs
  | string t =>
    obtain rfl : t = s := Option.some.inj hs
    rwa [← Json.Value.isPopulated_string]
  | array items => simp_all [Json.Value.isPopulated]
  | object members => simp_all [Json.Value.isPopulated]
  | _ => exact absurd rfl h

/-- The texts of what is no more than blank are blank. -/
lemma FindsNothing.blank (h : probe.FindsNothing p c) :
    ∀ s ∈ probe.raws p c, ¬ Text.Filled s.toList := by
  rcases h with h | ⟨hjson, h⟩
  · exact h
  · intro s hs
    rw [raws_json hjson, List.mem_filterMap] at hs
    obtain ⟨v, hv, htext⟩ := hs
    obtain ⟨hblank, harray, hobject⟩ := h v hv
    exact plainText?_blank hblank harray hobject htext

/-- What is yielded are the texts found, cleaned, less those that come to nothing. -/
lemma yielded_eq (probe : Probe) :
    (probe.cleaned p c).toOption.getD [] =
      ((probe.raws p c).map (probe.cleanup.apply probe.modifiers)).filter (!·.isEmpty) := by
  unfold cleaned raws
  cases probe.found p c <;> rfl

lemma map_blank (h : ∀ s ∈ probe.raws p c, ¬ Text.Filled s.toList) :
    (probe.raws p c).map (probe.cleanup.apply probe.modifiers) =
      (probe.raws p c).map fun _ => Modifier.applyAll probe.modifiers "" :=
  List.map_congr_left fun s hs => Cleanup.apply_blank probe.cleanup probe.modifiers (h s hs)

/-- A node that yields nothing leaves it to its fallbacks. -/
lemma fallsThrough_of_yielded {m : Page.Memory} (hm : m.Faithful p) {depth : Nat}
    (hdepth : depth ≤ Rule.maxDepth) (fallbacks : List Rule)
    (h : (probe.cleaned p c).toOption.getD [] = []) :
    probe.FallsThrough p c m depth fallbacks := by
  have hvalues := probe.answers_values p c
  obtain ⟨rest, hrest⟩ : ∃ rest, Page.Memory.Answers p
      (Resolution.ofFallbacks p.rememberingReader c (depth + 1) 0 fallbacks) rest :=
    ⟨_, Resolution.answers_ofFallbacks p c (depth + 1) 0 fallbacks⟩
  have hrule : Page.Memory.Answers p
      (Resolution.ofRule p.rememberingReader c depth (.mk probe fallbacks))
      ((Resolution.ofValues probe.locator.kind (probe.cleaned p c)).or rest) := by
    rw [Resolution.ofRule, if_neg (Nat.not_lt.2 hdepth)]
    exact Page.Memory.answers_bind hvalues (Resolution.answers_orElse _ hrest)
  have hown : Resolution.ofValues probe.locator.kind (probe.cleaned p c) =
      ⟨[], none, [], (probe.error? p c).toList⟩ := by
    unfold cleaned error? at *
    cases hfound : probe.found p c with
    | error e => rfl
    | ok found =>
      rw [hfound] at h
      simp only [Except.map, Except.toOption, Option.getD_some] at h
      simp only [Except.map, h]
      rfl
  refine ⟨?_, ?_⟩
  · rw [(hvalues m hm).1]
    exact h
  · rw [(hrest m hm).1, (hrule m hm).1, hown]
    rfl

end Probe

/-- The text that an empty array or object is taken for. -/
def EmptyText (v : Json.Value) (text : String) : Prop :=
  v = .array [] ∧ text = "[]" ∨ v = .object [] ∧ text = "\x7b\x7d"

lemma EmptyText.plainText? {v : Json.Value} {text : String} (h : EmptyText v text) :
    v.plainText? = some text := by
  rcases h with ⟨rfl, rfl⟩ | ⟨rfl, rfl⟩ <;> decide

/-- **Nothing found**: where a probe finds nothing but blanks its rule passes to the fallbacks,
unless the modifiers make a zero of nothing; then each blank text gives a zero. Where there is no
text at all, as for nulls, the rule passes to the fallbacks whatever the modifiers. An empty array
or object is a text like any other. -/
theorem nothing_falls_through (p : Page) (m : Page.Memory) (hm : m.Faithful p) (c : Cardinality)
    (depth : Nat) (hdepth : depth ≤ Rule.maxDepth) (probe : Probe) (fallbacks : List Rule) :
    let values := ((probe.values p.rememberingReader c).run m).1.toOption.getD []
    (probe.FindsNothing p c → ¬ Modifier.LeavesZero probe.modifiers →
      probe.FallsThrough p c m depth fallbacks) ∧
    (probe.FindsNothing p c → Modifier.LeavesZero probe.modifiers →
      values = (probe.raws p c).map fun _ => "0") ∧
    (probe.raws p c = [] → probe.FallsThrough p c m depth fallbacks) ∧
    (probe.locator.readsJson → (∀ v ∈ probe.reached p c, v.isNull) →
      probe.FallsThrough p c m depth fallbacks) ∧
    (probe.locator.readsJson → ∀ v ∈ probe.reached p c, ∀ text, EmptyText v text →
      probe.cleanup.apply probe.modifiers text ≠ "" →
        probe.cleanup.apply probe.modifiers text ∈ values) := by
  intro values
  have hvalues : values =
      ((probe.raws p c).map (probe.cleanup.apply probe.modifiers)).filter (!·.isEmpty) := by
    rw [← Probe.yielded_eq, ← (probe.answers_values p c m hm).1]
  obtain ⟨hzero, hempty⟩ := Modifier.applyAll_empty probe.modifiers
  have hnone (hraws : probe.raws p c = []) : probe.FallsThrough p c m depth fallbacks :=
    Probe.fallsThrough_of_yielded hm hdepth fallbacks (by rw [Probe.yielded_eq, hraws]; rfl)
  refine ⟨fun h hleaves => ?_, fun h hleaves => ?_, hnone, fun hjson hnull => hnone ?_,
    fun hjson v hv text htext hne => ?_⟩
  · refine Probe.fallsThrough_of_yielded hm hdepth fallbacks ?_
    rw [Probe.yielded_eq, Probe.map_blank h.blank, hempty hleaves]
    simp
  · rw [hvalues, Probe.map_blank h.blank, hzero hleaves]
    refine List.filter_eq_self.2 fun s hs => ?_
    obtain ⟨-, -, rfl⟩ := List.mem_map.1 hs
    rfl
  · rw [Probe.raws_json hjson]
    exact List.filterMap_eq_nil_iff.2 fun v hv => Probe.plainText?_null (hnull v hv)
  · have hraw : text ∈ probe.raws p c := by
      rw [Probe.raws_json hjson]
      exact List.mem_filterMap.2 ⟨v, hv, htext.plainText?⟩
    rw [hvalues, List.mem_filter]
    exact ⟨List.mem_map_of_mem hraw, by simpa using hne⟩

/-- A page that streams a list of a blank and a null, a list of a null, and an empty object. -/
def gaps : Page :=
  ⟨"self.__next_f.push([1,\"1:\x7b\\\"list\\\":[\\\" \\\",null],\\\"nulls\\\":[null]," ++
      "\\\"terms\\\":\x7b\x7d\x7d\"])",
    "https://example.com/sale/flat-7", 10, []⟩

/-- What is streamed at a path, with modifiers. -/
def streamed (path : String) (modifiers : List String) : Probe :=
  { Probe.at (.flightData path) with modifiers := modifiers }

/-- A segment of the address. -/
def segment : Rule := .mk (.at (.urlSegment (some 2))) []

theorem nothing_falls_through_gaps :
    let m := Page.Memory.empty
    let values (probe : Probe) (c : Cardinality) :=
      ((probe.values gaps.rememberingReader c).run m).1.toOption.getD []
    m.Faithful gaps ∧ 10 ≤ Rule.maxDepth ∧
      (streamed "1.list" ["int", "stripFirstChar"]).FallsThrough gaps .many m 10 [segment] ∧
      values (streamed "1.list" ["stripFirstChar", "int"]) .many = ["0"] ∧
      (streamed "1.nulls" ["int"]).FallsThrough gaps .many m 10 [segment] ∧
      "\x7b\x7d" ∈ values (streamed "1.terms" []) .one := by
  intro m values
  have hm : m.Faithful gaps := Page.Memory.faithful_empty gaps
  have hdepth : 10 ≤ Rule.maxDepth := by decide
  have hraws (modifiers : List String) : (streamed "1.list" modifiers).raws gaps .many = [" "] := by
    have hplain : (streamed "1.list" []).raws gaps .many = [" "] := by decide +kernel
    exact hplain
  have hnothing (modifiers : List String) :
      (streamed "1.list" modifiers).FindsNothing gaps .many := by
    refine .inl ?_
    rw [hraws]
    decide +kernel
  have hnulls : ∀ v ∈ (streamed "1.nulls" ["int"]).reached gaps .many, v.isNull := by
    decide +kernel
  have hterms : .object [] ∈ (streamed "1.terms" []).reached gaps .one := by
    have hany : ((streamed "1.terms" []).reached gaps .one).any
        (fun v => v.members?.any (·.isEmpty)) := by decide +kernel
    obtain ⟨v, hv, hempty⟩ := List.any_eq_true.1 hany
    cases v with
    | object members =>
      obtain rfl : members = [] := List.isEmpty_iff.1 hempty
      exact hv
    | _ => cases hempty
  have hresult (probe : Probe) (c : Cardinality) :=
    nothing_falls_through gaps m hm c 10 hdepth probe [segment]
  obtain ⟨hpasses, -⟩ := hresult (streamed "1.list" ["int", "stripFirstChar"]) .many
  obtain ⟨-, hzero, -⟩ := hresult (streamed "1.list" ["stripFirstChar", "int"]) .many
  obtain ⟨-, -, -, hnull, -⟩ := hresult (streamed "1.nulls" ["int"]) .many
  obtain ⟨-, -, -, -, hempty⟩ := hresult (streamed "1.terms" []) .one
  refine ⟨hm, hdepth, hpasses (hnothing _) (by decide +kernel), ?_, hnull rfl hnulls,
    hempty rfl _ hterms "\x7b\x7d" (.inr ⟨rfl, rfl⟩) (by decide +kernel)⟩
  have hread := hzero (hnothing _) (by decide +kernel)
  rwa [hraws] at hread

/-- A zero that is read from a blank text, and the text of an empty object, stand before a fallback
that finds something. -/
theorem zero_stands_before_fallback :
    let found (probe : Probe) (c : Cardinality) :=
      ((Resolution.ofRule gaps.rememberingReader c 0 (.mk probe [segment])).run Page.Memory.empty).1
    ((∀ s ∈ (streamed "1.list" ["int"]).raws gaps .many, ¬ Text.Filled s.toList) ∧
      (found (streamed "1.list" ["int"]) .many).values = ["0"]) ∧
    ((streamed "1.terms" []).json? gaps).any (fun v => !v.isPopulated) ∧
      (found (streamed "1.terms" []) .one).values = ["\x7b\x7d"] ∧
    (found (.at .unset) .one).values ≠ [] := by
  decide +kernel

end Estate
