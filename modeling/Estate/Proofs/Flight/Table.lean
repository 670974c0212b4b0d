import Mathlib.Data.List.Induction
import Mathlib.Data.List.Nodup
import Estate.Proofs.Flight.Resolution
import Estate.Proofs.LastWord

/-!
The table that the lines of a payload make.

A line gives a value to a key, or it is malformed and says nothing. Line by line the table stays
faithful to the lines so far: each key that a line has given stands in it once, in the order in
which the keys were met first, with the value that was given last.
-/

namespace Estate.Flight

open Json

/-! ### Lines -/

/-- The line gives the value to the key: a word, a colon, and a JSON text behind it, with blanks
around either. -/
inductive Gives : List Char → String → Value → Prop where
  | mk {key : String} {v : Value} {g₁ g₂ behind : List Char} (hg₁ : ∀ c ∈ g₁, Text.isBlank c)
    (hkey : IsKey key) (hg₂ : ∀ c ∈ g₂, Text.isBlank c)
    (hv : Value.ofText? (.ofList (Text.trim behind)) = some v) :
    Gives (g₁ ++ (key.toList ++ (g₂ ++ ':' :: behind))) key v

/-- The line gives no value to any key. -/
def Malformed (line : List Char) : Prop := ∀ key v, ¬ Gives line key v

section

variable {line : List Char} {key : String} {v : Value}

lemma IsKey.not_colon (h : IsKey key) : ':' ∉ key.toList := fun hmem =>
  absurd (h.2 ':' hmem) (by decide)

lemma not_colon_of_blanks {g : List Char} (hg : ∀ c ∈ g, Text.isBlank c) : ':' ∉ g := fun hmem =>
  absurd (hg ':' hmem) (by decide)

lemma trim_key (h : IsKey key) {g₁ g₂ : List Char} (hg₁ : ∀ c ∈ g₁, Text.isBlank c)
    (hg₂ : ∀ c ∈ g₂, Text.isBlank c) : Text.trim (g₁ ++ (key.toList ++ g₂)) = key.toList := by
  rw [Text.trim_blanks_append hg₁, Text.trim_append_blanks hg₂]
  exact h.tight.trim

lemma lineEntry?_eq_some : lineEntry? line = some (key, v) ↔ Gives line key v := by
  constructor
  · intro h
    unfold lineEntry? at h
    split at h
    · cases h
    · next before behind hcut =>
      obtain ⟨-, rfl⟩ := Text.cutAt?_eq_some.1 hcut
      dsimp only at h
      split at h
      · cases h
      · next hword =>
        obtain ⟨w, hw, heq⟩ := Option.map_eq_some_iff.1 h
        obtain ⟨rfl, rfl⟩ := Prod.mk.inj heq
        obtain ⟨g₁, g₂, hg₁, hg₂, hbefore⟩ := Text.exists_trim before
        have hkey : IsKey (.ofList (Text.trim before)) := by simpa [IsKey] using hword
        have hgives := Gives.mk hg₁ hkey hg₂ hw
        rw [String.toList_ofList, ← List.append_assoc (Text.trim before), ← List.append_assoc g₁,
          ← hbefore] at hgives
        exact hgives
  · rintro ⟨hg₁, hkey, hg₂, hv⟩
    next g₁ g₂ behind =>
    have hcut : Text.cutAt? [':'] (g₁ ++ (key.toList ++ (g₂ ++ ':' :: behind))) =
        some (g₁ ++ (key.toList ++ g₂), behind) := by
      refine Text.cutAt?_eq_some.2 ⟨?_, by simp⟩
      simp only [List.mem_append, not_or]
      exact ⟨not_colon_of_blanks hg₁, hkey.not_colon, not_colon_of_blanks hg₂⟩
    have hword : ¬ ((Text.trim (g₁ ++ (key.toList ++ g₂))).isEmpty ||
        !(Text.trim (g₁ ++ (key.toList ++ g₂))).all Text.isWord) = true := by
      rw [trim_key hkey hg₁ hg₂]
      simpa [IsKey] using hkey
    unfold lineEntry?
    rw [hcut]
    dsimp only
    rw [if_neg hword, hv, trim_key hkey hg₁ hg₂, String.ofList_toList]
    rfl

lemma malformed_iff : Malformed line ↔ lineEntry? line = none := by
  rw [Option.eq_none_iff_forall_ne_some]
  constructor
  · rintro h ⟨key, v⟩ heq
    exact h key v (lineEntry?_eq_some.1 heq)
  · intro h key v hgives
    exact h (key, v) (lineEntry?_eq_some.2 hgives)

/-- A line gives one value to one key. -/
lemma Gives.unique {other : String} {w : Value} (h : Gives line key v) (h' : Gives line other w) :
    other = key ∧ w = v := by
  have heq := (lineEntry?_eq_some.2 h').symm.trans (lineEntry?_eq_some.2 h)
  simpa using heq

lemma gives_return : Gives (line ++ ['\r']) key v ↔ Gives line key v := by
  have hreturn : ∀ c ∈ ['\r'], Text.isBlank c := fun c hc => by
    rw [List.mem_singleton.1 hc]
    rfl
  constructor
  · intro h
    generalize hline : line ++ ['\r'] = longer at h
    obtain ⟨hg₁, hkey, hg₂, hv⟩ := h
    next g₁ g₂ behind =>
    rcases List.eq_nil_or_concat behind with rfl | ⟨rest, c, rfl⟩
    · have hlast := congrArg List.getLast? hline
      simp at hlast
    · rw [List.concat_eq_append] at hline hv
      have hsplit : line ++ ['\r'] = (g₁ ++ (key.toList ++ (g₂ ++ ':' :: rest))) ++ [c] := by
        simpa using hline
      obtain ⟨rfl, hc⟩ := List.append_inj' hsplit rfl
      rw [← hc, Text.trim_append_blanks hreturn] at hv
      exact .mk hg₁ hkey hg₂ hv
  · rintro ⟨hg₁, hkey, hg₂, hv⟩
    rw [← Text.trim_append_blanks hreturn] at hv
    simpa using Gives.mk hg₁ hkey hg₂ hv

lemma lineEntry?_return (line : List Char) : lineEntry? (line ++ ['\r']) = lineEntry? line := by
  refine Option.ext fun e => ?_
  obtain ⟨key, v⟩ := e
  rw [lineEntry?_eq_some, lineEntry?_eq_some, gives_return]

end

/-! ### What was given last, and what was met first -/

/-- Of the values that lines give to the key, this is the last. -/
def LastGiven (lines : List (List Char)) (key : String) (v : Value) : Prop :=
  LastWord (fun line => Gives line key v) (fun line => ∀ w, ¬ Gives line key w) lines

/-- A line gives a value to the one key before any line gives one to the other. -/
def MetBefore (lines : List (List Char)) (key other : String) : Prop :=
  ∃ before line after v, lines = before ++ line :: after ∧ Gives line key v ∧
    ∀ l ∈ before, ∀ w, ¬ Gives l other w

section

variable {lines : List (List Char)} {line : List Char} {key other : String} {v w : Value}

lemma lastGiven_concat : LastGiven (lines ++ [line]) key v ↔
    Gives line key v ∨ (∀ w, ¬ Gives line key w) ∧ LastGiven lines key v :=
  lastWord_concat

/-- If any line gives a value to the key, one of them is the last. -/
lemma exists_lastGiven (lines : List (List Char)) (key : String) :
    (∃ v, LastGiven lines key v) ↔ ∃ line ∈ lines, ∃ v, Gives line key v := by
  constructor
  · rintro ⟨v, before, line, after, rfl, hgives, -⟩
    exact ⟨line, by simp, v, hgives⟩
  · induction lines using List.reverseRecOn with
    | nil => simp
    | append_singleton lines last ih =>
      rintro ⟨line, hline, v, hgives⟩
      by_cases hlast : ∃ w, Gives last key w
      · obtain ⟨w, hw⟩ := hlast
        exact ⟨w, lastGiven_concat.2 (.inl hw)⟩
      · have hlast : ∀ w, ¬ Gives last key w := fun w hw => hlast ⟨w, hw⟩
        rcases List.mem_append.1 hline with hline | hline
        · obtain ⟨w, hw⟩ := ih ⟨line, hline, v, hgives⟩
          exact ⟨w, lastGiven_concat.2 (.inr ⟨hlast, hw⟩)⟩
        · rw [List.mem_singleton.1 hline] at hgives
          exact absurd hgives (hlast v)

lemma MetBefore.concat (h : MetBefore lines key other) (line : List Char) :
    MetBefore (lines ++ [line]) key other := by
  obtain ⟨before, l, after, v, rfl, hgives, hbefore⟩ := h
  exact ⟨before, l, after ++ [line], v, by simp, hgives, hbefore⟩

end

/-! ### Line by line -/

/-- The table holds the keys that the lines give values to, each once and in the order in which they
are met, with the values given last. -/
structure Tabulated (lines : List (List Char)) (chunks : List (String × Value)) : Prop where
  nodup : (chunks.map (·.1)).Nodup
  value : ∀ key v, chunks.lookup key = some v ↔ LastGiven lines key v
  order : (chunks.map (·.1)).Pairwise (MetBefore lines)

lemma lookup_put (chunks : List (String × Value)) (key name : String) (v : Value) :
    (put chunks key v).lookup name = if name = key then some v else chunks.lookup name := by
  unfold put
  split
  · next hsome =>
    have hreplace (chunks : List (String × Value)) :
        (chunks.map fun e => if e.1 == key then (key, v) else e).lookup name =
          if name = key ∧ (chunks.lookup key).isSome then some v else chunks.lookup name := by
      induction chunks with
      | nil => simp
      | cons e chunks ih => grind
    rw [hreplace]
    simp [hsome]
  · next hnone =>
    have hnone : chunks.lookup key = none := Option.not_isSome_iff_eq_none.1 hnone
    rw [List.lookup_append, List.lookup_cons, List.lookup_nil]
    by_cases hname : name = key
    · simp [hname, hnone]
    · have hne : (name == key) = false := by simpa using hname
      simp [hname, hne]

namespace Tabulated

variable {lines : List (List Char)} {chunks : List (String × Value)} {line : List Char}

lemma mem_keys (h : Tabulated lines chunks) (key : String) :
    key ∈ chunks.map (·.1) ↔ ∃ line ∈ lines, ∃ v, Gives line key v := by
  have hsome : (chunks.lookup key).isSome ↔ key ∈ chunks.map (·.1) := Keyed.isSome_get? chunks key
  rw [← hsome, Option.isSome_iff_exists, ← exists_lastGiven]
  simp only [h.value]

/-- A malformed line leaves the table as it is. -/
lemma malformed (h : Tabulated lines chunks) (hline : Malformed line) :
    Tabulated (lines ++ [line]) chunks where
  nodup := h.nodup
  value key v := by
    rw [h.value, lastGiven_concat]
    have hno : ∀ w, ¬ Gives line key w := hline key
    simp [hno]
  order := h.order.imp fun hmet => hmet.concat line

/-- A line that gives a value puts it into the table. -/
lemma given {key : String} {v : Value} (h : Tabulated lines chunks) (hline : Gives line key v) :
    Tabulated (lines ++ [line]) (put chunks key v) where
  nodup := by
    rw [keys_put]
    split
    · exact h.nodup
    · next hnew => exact h.nodup.append (by simp) (by simpa using hnew)
  value name w := by
    rw [lookup_put, lastGiven_concat, ← h.value]
    by_cases hname : name = key
    · subst hname
      have hgives : Gives line name w ↔ v = w :=
        ⟨fun hw => (hw.unique hline).2, fun hw => hw ▸ hline⟩
      have hsome : ¬ ∀ w, ¬ Gives line name w := fun hno => hno v hline
      simp [hgives, hsome]
    · have hno : ∀ w, ¬ Gives line name w := fun w hw => hname (hline.unique hw).1
      simp [hname, hno]
  order := by
    have hold := h.order.imp fun hmet => hmet.concat line
    rw [keys_put]
    split
    · exact hold
    · next hnew =>
      refine List.pairwise_append.2 ⟨hold, List.pairwise_singleton _ _, fun a ha b hb => ?_⟩
      obtain rfl := List.mem_singleton.1 hb
      -- The new key was given by no line so far, the old one by some.
      obtain ⟨l, hl, w, hgives⟩ := (h.mem_keys a).1 ha
      obtain ⟨before, after, rfl⟩ := List.append_of_mem hl
      refine ⟨before, l, after ++ [line], w, by simp, hgives, fun l' hl' w' hw' => hnew ?_⟩
      exact (h.mem_keys b).2 ⟨l', by simp [hl'], w', hw'⟩

end Tabulated

/-- The table of lines. -/
def tableOf (lines : List (List Char)) : List (String × Value) :=
  (lines.filterMap lineEntry?).foldl (fun chunks e => put chunks e.1 e.2) []

lemma tabulated_tableOf (lines : List (List Char)) : Tabulated lines (tableOf lines) := by
  induction lines using List.reverseRecOn with
  | nil =>
    refine ⟨List.nodup_nil, fun key v => ?_, .nil⟩
    simp [tableOf, LastGiven]
  | append_singleton lines line ih =>
    unfold tableOf at ih ⊢
    rw [List.filterMap_append, List.foldl_append]
    cases hentry : lineEntry? line with
    | none => simpa [hentry] using ih.malformed (malformed_iff.2 hentry)
    | some e => simpa [hentry] using ih.given (lineEntry?_eq_some.1 hentry)

/-! ### One line more -/

/-- The second text is the first with the line put in: before a line of it, as its last line, or
behind what it ends with. -/
inductive WithLine (line : List Char) : List Char → List Char → Prop where
  | between {before after : List Char} (h : before = [] ∨ before.getLast? = some '\n') :
    WithLine line (before ++ after) (before ++ (line ++ '\n' :: after))
  | last {text : List Char} (h : text = [] ∨ text.getLast? = some '\n') :
    WithLine line text (text ++ line)
  | behind (text : List Char) : WithLine line text (text ++ '\n' :: line)

lemma filterMap_mapIdx {f : List Char → Option (String × Value)} {g : Nat → List Char → List Char}
    (h : ∀ i line, f (g i line) = f line) (lines : List (List Char)) :
    (lines.mapIdx g).filterMap f = lines.filterMap f := by
  induction lines generalizing g with
  | nil => rfl
  | cons line lines ih =>
    rw [List.mapIdx_cons, List.filterMap_cons, List.filterMap_cons, h,
      ih fun i line => h (i + 1) line]

/-- A carriage return before a line feed and the end behind the last one make no difference. -/
lemma entries_lines (text : List Char) :
    (Text.lines text).filterMap lineEntry? = (text.splitOn '\n').filterMap lineEntry? := by
  unfold Text.lines
  dsimp only
  rw [filterMap_mapIdx]
  · split
    · next hlast =>
      have hsplit := List.dropLast_append_getLast? [] (by simpa using hlast)
      conv_rhs => rw [← hsplit, List.filterMap_append]
      have hempty : lineEntry? [] = none := rfl
      simp [hempty]
    · rfl
  · intro i line
    split
    · next hreturn =>
      have hlast : line.getLast? = some '\r' := by
        rw [Bool.and_eq_true] at hreturn
        simpa using hreturn.2
      conv_rhs => rw [← List.dropLast_append_getLast? '\r' hlast, lineEntry?_return]
    · rfl

lemma entries_withLine {line text longer : List Char} (h : WithLine line text longer)
    (hfeed : '\n' ∉ line) (hline : Malformed line) :
    (Text.lines longer).filterMap lineEntry? = (Text.lines text).filterMap lineEntry? := by
  have hnone : [line].filterMap lineEntry? = [] := by simp [malformed_iff.1 hline]
  have hempty : ([[]] : List (List Char)).filterMap lineEntry? = [] := rfl
  have hone : line.splitOn '\n' = [line] := List.splitOn_eq_singleton hfeed
  -- A text that ends with a line feed splits into its lines and nothing behind.
  have hends {before : List Char} (hlast : before.getLast? = some '\n') :
      ∃ start : List Char, ∀ cs,
        (before ++ cs).splitOn '\n' = start.splitOn '\n' ++ cs.splitOn '\n' := by
    refine ⟨before.dropLast, fun cs => ?_⟩
    conv_lhs => rw [← List.dropLast_append_getLast? '\n' hlast]
    rw [List.append_assoc, List.singleton_append, List.splitOn_append_cons_self]
  rw [entries_lines, entries_lines]
  cases h with
  | @between before after h =>
    have hmore : (line ++ '\n' :: after).splitOn '\n' = [line] ++ after.splitOn '\n' := by
      rw [List.splitOn_append_cons_self, hone]
    rcases h with rfl | hlast
    · rw [List.nil_append, List.nil_append, hmore, List.filterMap_append, hnone, List.nil_append]
    · obtain ⟨start, hstart⟩ := hends hlast
      rw [hstart, hstart, hmore, List.filterMap_append, List.filterMap_append,
        List.filterMap_append, hnone, List.nil_append]
  | last h =>
    rcases h with rfl | hlast
    · rw [List.nil_append, hone, hnone]
      rfl
    · obtain ⟨start, hstart⟩ := hends hlast
      have htext := hstart []
      rw [List.append_nil] at htext
      rw [hstart, htext, List.filterMap_append, List.filterMap_append, hone, hnone]
      rfl
  | behind =>
    rw [List.splitOn_append_cons_self, List.filterMap_append, hone, hnone, List.append_nil]

lemma get?_resolved {f : Flight} (h : f.keys.Nodup) (key : String) :
    Keyed.get? f.resolved key = f.resolved? key := by
  have hmap : ((f.chunks.map fun e => (e.1, f.resolve e.2)).map (·.1)).Nodup := by
    rw [List.map_map]
    exact h
  rw [resolved, Keyed.get?_ofList hmap, Keyed.get?_map]
  rfl

/-- **A faithful table**: the keys of a payload are those that lines of it give values to, each
there once. They stand in the order in which lines first gave them a value, and each has the value
that was given last. A malformed line makes no difference, wherever it stands. Every key has a
resolved value. -/
theorem lines_tabulated (text : List Char) (depth : Nat) :
    let f : Flight := { ofPayload text with depth := depth }
    f.keys.Nodup ∧ (∀ key, key ∈ f.keys ↔ (f.raw? key).isSome) ∧
    (∀ key, key ∈ f.keys ↔ ∃ line ∈ Text.lines text, ∃ v, Gives line key v) ∧
    (∀ key v, f.raw? key = some v ↔ LastGiven (Text.lines text) key v) ∧
    f.keys.Pairwise (MetBefore (Text.lines text)) ∧
    (∀ line longer, WithLine line text longer → '\n' ∉ line → Malformed line →
      { ofPayload longer with depth := depth } = f) ∧
    ∀ key ∈ f.keys, ∃ r, f.resolved? key = some r ∧ Keyed.get? f.resolved key = some r := by
  intro f
  have htable : Tabulated (Text.lines text) f.chunks := tabulated_tableOf (Text.lines text)
  have hnodup : f.keys.Nodup := htable.nodup
  refine ⟨hnodup, fun key => (Keyed.isSome_get? f.chunks key).symm, htable.mem_keys, htable.value,
    htable.order, fun line longer hlonger hfeed hline => ?_, fun key hkey => ?_⟩
  · have hentries := entries_withLine hlonger hfeed hline
    simp only [f, ofPayload, hentries]
  · obtain ⟨r, hr⟩ := Option.isSome_iff_exists.1 ((isSome_resolved? f key).2 hkey)
    exact ⟨r, hr, (get?_resolved hnodup key).trans hr⟩

/-- Lines that give a key two values, with another key between. -/
def repeated : List Char := "b:1\na:2\nb:3".toList

theorem lines_tabulated_repeated :
    let f : Flight := { ofPayload repeated with depth := 3 }
    f.keys = ["b", "a"] ∧ Malformed "$c:4".toList ∧ '\n' ∉ "$c:4".toList ∧
      WithLine "$c:4".toList repeated "b:1\n$c:4\na:2\nb:3".toList ∧
      { ofPayload "b:1\n$c:4\na:2\nb:3".toList with depth := 3 } = f ∧
      ∃ v, LastGiven (Text.lines repeated) "b" v := by
  intro f
  have hline : Malformed "$c:4".toList := malformed_iff.2 (by decide +kernel)
  have hfeed : '\n' ∉ "$c:4".toList := by decide +kernel
  have hlonger : WithLine "$c:4".toList repeated "b:1\n$c:4\na:2\nb:3".toList :=
    @WithLine.between "$c:4".toList "b:1\n".toList "a:2\nb:3".toList (.inr (by decide +kernel))
  have hkeys : f.keys = ["b", "a"] := by decide +kernel
  obtain ⟨-, hraw, -, hlast, -, hsame, -⟩ := lines_tabulated repeated 3
  obtain ⟨v, hv⟩ := Option.isSome_iff_exists.1 ((hraw "b").1 (by rw [hkeys]; decide))
  exact ⟨hkeys, hline, hfeed, hlonger, hsame _ _ hlonger hfeed hline, v, (hlast "b" v).1 hv⟩

end Estate.Flight
