import Estate.Tenure
import Estate.Proofs.Url.Web

/-!
Rental words in the address of a page.

A listing without flags is a rental exactly if a rental word stands in a segment of the path, behind
nothing but words of letters. Any other word in front hides it, also one with an accented letter,
which an address spells in bytes.
-/

namespace Estate.Tenure

open Text

/-- Words of small letters with a hyphen behind each. -/
inductive Hyphened : List Char → Prop
  | nil : Hyphened []
  | word {w rest : List Char} (hne : w ≠ []) (hletters : ∀ c ∈ w, 'a' ≤ c ∧ c ≤ 'z')
      (h : Hyphened rest) : Hyphened (w ++ '-' :: rest)

/-- A rental word stands in a segment as a word, capital letters counting as small ones: behind the
start or a hyphen, and before the end, a hyphen, an underscore or a point. -/
structure StandsIn (segment front word back : List Char) : Prop where
  eq : segment.map lowerAscii = front ++ word ++ back
  rental : word ∈ rentalWords
  start : ∀ c ∈ front.getLast?, c = '-'
  stop : ∀ c ∈ back.head?, c ∈ ['-', '_', '.']

/-! ### Segments -/

/-- A rental word is found in a text in small letters. -/
def Rents (cs : List Char) : Prop :=
  ∃ front word back, cs = front ++ word ++ back ∧ Hyphened front ∧ word ∈ rentalWords ∧
    ∀ c ∈ back.head?, endsWord c

lemma startsWithRental_iff {cs : List Char} : startsWithRental cs ↔
    ∃ word ∈ rentalWords, ∃ back, cs = word ++ back ∧ ∀ c ∈ back.head?, endsWord c := by
  rw [startsWithRental, List.any_eq_true]
  refine exists_congr fun word => and_congr_right fun _ => ?_
  cases hafter : after? word cs with
  | none =>
    refine iff_of_false (by simp) ?_
    rintro ⟨back, heq, -⟩
    rw [after?_eq_some.2 heq] at hafter
    cases hafter
  | some rest =>
    rw [after?_eq_some] at hafter
    simp [hafter, Option.all_eq_true]

/-- A word of letters and the hyphen behind it, taken apart at its first character. -/
lemma exists_word_cons {p : List Char → Prop} {c : Char} {cs : List Char} :
    (∃ letters rest, (∀ d ∈ letters, 'a' ≤ d ∧ d ≤ 'z') ∧ c :: cs = letters ++ '-' :: rest ∧
        p rest) ↔
      (c = '-' ∧ p cs) ∨ ('a' ≤ c ∧ c ≤ 'z') ∧ ∃ letters rest,
        (∀ d ∈ letters, 'a' ≤ d ∧ d ≤ 'z') ∧ cs = letters ++ '-' :: rest ∧ p rest := by
  constructor
  · rintro ⟨letters, rest, hletters, heq, hrest⟩
    cases letters with
    | nil =>
      obtain ⟨rfl, rfl⟩ := List.cons.inj heq
      exact .inl ⟨rfl, hrest⟩
    | cons d letters =>
      obtain ⟨rfl, rfl⟩ := List.cons.inj heq
      obtain ⟨hc, hletters⟩ := List.forall_mem_cons.1 hletters
      exact .inr ⟨hc, letters, rest, hletters, rfl, hrest⟩
  · rintro (⟨rfl, hrest⟩ | ⟨hc, letters, rest, hletters, rfl, hrest⟩)
    · exact ⟨[], cs, by simp, rfl, hrest⟩
    · exact ⟨c :: letters, rest, List.forall_mem_cons.2 ⟨hc, hletters⟩, rfl, hrest⟩

/-- Behind a letter, the word goes on to a hyphen. -/
lemma segmentRents_letter {cs : List Char} : segmentRents false true cs ↔
    ∃ letters rest, (∀ c ∈ letters, 'a' ≤ c ∧ c ≤ 'z') ∧ cs = letters ++ '-' :: rest ∧
      segmentRents true false rest := by
  induction cs with
  | nil => simp [segmentRents]
  | cons c cs ih =>
    rw [segmentRents, exists_word_cons, ← ih]
    by_cases hletter : 'a' ≤ c ∧ c ≤ 'z'
    · have hne : c ≠ '-' := by
        rintro rfl
        exact absurd hletter (by decide)
      simp [hletter, hne]
    · simp [hletter]

/-- At the start of a segment or of a word, a rental word starts, or another word does. -/
lemma segmentRents_start {cs : List Char} : segmentRents true false cs ↔
    startsWithRental cs ∨ ∃ c rest, ('a' ≤ c ∧ c ≤ 'z') ∧ cs = c :: rest ∧
      segmentRents false true rest := by
  cases cs with
  | nil =>
    have hnone : startsWithRental [] = false := by decide
    simp [segmentRents, hnone]
  | cons c cs =>
    rw [segmentRents, Bool.true_and, Bool.or_eq_true]
    refine or_congr_right ?_
    by_cases hletter : 'a' ≤ c ∧ c ≤ 'z' <;> simp [hletter]

lemma segmentRents_iff {cs : List Char} : segmentRents true false cs ↔ Rents cs := by
  constructor
  · intro h
    induction hlength : cs.length using Nat.strong_induction_on generalizing cs with
    | _ n ih =>
      rcases segmentRents_start.1 h with hstart | ⟨c, rest, hc, rfl, hrest⟩
      · obtain ⟨word, hword, back, rfl, hback⟩ := startsWithRental_iff.1 hstart
        exact ⟨[], word, back, rfl, .nil, hword, hback⟩
      · obtain ⟨letters, rest, hletters, rfl, hmore⟩ := segmentRents_letter.1 hrest
        obtain ⟨front, word, back, rfl, hfront, hword, hback⟩ :=
          ih rest.length (by simp at hlength; omega) hmore rfl
        exact ⟨c :: letters ++ '-' :: front, word, back, by simp,
          .word (by simp) (List.forall_mem_cons.2 ⟨hc, hletters⟩) hfront, hword, hback⟩
  · rintro ⟨front, word, back, rfl, hfront, hword, hback⟩
    induction hfront with
    | nil =>
      exact segmentRents_start.2 (.inl (startsWithRental_iff.2 ⟨word, hword, back, rfl, hback⟩))
    | @word w rest hne hletters _ ih =>
      obtain ⟨c, letters, rfl⟩ := List.exists_cons_of_ne_nil hne
      obtain ⟨hc, hletters⟩ := List.forall_mem_cons.1 hletters
      refine segmentRents_start.2 (.inr ⟨c, _, hc, by simp only [List.cons_append]; rfl, ?_⟩)
      exact segmentRents_letter.2 ⟨letters, _, hletters, by simp, ih⟩

/-! ### Paths -/

lemma slash_not_mem_word {word : List Char} (h : word ∈ rentalWords) : '/' ∉ word := by
  have hall : ∀ word ∈ rentalWords, '/' ∉ word := by decide
  exact hall word h

lemma slash_not_mem_hyphened {front : List Char} (h : Hyphened front) : '/' ∉ front := by
  induction h with
  | nil => simp
  | @word w rest _ hletters _ ih =>
    have hw : '/' ∉ w := fun hmem => absurd (hletters '/' hmem) (by decide)
    simp [hw, ih]

lemma getLast?_hyphened {front : List Char} (h : Hyphened front) :
    ∀ c ∈ front.getLast?, c = '-' := by
  induction h with
  | nil => simp
  | @word w rest _ _ _ ih =>
    rw [List.getLast?_append_of_ne_nil _ (List.cons_ne_nil _ _)]
    cases rest with
    | nil => simp
    | cons d rest => exact ih

section

variable {segment more : List Char}

/-- What stands behind the slash that ends a segment does not matter in it. -/
lemma rents_append (hsegment : '/' ∉ segment) (hmore : ∀ c ∈ more.head?, c = '/') :
    Rents (segment ++ more) ↔ Rents segment := by
  constructor
  · rintro ⟨front, word, back, heq, hfront, hword, hback⟩
    rcases List.append_eq_append_iff.1 heq with ⟨rest, hwhole, rfl⟩ | ⟨back, rfl, rfl⟩
    · cases rest with
      | nil => exact ⟨front, word, [], by simpa using hwhole.symm, hfront, hword, by simp⟩
      | cons c rest =>
        -- The word would go on behind the slash.
        rw [hmore c rfl] at hwhole
        have hslash : '/' ∈ front ++ word := by simp [hwhole]
        exact absurd hslash (by simp [slash_not_mem_hyphened hfront, slash_not_mem_word hword])
    · exact ⟨front, word, back, rfl, hfront, hword, fun c hc =>
        hback c (List.mem_head?_append_of_mem_head? hc)⟩
  · rintro ⟨front, word, back, rfl, hfront, hword, hback⟩
    refine ⟨front, word, back ++ more, by simp, hfront, hword, fun c hc => ?_⟩
    cases back with
    | nil =>
      rw [hmore c hc]
      rfl
    | cons d back => exact hback c hc

lemma pathRents_append (hsegment : '/' ∉ segment) :
    pathRents (segment ++ more) = pathRents more := by
  induction segment with
  | nil => rfl
  | cons c segment ih =>
    rw [List.mem_cons, not_or] at hsegment
    have hc : (c == '/') = false := by simpa using Ne.symm hsegment.1
    rw [List.cons_append, pathRents, hc, Bool.false_and, Bool.false_or, ih hsegment.2]

end

/-- A rental word is found in a path if it is found in one of the segments. -/
lemma pathRents_segments {segments : List (List Char)} (h : ∀ s ∈ segments, '/' ∉ s) :
    pathRents (segments.flatMap ('/' :: ·)) ↔ ∃ s ∈ segments, Rents s := by
  induction segments with
  | nil => simp [pathRents]
  | cons s segments ih =>
    obtain ⟨hs, hmore⟩ := List.forall_mem_cons.1 h
    have hslash : ∀ c ∈ (segments.flatMap ('/' :: ·)).head?, c = '/' := by
      cases segments <;> simp
    rw [List.flatMap_cons, List.cons_append, pathRents, beq_self_eq_true, Bool.true_and,
      Bool.or_eq_true, segmentRents_iff, rents_append hs hslash, pathRents_append hs, ih hmore]
    exact (List.exists_mem_cons_iff _ _ _).symm

/-! ### Addresses -/

lemma plain_lowerAscii {c : Char} (hleft : leaves Url.pathSet.toList c)
    (hwhole : Url.isSlash c = false) : lowerAscii c ∉ ['/', '?', '#'] := by
  have hall : ∀ n < 127, leaves Url.pathSet.toList (.ofNat n) → Url.isSlash (.ofNat n) = false →
      lowerAscii (.ofNat n) ∉ ['/', '?', '#'] := by decide +kernel
  exact forall_leaves (p := fun c => Url.isSlash c = false → lowerAscii c ∉ ['/', '?', '#']) hall
    hleft hwhole

/-- In a segment that has been read, a rental word is found where it stands behind words of
letters. -/
lemma rents_segment {segment : String} (h : Url.IsSegment segment) :
    Rents (segment.toList.map lowerAscii) ↔
      ∃ front word back, StandsIn segment.toList front word back ∧ Hyphened front := by
  have hplain : ∀ c ∈ segment.toList.map lowerAscii, c ∉ ['/', '?', '#'] := by
    rw [List.forall_mem_map]
    exact fun c hc => plain_lowerAscii (h.encoded c hc) (h.whole c hc)
  constructor
  · rintro ⟨front, word, back, heq, hfront, hword, hback⟩
    refine ⟨front, word, back, ⟨heq, hword, getLast?_hyphened hfront, fun c hc => ?_⟩, hfront⟩
    have hmem : c ∈ segment.toList.map lowerAscii := by
      rw [heq]
      exact List.mem_append_right _ (List.mem_of_mem_head? hc)
    have hends := hback c hc
    have hother := hplain c hmem
    simp [endsWord] at hends hother ⊢
    tauto
  · rintro ⟨front, word, back, hstands, hfront⟩
    refine ⟨front, word, back, hstands.eq, hfront, hstands.rental, fun c hc => ?_⟩
    have hends : ∀ c ∈ ['-', '_', '.'], endsWord c := by simp [endsWord]
    exact hends c (hstands.stop c hc)

/-- Some segment of a path that has been read says that the page is of a rental. -/
lemma pathRents_toText {path : Url.Path} (h : Url.IsPath path) :
    pathRents (path.toText.toList.map lowerAscii) ↔
      ∃ segment ∈ path.toText.toList.splitOn '/', ∃ front word back,
        StandsIn segment front word back ∧ Hyphened front := by
  obtain ⟨segments, rfl, -, hall⟩ := h
  have hlower : (segments.flatMap fun s => '/' :: s.toList).map lowerAscii =
      (segments.map fun s => s.toList.map lowerAscii).flatMap ('/' :: ·) := by
    simp [List.map_flatMap, List.flatMap_map, show lowerAscii '/' = '/' from rfl]
  have hwhole : ∀ s ∈ segments.map fun s => s.toList.map lowerAscii, '/' ∉ s := by
    rw [List.forall_mem_map]
    intro s hs hmem
    obtain ⟨c, hc, hslash⟩ := List.mem_map.1 hmem
    have hplain := plain_lowerAscii ((hall s hs).encoded c hc) ((hall s hs).whole c hc)
    simp [hslash] at hplain
  have hsplit : (segments.flatMap fun s => '/' :: s.toList).splitOn '/' =
      [] :: segments.map String.toList := by
    refine Url.splitOnP_segments (s := "") rfl ?_
    simp only [List.forall_mem_cons]
    refine ⟨by simp, fun s hs c hc => ?_⟩
    have hother := (hall s hs).whole c hc
    simp [Url.isSlash] at hother ⊢
    exact hother.1
  have hempty : ¬ ∃ front word back, StandsIn [] front word back ∧ Hyphened front := by
    rintro ⟨front, word, back, hstands, -⟩
    have hfilled : ∀ word ∈ rentalWords, word ≠ [] := by decide
    have hword := hfilled word hstands.rental
    have heq := hstands.eq
    simp [hword] at heq
  rw [Url.toList_segments, hlower, pathRents_segments hwhole, hsplit, List.exists_mem_cons_iff,
    or_iff_right hempty]
  simp only [List.mem_map, exists_exists_and_eq_and]
  exact exists_congr fun s => and_congr_right fun hs => rents_segment (hall s hs)

/-- **Which addresses are those of rentals**: without flags, a listing whose page is on the web is a
rental exactly if a rental word stands as a word in a segment of the path, behind nothing but words
of letters. -/
theorem rental_iff {record : Json.Members} {address : String} {u : Url}
    (hread : Url.ofText address = .ok u) (hweb : u.scheme = "http" ∨ u.scheme = "https")
    (hflags : ∀ key ∈ "for_sale" :: rentalFlags, flagged record key = false) :
    detect record ((Url.ofText address).toOption.map Url.pathText) = .rental ↔
      ∃ segment ∈ u.pathText.toList.splitOn '/', ∃ front word back,
        StandsIn segment front word back ∧ Hyphened front := by
  obtain ⟨hsale, hrental⟩ := List.forall_mem_cons.1 hflags
  have hnone : rentalFlags.any (flagged record) = false := by simpa using hrental
  have hpath : (Url.ofText address).toOption.map Url.pathText = some u.pathText := by
    rw [hread]
    rfl
  have hdetect : detect record (some u.pathText) = .rental ↔
      pathRents (u.pathText.toList.map lowerAscii) := by
    simp [detect, hnone, hsale]
  rw [hpath, hdetect]
  exact pathRents_toText (Url.web_of_ofText hread hweb).path

theorem rental_iff_flat_to_let :
    detect [("for_rent", .bool false)]
      ((Url.ofText "https://x.de/wohnung-mieten/berlin").toOption.map Url.pathText) = .rental := by
  have hread : Url.ofText "https://x.de/wohnung-mieten/berlin" = .ok ⟨"https", "", "",
      some (.name "x.de"), none, .segments ["wohnung-mieten", "berlin"], none, none⟩ := by
    decide +kernel
  have hstands : StandsIn "wohnung-mieten".toList "wohnung-".toList "mieten".toList [] :=
    ⟨by decide, by decide, fun _ hc => (Option.some.inj hc).symm, by simp⟩
  have hfront : Hyphened "wohnung-".toList :=
    .word (w := "wohnung".toList) (by decide) (List.all_iff_forall_prop.1 (by decide)) .nil
  exact (rental_iff hread (.inr rfl) (by decide)).2
    ⟨_, by decide, _, _, _, hstands, hfront⟩

/-- A word with an accented letter hides the rental word behind it. -/
theorem rental_hidden :
    let address := "https://x.fr/à-louer/paris"
    (∃ u, Url.ofText address = .ok u ∧ u.scheme = "https" ∧
      ∃ segment ∈ u.pathText.toList.splitOn '/', ∃ front word back,
        StandsIn segment front word back) ∧
      detect [] ((Url.ofText address).toOption.map Url.pathText) = .sale := by
  have hread : Url.ofText "https://x.fr/à-louer/paris" = .ok ⟨"https", "", "", some (.name "x.fr"),
      none, .segments ["%C3%A0-louer", "paris"], none, none⟩ := by decide +kernel
  have hstands : StandsIn "%C3%A0-louer".toList "%c3%a0-".toList "louer".toList [] :=
    ⟨by decide, by decide, fun _ hc => (Option.some.inj hc).symm, by simp⟩
  refine ⟨⟨_, hread, rfl, _, by decide, _, _, _, hstands⟩, ?_⟩
  rw [hread]
  decide

end Estate.Tenure
