import Mathlib.Data.List.InsertIdx
import Mathlib.Tactic.Ring
import Estate.Domain.Punycode
import Estate.Proofs.Text.Ascii
import Estate.Proofs.Text.Cutting

/-!
Punycode is read as it is written.

The writer goes over the label once for each code; what the reader has put together so far are the
characters placed by then. The distance that is not written yet leads from where the reader stands
to where the writer does, so each character is put back where it was taken from.
-/

namespace Estate.Domain.Punycode

/-! ### Distances -/

lemma digit?_digitChar {d : Nat} (h : d < 36) : digit? (digitChar d) = some d := by
  have hall : ∀ d < 36, digit? (digitChar d) = some d := by decide
  exact hall d h

lemma distance?_digits (bias k weight i q : Nat) (rest : List Char) :
    distance? bias k weight i (distanceDigits bias k q ++ rest) = some (i + q * weight, rest) := by
  induction q using Nat.strongRecOn generalizing k weight i with
  | ind q ih =>
    obtain ⟨hlow, hhigh⟩ := threshold_bounds k bias
    rw [distanceDigits]
    split
    · next hlt => simp [distance?, digit?_digitChar (show q < 36 by omega), hlt]
    · next hge =>
      have hmod := Nat.mod_lt (q - threshold k bias) (show 36 - threshold k bias > 0 by omega)
      have hdiv := Nat.div_le_self (q - threshold k bias) (36 - threshold k bias)
      have hdigit := digit?_digitChar
        (show threshold k bias + (q - threshold k bias) % (36 - threshold k bias) < 36 by omega)
      rw [List.cons_append, distance?, hdigit, Option.bind_some, if_neg (by omega),
        ih _ (by omega)]
      have hsplit := Nat.mod_add_div' (q - threshold k bias) (36 - threshold k bias)
      congr 2
      generalize threshold k bias = t at *
      calc i + (t + (q - t) % (36 - t)) * weight + (q - t) / (36 - t) * (weight * (36 - t))
          = i + (t + ((q - t) % (36 - t) + (q - t) / (36 - t) * (36 - t))) * weight := by ring
        _ = i + q * weight := by rw [hsplit, Nat.add_sub_cancel' (by omega)]

lemma distanceDigits_ne_nil (bias k q : Nat) : distanceDigits bias k q ≠ [] := by
  rw [distanceDigits]
  split <;> simp

lemma mem_distanceDigits {bias k q : Nat} {c : Char} (h : c ∈ distanceDigits bias k q) :
    ∃ d < 36, c = digitChar d := by
  induction q using Nat.strongRecOn generalizing k with
  | ind q ih =>
    obtain ⟨hlow, hhigh⟩ := threshold_bounds k bias
    rw [distanceDigits] at h
    split at h
    · exact ⟨q, by omega, by simpa using h⟩
    · have hmod := Nat.mod_lt (q - threshold k bias) (show 36 - threshold k bias > 0 by omega)
      have hdiv := Nat.div_le_self (q - threshold k bias) (36 - threshold k bias)
      rcases List.mem_cons.1 h with h | h
      · exact ⟨_, by omega, h⟩
      · exact ih _ (by omega) h

lemma insertIdx_between (as bs : List Char) (c : Char) :
    (as ++ bs).insertIdx as.length c = as ++ c :: bs := by
  induction as with
  | nil => simp
  | cons a as ih => simp [ih]

/-- The reader puts the character of a code in where the distance leads. -/
lemma insertFrom_distance {code i delta m pos fuel : Nat} {shown ds : List Char} (bias : Nat)
    (hcode : code ≤ m) (hpos : pos ≤ shown.length) (hm : m < 0xD800 ∨ 0xDFFF < m ∧ m < 0x110000)
    (hdelta : i + delta = (m - code) * (shown.length + 1) + pos) :
    insertFrom bias code i shown (fuel + 1) (distanceDigits bias 36 delta ++ ds) =
      insertFrom (adapt delta (shown.length + 1) (i == 0)) m (pos + 1)
        (shown.insertIdx pos (.ofNat m)) fuel ds := by
  have hplace : code + (i + delta) / (shown.length + 1) = m ∧
      (i + delta) % (shown.length + 1) = pos := by
    rw [hdelta, Nat.mul_comm, Nat.mul_add_div (by omega), Nat.mul_add_mod,
      Nat.div_eq_of_lt (by omega), Nat.mod_eq_of_lt (by omega)]
    omega
  obtain ⟨c, cs, hdigits⟩ := List.exists_cons_of_ne_nil (distanceDigits_ne_nil bias 36 delta)
  have hread := distance?_digits bias 36 1 i delta ds
  rw [hdigits, List.cons_append] at hread ⊢
  rw [insertFrom, hread, Option.bind_some]
  simp only [Nat.mul_one, hplace, Nat.add_sub_cancel_left]
  · rw [if_pos (by simpa using hm)]
  · simp

/-! ### What the writer has done -/

/-- What is placed when the writer has gone over the first part of a label for a code. -/
def placed (m : Nat) (front behind : List Char) : List Char :=
  front.filter (·.toNat ≤ m) ++ behind.filter (·.toNat < m)

/-- The reader stands at `code` and `i` with what is placed; the distance the writer holds leads to
where the writer stands. -/
structure Follows (basic m : Nat) (front behind : List Char) (e : Encoding) (code i : Nat)
    (shown : List Char) : Prop where
  shown_eq : shown = placed m front behind
  placed_eq : e.placed = shown.length
  code_le : code ≤ m
  delta_eq : i + e.delta = (m - code) * (shown.length + 1) + (front.filter (·.toNat ≤ m)).length
  basic_le : basic ≤ e.placed
  first_eq : (i == 0) = (e.placed == basic)

/-- Wherever the reader follows the writer from, the digits lead it to a label. -/
def LeadsTo (basic m : Nat) (front behind : List Char) (e : Encoding) (ds label : List Char) :
    Prop :=
  ∀ code i shown fuel, Follows basic m front behind e code i shown → ds.length ≤ fuel →
    insertFrom e.bias code i shown fuel ds = some label

/-- A step of the writer over one character, and the digits it writes. -/
lemma leadsTo_place (basic m : Nat) (front behind : List Char) (e : Encoding) (c : Char) :
    ∃ ds, (e.place basic m c).digits = ds.reverse ++ e.digits ∧
      ∀ rest label, LeadsTo basic m (front ++ [c]) behind (e.place basic m c) rest label →
        LeadsTo basic m front (c :: behind) e (ds ++ rest) label := by
  rcases Nat.lt_trichotomy c.toNat m with hc | hc | hc
  · -- The character is placed already.
    refine ⟨[], by simp [Encoding.place, hc], fun rest label h code i shown fuel hf hfuel => ?_⟩
    have hbias : (e.place basic m c).bias = e.bias := by simp [Encoding.place, hc]
    rw [← hbias]
    refine h code i shown fuel ⟨?_, ?_, hf.code_le, ?_, ?_, ?_⟩ (by simpa using hfuel)
    · simp [hf.shown_eq, placed, hc, hc.le]
    · simp [Encoding.place, hc, hf.placed_eq]
    · have hdelta := hf.delta_eq
      simp only [Encoding.place, hc, if_true, List.filter_append, List.length_append] at hdelta ⊢
      simp [hc.le]
      omega
    · simpa [Encoding.place, hc] using hf.basic_le
    · simpa [Encoding.place, hc] using hf.first_eq
  · -- The character is placed now.
    have hplace : e.place basic m c = ⟨(distanceDigits e.bias 36 e.delta).reverse ++ e.digits, 0,
        adapt e.delta (e.placed + 1) (e.placed == basic), e.placed + 1⟩ := by
      simp [Encoding.place, hc]
    rw [hplace]
    refine ⟨distanceDigits e.bias 36 e.delta, rfl,
      fun rest label h code i shown fuel hf hfuel => ?_⟩
    have hdigits := List.length_pos_of_ne_nil (distanceDigits_ne_nil e.bias 36 e.delta)
    rw [List.length_append] at hfuel
    obtain ⟨fuel, rfl⟩ : ∃ n, fuel = n + 1 := ⟨fuel - 1, by omega⟩
    have hshown : shown = front.filter (·.toNat ≤ m) ++ behind.filter (·.toNat < m) := by
      simp [hf.shown_eq, placed, hc]
    have hpos : (front.filter (·.toNat ≤ m)).length ≤ shown.length := by
      rw [hshown, List.length_append]
      omega
    have hvalid : m < 0xD800 ∨ 0xDFFF < m ∧ m < 0x110000 := hc ▸ c.valid
    rw [insertFrom_distance e.bias hf.code_le hpos hvalid hf.delta_eq, hf.first_eq, ← hf.placed_eq]
    refine h m _ _ fuel ⟨?_, ?_, Nat.le_refl m, ?_, ?_, ?_⟩ (by omega)
    · rw [hshown, insertIdx_between, ← hc, Char.ofNat_toNat]
      simp [placed, hc]
    · simp [List.length_insertIdx, hpos, hf.placed_eq]
    · simp [hc]
    · exact Nat.le_succ_of_le hf.basic_le
    · have hbasic := hf.basic_le
      simp
      omega
  · -- The character is placed later.
    have hne : ¬ c.toNat < m ∧ ¬ c.toNat = m := by omega
    have hplace : e.place basic m c = e := by simp [Encoding.place, hne]
    refine ⟨[], by simp [hplace], fun rest label h code i shown fuel hf hfuel => ?_⟩
    rw [hplace] at h
    refine h code i shown fuel ⟨?_, hf.placed_eq, hf.code_le, ?_, hf.basic_le, hf.first_eq⟩
      (by simpa using hfuel)
    · simp [hf.shown_eq, placed, hc.not_ge, hne]
    · simp [hf.delta_eq, hc.not_ge]

/-- The writer goes over the rest of the label for a code. -/
lemma leadsTo_foldl (basic m : Nat) (front behind : List Char) (e : Encoding) :
    ∃ ds, (behind.foldl (Encoding.place basic m) e).digits = ds.reverse ++ e.digits ∧
      ∀ rest label,
        LeadsTo basic m (front ++ behind) [] (behind.foldl (Encoding.place basic m) e) rest label →
          LeadsTo basic m front behind e (ds ++ rest) label := by
  induction behind generalizing front e with
  | nil => exact ⟨[], rfl, fun rest label h => by simpa using h⟩
  | cons c behind ih =>
    obtain ⟨ds, hdigits, hstep⟩ := leadsTo_place basic m front behind e c
    obtain ⟨ds', hdigits', hrun⟩ := ih (front ++ [c]) (e.place basic m c)
    refine ⟨ds ++ ds', by simp [hdigits, hdigits'], fun rest label h => ?_⟩
    rw [List.append_assoc]
    exact hstep _ label (hrun rest label (by simpa using h))

/-- From one code to the next that occurs in the label. -/
lemma Follows.skip {basic m m' code i : Nat} {label shown : List Char} {e : Encoding}
    (h : Follows basic m [] label e code i shown) (hm : m ≤ m')
    (hbetween : ∀ c ∈ label, c.toNat < m ∨ m' ≤ c.toNat) :
    Follows basic m' [] label { e with delta := e.delta + (m' - m) * (e.placed + 1) } code i
      shown where
  shown_eq := by
    simp only [h.shown_eq, placed, List.filter_nil, List.nil_append]
    refine List.filter_congr fun c hc => ?_
    have := hbetween c hc
    simp
    omega
  placed_eq := h.placed_eq
  code_le := h.code_le.trans hm
  delta_eq := by
    have hdelta := h.delta_eq
    have hsplit : m' - code = (m - code) + (m' - m) := by
      have := h.code_le
      omega
    simp only [h.placed_eq, List.filter_nil, List.length_nil] at hdelta ⊢
    rw [hsplit, Nat.add_mul]
    omega
  basic_le := h.basic_le
  first_eq := h.first_eq

/-- From the end of the label for one code to its start for the next. -/
lemma Follows.turn {basic m code i : Nat} {label shown : List Char} {e : Encoding}
    (h : Follows basic m label [] e code i shown) :
    Follows basic (m + 1) [] label { e with delta := e.delta + 1 } code i shown where
  shown_eq := by
    simp only [h.shown_eq, placed, Nat.lt_succ_iff, List.filter_nil, List.append_nil,
      List.nil_append]
  placed_eq := h.placed_eq
  code_le := Nat.le_succ_of_le h.code_le
  delta_eq := by
    have hdelta := h.delta_eq
    have hall : shown.length = (label.filter (·.toNat ≤ m)).length := by simp [h.shown_eq, placed]
    have hsplit : m + 1 - code = (m - code) + 1 := by
      have := h.code_le
      omega
    simp only [List.filter_nil, List.length_nil, ← hall] at hdelta ⊢
    rw [hsplit, Nat.add_mul]
    omega
  basic_le := h.basic_le
  first_eq := h.first_eq

lemma leadsTo_codes (label : List Char) (basic : Nat) (codes : List Nat) (least : Nat)
    (e : Encoding) (hsorted : codes.Pairwise (· < ·)) (hleast : ∀ m ∈ codes, least ≤ m)
    (hcodes : ∀ c ∈ label, c.toNat < least ∨ c.toNat ∈ codes) :
    ∃ ds, (encodeCodes label basic codes least e).digits = ds.reverse ++ e.digits ∧
      LeadsTo basic least [] label e ds label := by
  induction codes generalizing least e with
  | nil =>
    refine ⟨[], rfl, fun code i shown fuel hf _ => ?_⟩
    have hall : shown = label := by
      rw [hf.shown_eq, placed, List.filter_nil, List.nil_append, List.filter_eq_self]
      simpa using hcodes
    rw [insertFrom, hall]
  | cons m codes ih =>
    obtain ⟨hfirst, hsorted⟩ := List.pairwise_cons.1 hsorted
    have hm : least ≤ m := hleast m (by simp)
    obtain ⟨ds, hdigits, hrun⟩ :=
      leadsTo_foldl basic m [] label { e with delta := e.delta + (m - least) * (e.placed + 1) }
    set e' := label.foldl (Encoding.place basic m)
      { e with delta := e.delta + (m - least) * (e.placed + 1) } with he'
    have hbehind : ∀ c ∈ label, c.toNat < m + 1 ∨ c.toNat ∈ codes := by
      intro c hc
      rcases hcodes c hc with h | h
      · omega
      · rcases List.mem_cons.1 h with h | h
        · omega
        · exact .inr h
    have hbetween : ∀ c ∈ label, c.toNat < least ∨ m ≤ c.toNat := by
      intro c hc
      refine (hcodes c hc).imp_right fun h => ?_
      rcases List.mem_cons.1 h with h | h
      · exact h.ge
      · exact (hfirst _ h).le
    obtain ⟨ds', hdigits', hrest⟩ :=
      ih (m + 1) { e' with delta := e'.delta + 1 } hsorted (fun n hn => hfirst n hn) hbehind
    refine ⟨ds ++ ds', ?_, fun code i shown fuel hf hfuel => ?_⟩
    · rw [encodeCodes, ← he', hdigits', hdigits]
      simp
    · have hturn : LeadsTo basic m label [] e' ds' label := fun code i shown fuel hf hfuel =>
        hrest code i shown fuel hf.turn hfuel
      exact hrun ds' label hturn code i shown fuel (hf.skip hm hbetween) hfuel

/-! ### Whole labels -/

lemma pairwise_eraseDups {codes : List Nat} (h : codes.Pairwise (· ≤ ·)) :
    codes.eraseDups.Pairwise (· < ·) := by
  induction hlength : codes.length using Nat.strongRecOn generalizing codes with
  | ind k ih =>
    cases codes with
    | nil => simp
    | cons n codes =>
      obtain ⟨hfirst, hrest⟩ := List.pairwise_cons.1 h
      rw [List.eraseDups_cons, List.pairwise_cons]
      refine ⟨fun m hm => ?_, ih _ ?_ (hrest.sublist List.filter_sublist) rfl⟩
      · obtain ⟨hmem, hne⟩ := List.mem_filter.1 (List.mem_eraseDups.1 hm)
        have := hfirst m hmem
        simp at hne
        omega
      · have := List.length_filter_le (fun b => !b == n) codes
        simp only [List.length_cons] at hlength
        omega

lemma codes_sorted (codes : List Nat) : codes.mergeSort.eraseDups.Pairwise (· < ·) := by
  have h : codes.mergeSort.Pairwise fun a b => decide (a ≤ b) = true :=
    List.pairwise_mergeSort (by simp; omega) (by simp; omega) codes
  exact pairwise_eraseDups (by simpa using h)

/-- All that is written is digits. -/
def InDigits (cs : List Char) : Prop := ∀ c ∈ cs, ∃ d < 36, c = digitChar d

lemma inDigits_place {e : Encoding} (h : InDigits e.digits) (basic m : Nat) (c : Char) :
    InDigits (e.place basic m c).digits := by
  unfold Encoding.place
  split_ifs
  · exact h
  · intro d hd
    rcases List.mem_append.1 hd with hd | hd
    · exact mem_distanceDigits (List.mem_reverse.1 hd)
    · exact h d hd
  · exact h

lemma inDigits_encodeCodes (label : List Char) (basic : Nat) (codes : List Nat) (least : Nat)
    {e : Encoding} (h : InDigits e.digits) :
    InDigits (encodeCodes label basic codes least e).digits := by
  induction codes generalizing least e with
  | nil => exact h
  | cons m codes ih =>
    have hfold : ∀ (cs : List Char) (e : Encoding), InDigits e.digits →
        InDigits (cs.foldl (Encoding.place basic m) e).digits := by
      intro cs
      induction cs with
      | nil => exact fun e h => h
      | cons c cs ih => exact fun e h => ih _ (inDigits_place h basic m c)
    exact ih (m + 1) (hfold label _ h)

/-- The ASCII characters of a label, and the digits for the others. -/
lemma exists_digits (label : List Char) :
    ∃ ds, InDigits ds ∧ encode label = label.filter (·.toNat < 128) ++
        (if (label.filter (·.toNat < 128)).isEmpty then [] else ['-']) ++ ds ∧
      insertFrom 72 128 0 (label.filter (·.toNat < 128)) ds.length ds = some label := by
  set plain := label.filter (·.toNat < 128) with hplain
  set codes := ((label.map Char.toNat).filter (128 ≤ ·)).mergeSort.eraseDups with hcodes
  have hmem : ∀ m, m ∈ codes ↔ 128 ≤ m ∧ ∃ c ∈ label, c.toNat = m := by
    intro m
    simp [hcodes, List.mem_eraseDups, and_comm]
  obtain ⟨ds, hdigits, hleads⟩ := leadsTo_codes label plain.length codes 128
    ⟨[], 0, 72, plain.length⟩ (codes_sorted _) (fun m hm => ((hmem m).1 hm).1) fun c hc =>
      (Nat.lt_or_ge c.toNat 128).imp_right fun h => (hmem _).2 ⟨h, c, hc, rfl⟩
  rw [List.append_nil] at hdigits
  refine ⟨ds, ?_, ?_, hleads 128 0 plain ds.length ⟨?_, rfl, Nat.le_refl _, ?_, Nat.le_refl _, ?_⟩
    (Nat.le_refl _)⟩
  · have h := inDigits_encodeCodes label plain.length codes 128
      (e := ⟨[], 0, 72, plain.length⟩) (by simp [InDigits])
    rw [hdigits] at h
    exact fun c hc => h c (List.mem_reverse.2 hc)
  · rw [encode, ← hplain, ← hcodes, hdigits, List.reverse_reverse]
  · simp [placed, hplain]
  · simp
  · simp

lemma mem_encode {label : List Char} {c : Char} (h : c ∈ encode label) :
    c ∈ label ∧ c.toNat < 128 ∨ c = '-' ∨ ∃ d < 36, c = digitChar d := by
  obtain ⟨ds, hdigits, heq, -⟩ := exists_digits label
  rw [heq, List.mem_append, List.mem_append] at h
  rcases h with (h | h) | h
  · exact .inl (by simpa using h)
  · refine .inr (.inl ?_)
    split_ifs at h
    · simp at h
    · exact List.mem_singleton.1 h
  · exact .inr (.inr (hdigits c h))

/-- The reader puts no ASCII characters in. -/
lemma mem_of_insertFrom {bias code i fuel : Nat} {shown cs label : List Char}
    (h : insertFrom bias code i shown fuel cs = some label) (hcode : 128 ≤ code) {c : Char}
    (hc : c ∈ label) : c ∈ shown ∨ 128 ≤ c.toNat := by
  induction fuel generalizing bias code i shown cs with
  | zero =>
    cases cs with
    | nil =>
      rw [insertFrom] at h
      cases h
      exact .inl hc
    | cons d cs => simp [insertFrom] at h
  | succ fuel ih =>
    cases cs with
    | nil =>
      rw [insertFrom] at h
      cases h
      exact .inl hc
    | cons d cs =>
      rw [insertFrom] at h
      · obtain ⟨⟨j, rest⟩, -, hrest⟩ := Option.bind_eq_some_iff.1 h
        simp only at hrest
        split_ifs at hrest with hvalid
        · set m := code + j / (shown.length + 1)
          have hm : 128 ≤ m := hcode.trans (Nat.le_add_right _ _)
          rcases ih hrest hm with hmem | hmem
          · rcases List.eq_or_mem_of_mem_insertIdx hmem with heq | hmem
            · have hchar : m.isValidChar := by
                simp only [Bool.or_eq_true, Bool.and_eq_true, decide_eq_true_eq] at hvalid
                exact hvalid
              refine .inr ?_
              rwa [heq, Text.toNat_ofNat hchar]
            · exact .inl hmem
          · exact .inr hmem
      · simp

lemma mem_of_decode? {code label : List Char} (h : decode? code = some label) {c : Char}
    (hc : c ∈ label) : c ∈ code ∨ 128 ≤ c.toNat :=
  (mem_of_insertFrom h (Nat.le_refl 128) hc).imp_left List.mem_of_mem_take

/-- **Punycode is read as it is written.** -/
theorem decode?_encode (label : List Char) : decode? (encode label) = some label := by
  obtain ⟨ds, hdigits, heq, hread⟩ := exists_digits label
  have hhyphen : ∀ c ∈ ds.reverse, (c != '-') = true := by
    have hall : ∀ d < 36, (digitChar d != '-') = true := by decide
    intro c hc
    obtain ⟨d, hd, rfl⟩ := hdigits c (List.mem_reverse.1 hc)
    exact hall d hd
  have htake : ∀ rest : List Char, (∀ c ∈ rest.head?, (c != '-') = false) →
      (ds.reverse ++ rest).takeWhile (· != '-') = ds.reverse := fun rest =>
    Text.takeWhile_append_of_all hhyphen
  generalize label.filter (·.toNat < 128) = plain at heq hread
  have hlast : ((encode label).reverse.takeWhile (· != '-')).reverse = ds ∧
      (encode label).take ((encode label).length - ds.length - 1) = plain := by
    rw [heq]
    cases plain with
    | nil =>
      have h := htake [] (by simp)
      rw [List.append_nil] at h
      simp [h]
    | cons c cs =>
      have h := htake ('-' :: (c :: cs).reverse) (by simp)
      refine ⟨by simpa using congrArg List.reverse h, ?_⟩
      have hlength : (c :: cs ++ ['-'] ++ ds).length - ds.length - 1 = (c :: cs).length := by
        simp only [List.length_append, List.length_cons, List.length_nil]
        omega
      change (c :: cs ++ ['-'] ++ ds).take ((c :: cs ++ ['-'] ++ ds).length - ds.length - 1) = _
      rw [hlength, List.append_assoc, List.take_left]
  rw [decode?, hlast.1, hlast.2, hread]

end Estate.Domain.Punycode
