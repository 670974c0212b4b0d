import Mathlib.Data.List.Forall2
import Estate.Flight
import Estate.Proofs.Json.Words
import Estate.Proofs.Text.Cutting

/-!
What the scripts of a page push is what their payloads stand for.

The calls in a page are those texts of the form of a call that stand one behind the other, wherever
one starts outside the one before. A payload is a string literal; a character of it stands as it is,
behind a backslash, or by its code.
-/

namespace Estate.Flight

open Json (Quotable)

/-! ### Calls -/

/-- A call that pushes the payload: blanks may stand around the number, and around the literal. -/
inductive Call (body : List Char) : List Char → Prop where
  | mk {g₁ k g₂ g₃ g₄ : List Char} (hg₁ : ∀ c ∈ g₁, Text.isBlank c)
    (hk : k ≠ [] ∧ ∀ c ∈ k, Text.isDecimalDigit c) (hg₂ : ∀ c ∈ g₂, Text.isBlank c)
    (hg₃ : ∀ c ∈ g₃, Text.isBlank c) (hbody : Quotable body) (hg₄ : ∀ c ∈ g₄, Text.isBlank c) :
    Call body ("self.__next_f.push([".toList ++ (g₁ ++ (k ++ (g₂ ++ ',' :: (g₃ ++
      '"' :: (body ++ '"' :: (g₄ ++ [']', ')'])))))))

/-- The calls in a text push the payloads, one after the other, and there is no other call. -/
inductive Pushed : List (List Char) → List Char → Prop where
  | nil : Pushed [] []
  | other {c : Char} {cs : List Char} {bodies : List (List Char)}
    (hc : ∀ body call rest, Call body call → c :: cs ≠ call ++ rest) (h : Pushed bodies cs) :
    Pushed bodies (c :: cs)
  | call {body call cs : List Char} {bodies : List (List Char)} (hc : Call body call)
    (h : Pushed bodies cs) : Pushed (body :: bodies) (call ++ cs)

lemma quoted?_append {body : List Char} (h : Quotable body) (rest : List Char) :
    quoted? (body ++ '"' :: rest) = some (body, rest) := by
  induction h with
  | nil => rfl
  | @plain c cs hq hb _ ih =>
    rw [List.cons_append]
    unfold quoted?
    split <;> simp_all
  | escaped c _ ih => simp [quoted?, ih]

lemma of_quoted? {cs body rest : List Char} (h : quoted? cs = some (body, rest)) :
    Quotable body ∧ cs = body ++ '"' :: rest := by
  fun_induction quoted? cs generalizing body with
  | case1 => cases h
  | case2 cs =>
    cases h
    exact ⟨.nil, rfl⟩
  | case3 c cs ih =>
    obtain ⟨⟨body', rest'⟩, hread, h⟩ := Option.map_eq_some_iff.1 h
    cases h
    obtain ⟨hbody, rfl⟩ := ih hread
    exact ⟨.escaped c hbody, rfl⟩
  | case4 => cases h
  | case5 c cs hquote _ hback ih =>
    obtain ⟨⟨body', rest'⟩, hread, h⟩ := Option.map_eq_some_iff.1 h
    cases h
    obtain ⟨hbody, rfl⟩ := ih hread
    exact ⟨.plain hquote (by simpa using hback) hbody, rfl⟩

lemma dropBlanks_append {g : List Char} (hg : ∀ c ∈ g, Text.isBlank c) {c : Char}
    (hc : Text.isBlank c = false) (rest : List Char) : dropBlanks (g ++ c :: rest) = c :: rest :=
  Text.dropWhile_append_of_all hg (by simpa using hc)

lemma dropDigits?_append {k : List Char} (hk : k ≠ [] ∧ ∀ c ∈ k, Text.isDecimalDigit c)
    {rest : List Char} (hrest : ∀ c ∈ rest.head?, Text.isDecimalDigit c = false) :
    dropDigits? (k ++ rest) = some rest := by
  obtain ⟨c, k', rfl⟩ := List.exists_cons_of_ne_nil hk.1
  have hc : Text.isDecimalDigit c := hk.2 c (by simp)
  rw [dropDigits?, if_pos (by simpa using hc), Text.dropWhile_append_of_all hk.2 hrest]

lemma of_dropDigits? {cs rest : List Char} (h : dropDigits? cs = some rest) :
    ∃ k, (k ≠ [] ∧ ∀ c ∈ k, Text.isDecimalDigit c) ∧ cs = k ++ rest := by
  unfold dropDigits? at h
  split at h
  · next hhead =>
    cases h
    obtain ⟨k, hk, hsplit⟩ := Text.exists_split Text.isDecimalDigit cs
    refine ⟨k, ⟨?_, hk⟩, hsplit⟩
    rintro rfl
    rw [List.nil_append] at hsplit
    cases cs with
    | nil => cases hhead
    | cons c cs =>
      have hc : Text.isDecimalDigit c := by simpa using hhead
      rw [List.dropWhile_cons_of_pos hc] at hsplit
      have hlength := congrArg List.length hsplit
      have hle := (List.dropWhile_sublist Text.isDecimalDigit (l := cs)).length_le
      simp only [List.length_cons] at hlength
      omega
  · cases h

lemma isBlank_of_isDecimalDigit {c : Char} (h : Text.isDecimalDigit c) :
    Text.isBlank c = false := by
  cases hblank : Text.isBlank c with
  | false => rfl
  | true =>
    rw [Text.isDecimalDigit_of_isBlank hblank] at h
    cases h

lemma isDecimalDigit_head {g : List Char} (hg : ∀ c ∈ g, Text.isBlank c) (cs : List Char) :
    ∀ c ∈ (g ++ ',' :: cs).head?, Text.isDecimalDigit c = false := by
  intro c hc
  cases g with
  | nil =>
    obtain rfl : ',' = c := by simpa using hc
    decide +kernel
  | cons b g =>
    obtain rfl : b = c := by simpa using hc
    exact Text.isDecimalDigit_of_isBlank (hg b (by simp))

lemma call?_append {body call : List Char} (h : Call body call) (rest : List Char) :
    call? (call ++ rest) = some (body, rest) := by
  obtain ⟨hg₁, hk, hg₂, hg₃, hbody, hg₄⟩ := h
  next g₁ k g₂ g₃ g₄ =>
  have hdigits := dropDigits?_append hk
    (isDecimalDigit_head hg₂ (g₃ ++ '"' :: (body ++ '"' :: (g₄ ++ ']' :: ')' :: rest))))
  have hafter (c : Char) (cs : List Char) : Text.after? [c] (c :: cs) = some cs :=
    Text.after?_append [c] cs
  obtain ⟨d, k', rfl⟩ := List.exists_cons_of_ne_nil hk.1
  have hd : Text.isBlank d = false := isBlank_of_isDecimalDigit (hk.2 d (by simp))
  unfold call?
  simp only [List.append_assoc, List.cons_append, List.nil_append, Text.after?_append,
    dropBlanks_append hg₁ hd, Option.bind_eq_bind, Option.bind_some] at hdigits ⊢
  rw [hdigits, Option.bind_some, dropBlanks_append hg₂ rfl, hafter, Option.bind_some,
    dropBlanks_append hg₃ rfl, hafter, Option.bind_some, quoted?_append hbody, Option.bind_some,
    dropBlanks_append hg₄ rfl]
  rfl

lemma exists_blanks (cs : List Char) :
    ∃ g, (∀ c ∈ g, Text.isBlank c) ∧ cs = g ++ dropBlanks cs :=
  Text.exists_split Text.isBlank cs

lemma of_call? {cs body rest : List Char} (h : call? cs = some (body, rest)) :
    ∃ call, Call body call ∧ cs = call ++ rest := by
  unfold call? at h
  simp only [Option.bind_eq_bind, Option.bind_eq_some_iff] at h
  obtain ⟨cs₁, hstart, cs₂, hdigits, cs₃, hcomma, cs₄, hquote, ⟨body', cs₅⟩, hbody, cs₆, hend, h⟩ :=
    h
  cases h
  obtain ⟨g₁, hg₁, hcs₁⟩ := exists_blanks cs₁
  obtain ⟨k, hk, hdigits⟩ := of_dropDigits? hdigits
  obtain ⟨g₂, hg₂, hcs₂⟩ := exists_blanks cs₂
  obtain ⟨g₃, hg₃, hcs₃⟩ := exists_blanks cs₃
  obtain ⟨hquotable, hcs₄⟩ := of_quoted? hbody
  obtain ⟨g₄, hg₄, hcs₅⟩ := exists_blanks cs₅
  rw [Text.after?_eq_some] at hstart hcomma hquote hend
  refine ⟨_, .mk hg₁ hk hg₂ hg₃ hquotable hg₄, ?_⟩
  rw [hstart, hcs₁, hdigits, hcs₂, hcomma, hcs₃, hquote, hcs₄, hcs₅, hend]
  simp only [List.append_assoc, List.cons_append, List.nil_append]

lemma callsFrom_skip (cs rest : List Char) :
    callsFrom cs.length (cs ++ rest) = callsFrom 0 rest := by
  induction cs with
  | nil => rfl
  | cons c cs ih => exact ih

lemma Call.eq_cons {body call : List Char} (h : Call body call) : ∃ cs, call = 's' :: cs := by
  obtain ⟨-, -, -, -, -, -⟩ := h
  exact ⟨_, rfl⟩

lemma callsFrom_call {body call : List Char} (h : Call body call) (rest : List Char) :
    callsFrom 0 (call ++ rest) = body :: callsFrom 0 rest := by
  have hcall := call?_append h rest
  obtain ⟨cs, rfl⟩ := h.eq_cons
  rw [List.cons_append] at hcall ⊢
  have hskip : (cs ++ rest).length - rest.length = cs.length := by simp
  simp only [callsFrom, hcall, hskip, callsFrom_skip]

lemma callsFrom_other {c : Char} {cs : List Char} (h : call? (c :: cs) = none) :
    callsFrom 0 (c :: cs) = callsFrom 0 cs := by
  simp only [callsFrom, h]

/-- The scan of a page finds the payloads of the calls in it, in their order. -/
theorem callsFrom_eq_iff {page : List Char} {bodies : List (List Char)} :
    callsFrom 0 page = bodies ↔ Pushed bodies page := by
  constructor
  · induction hn : page.length using Nat.strongRecOn generalizing page bodies with
    | ind n ih =>
      rintro rfl
      cases page with
      | nil => exact .nil
      | cons c cs =>
        cases hread : call? (c :: cs) with
        | none =>
          rw [callsFrom_other hread]
          refine .other (fun body call rest hcall heq => ?_) (ih cs.length ?_ rfl rfl)
          · rw [heq, call?_append hcall] at hread
            cases hread
          · simp [← hn]
        | some read =>
          obtain ⟨call, hcall, heq⟩ := of_call? hread
          rw [heq, callsFrom_call hcall]
          refine .call hcall (ih read.2.length ?_ rfl rfl)
          obtain ⟨ds, rfl⟩ := hcall.eq_cons
          simp only [← hn, heq, List.length_append, List.length_cons]
          omega
  · intro h
    induction h with
    | nil => rfl
    | @other c cs bodies hc h ih =>
      rw [callsFrom_other, ih]
      refine Option.eq_none_iff_forall_not_mem.2 fun read hread => ?_
      obtain ⟨call, hcall, heq⟩ := of_call? (Option.mem_def.1 hread)
      exact hc read.1 call read.2 hcall heq
    | call hc _ ih => rw [callsFrom_call hc, ih]

/-! ### Payloads -/

/-- The ways to write a character between quotes, given the short escapes. -/
inductive Spelling (short? : Char → Option Char) (c : Char) : List Char → Prop where
  | plain (hq : c ≠ '"') (hb : c ≠ '\\') : Spelling short? c [c]
  | short {e : Char} (h : short? e = some c) : Spelling short? c ['\\', e]
  | code {digits : List Char} (hdigits : digits.length = 4 ∧ digits.all isHex)
    (hc : Text.ofHex digits = c.toNat) : Spelling short? c ('\\' :: 'u' :: digits)

/-- The two codes that together stand for a character outside the basic plane. -/
inductive Paired (c : Char) : List Char → Prop where
  | mk {high low : List Char} (hhigh : high.length = 4 ∧ high.all isHex)
    (hlow : low.length = 4 ∧ low.all isHex) (hc : 0x10000 ≤ c.toNat)
    (hcode : Text.ofHex high = 0xD800 + (c.toNat - 0x10000) / 0x400 ∧
      Text.ofHex low = 0xDC00 + (c.toNat - 0x10000) % 0x400) :
    Paired c ('\\' :: 'u' :: high ++ '\\' :: 'u' :: low)

/-- A text is spelled character by character. -/
def Spelled (spelling : Char → List Char → Prop) (text body : List Char) : Prop :=
  ∃ ws, List.Forall₂ spelling text ws ∧ ws.flatten = body

/-- The short escapes that payloads know: those of JSON but for backspace and form feed. -/
def shortEscape? (e : Char) : Option Char :=
  if e = 'b' ∨ e = 'f' then none else Json.simpleEscape? e

lemma escapedChar_of_shortEscape? {e c : Char} (h : shortEscape? e = some c) :
    escapedChar e = c ∧ e ≠ 'u' := by
  unfold shortEscape? at h
  split at h
  · cases h
  · next hne =>
    unfold Json.simpleEscape? at h
    split at h <;> cases h <;> simp_all [escapedChar]

lemma codeText_ofHex {digits : List Char} {c : Char} (h : Text.ofHex digits = c.toNat) :
    codeText digits = [c] := by
  unfold codeText
  simp only [h, Char.ofNat_toNat]
  rw [if_neg (by simpa using Text.toNat_not_surrogate c)]

/-- A character is read as it is spelled. -/
lemma unescape_spelling {c : Char} {w : List Char} (h : Spelling shortEscape? c w)
    (rest : List Char) : unescape (w ++ rest) = c :: unescape rest := by
  cases h with
  | plain hq hb => simp [unescape, hb]
  | @short e h =>
    obtain ⟨hchar, hu⟩ := escapedChar_of_shortEscape? h
    simp [unescape, hu, hchar]
  | @code digits hdigits hc =>
    obtain ⟨hlength, hhex⟩ := hdigits
    match digits, hlength with
    | [d₁, d₂, d₃, d₄], _ =>
      simp only [List.cons_append, List.nil_append, unescape, hhex, if_true, codeText_ofHex hc]

lemma unescape_spelled {text body : List Char} (h : Spelled (Spelling shortEscape?) text body) :
    unescape body = text := by
  obtain ⟨ws, h, rfl⟩ := h
  induction h with
  | nil => rfl
  | cons hc _ ih => rw [List.flatten_cons, unescape_spelling hc, ih]

/-- What is pushed by the calls of a page is what their texts, line by line, would be read as. -/
theorem ofSource_pushed {page : String} {bodies texts : List (List Char)}
    (hcalls : Pushed bodies page.toList)
    (hspelled : List.Forall₂ (Spelled (Spelling shortEscape?)) texts bodies) :
    ofSource page = ofPayload (['\n'].intercalate texts) := by
  have htexts : bodies.map unescape = texts := by
    clear hcalls
    induction hspelled with
    | nil => rfl
    | cons h _ ih => rw [List.map_cons, unescape_spelled h, ih]
  rw [ofSource, callsFrom_eq_iff.2 hcalls, htexts]

theorem ofSource_pushed_twice :
    let page := "<p>self.__next_f.push([1,\"1:\\\"\\u00e9\\\\n\\\"\"])</p>" ++
      "self.__next_f.push([ 20 , \"2:7\" ])"
    let bodies := ["1:\\\"\\u00e9\\\\n\\\"".toList, "2:7".toList]
    let texts := ["1:\"é\\n\"".toList, "2:7".toList]
    Pushed bodies page.toList ∧ List.Forall₂ (Spelled (Spelling shortEscape?)) texts bodies ∧
      ofSource page = ofPayload (['\n'].intercalate texts) := by
  intro page bodies texts
  have hpage : Pushed bodies page.toList := callsFrom_eq_iff.1 (by decide +kernel)
  have hplain {c : Char} (h : c ≠ '"' ∧ c ≠ '\\') : Spelling shortEscape? c [c] := .plain h.1 h.2
  have hfirst : Spelled (Spelling shortEscape?) "1:\"é\\n\"".toList
      "1:\\\"\\u00e9\\\\n\\\"".toList := by
    refine ⟨[['1'], [':'], ['\\', '"'], "\\u00e9".toList, ['\\', '\\'], ['n'], ['\\', '"']],
      ?_, rfl⟩
    exact .cons (hplain (by decide)) (.cons (hplain (by decide)) (.cons (.short rfl)
      (.cons (.code ⟨rfl, rfl⟩ rfl) (.cons (.short rfl) (.cons (hplain (by decide))
        (.cons (.short rfl) .nil))))))
  have hsecond : Spelled (Spelling shortEscape?) "2:7".toList "2:7".toList :=
    ⟨[['2'], [':'], ['7']], .cons (hplain (by decide)) (.cons (hplain (by decide))
      (.cons (hplain (by decide)) .nil)), rfl⟩
  have htexts : List.Forall₂ (Spelled (Spelling shortEscape?)) texts bodies :=
    .cons hfirst (.cons hsecond .nil)
  exact ⟨hpage, htexts, ofSource_pushed hpage htexts⟩

/-- The spellings of a character in JSON texts. -/
def JsonSpelling (c : Char) (w : List Char) : Prop := Spelling Json.simpleEscape? c w ∨ Paired c w

/-- A form feed written by its short escape is read as a letter, and a character written by two
codes is not read. -/
theorem ofSource_misread :
    (∃ page body text, Pushed [body] page.toList ∧ Spelled JsonSpelling text body ∧
      (ofSource page).keys = [] ∧ (ofPayload text).keys = ["1"]) ∧
    (∃ page body text, Pushed [body] page.toList ∧ Spelled JsonSpelling text body ∧
      ((ofSource page).raw? "1").bind Json.Value.string? = some "" ∧
      ((ofPayload text).raw? "1").bind Json.Value.string? = some "😀") := by
  have hplain {c : Char} (h : c ≠ '"' ∧ c ≠ '\\') : JsonSpelling c [c] := .inl (.plain h.1 h.2)
  constructor
  · refine ⟨"self.__next_f.push([1,\"1:7\\f\"])", "1:7\\f".toList, "1:7\x0c".toList,
      callsFrom_eq_iff.1 (by decide +kernel),
      ⟨[['1'], [':'], ['7'], ['\\', 'f']], ?_, rfl⟩, by decide +kernel, by decide +kernel⟩
    exact .cons (hplain (by decide)) (.cons (hplain (by decide)) (.cons (hplain (by decide))
      (.cons (.inl (.short rfl)) .nil)))
  · refine ⟨"self.__next_f.push([1,\"1:\\\"\\uD83D\\uDE00\\\"\"])",
      "1:\\\"\\uD83D\\uDE00\\\"".toList, "1:\"😀\"".toList,
      callsFrom_eq_iff.1 (by decide +kernel),
      ⟨[['1'], [':'], ['\\', '"'], "\\uD83D\\uDE00".toList, ['\\', '"']], ?_, rfl⟩,
      by decide +kernel, by decide +kernel⟩
    have hface : Paired '😀' "\\uD83D\\uDE00".toList :=
      @Paired.mk '😀' ['D', '8', '3', 'D'] ['D', 'E', '0', '0'] ⟨rfl, rfl⟩ ⟨rfl, rfl⟩
        (by decide) ⟨rfl, rfl⟩
    exact .cons (hplain (by decide)) (.cons (hplain (by decide)) (.cons (.inl (.short rfl))
      (.cons (.inr hface) (.cons (.inl (.short rfl)) .nil))))

end Estate.Flight
