import Mathlib.Tactic.Lemma
import Estate.Proofs.Text.Ascii
import Estate.Proofs.Text.Bytes

/-!
Percent encoding leaves what it has written as it is, and writes no points that were not there.
-/

namespace Estate.Text

/-- A character that is written as it is. -/
def leaves (set : List Char) (c : Char) : Bool := !(c < ' ' || '\x7e' < c || set.contains c)

lemma leaves_iff {set : List Char} {c : Char} :
    leaves set c ↔ 32 ≤ c.toNat ∧ c.toNat ≤ 126 ∧ c ∉ set := by
  simp [leaves, Char.lt_def, UInt32.lt_iff_toNat_lt, and_assoc]

lemma forall_leaves {p : Char → Prop} {set : List Char}
    (h : ∀ n < 127, leaves set (.ofNat n) → p (.ofNat n)) {c : Char} (hc : leaves set c) : p c :=
  forall_below (p := fun c => leaves set c → p c) h (Nat.lt_succ_of_le (leaves_iff.1 hc).2.1) hc

/-- A set that leaves the characters that spell bytes as they are. -/
def Spells (set : List Char) : Prop := ∀ c ∈ "%0123456789ABCDEF".toList, leaves set c

instance (set : List Char) : Decidable (Spells set) := List.decidableBAll _ _

variable {set cs : List Char}

lemma percentEncode_cons (set : List Char) (c : Char) (cs : List Char) :
    percentEncode set (c :: cs) =
      (if leaves set c then [c] else (String.utf8EncodeChar c).flatMap percentByte) ++
        percentEncode set cs := by
  rw [percentEncode, List.flatMap_cons, ← percentEncode, leaves]
  cases c < ' ' || '\x7e' < c || set.contains c <;> rfl

/-- Text that holds nothing to encode is written as it is. -/
lemma percentEncode_of_leaves (h : ∀ c ∈ cs, leaves set c) : percentEncode set cs = cs := by
  induction cs with
  | nil => rfl
  | cons c cs ih =>
    obtain ⟨hc, hcs⟩ := List.forall_mem_cons.1 h
    rw [percentEncode_cons, if_pos hc, ih hcs, List.singleton_append]

lemma mem_percentByte {b : UInt8} {c : Char} (h : c ∈ percentByte b) :
    c ∈ "%0123456789ABCDEF".toList := by
  have hdigit : ∀ d < 16, upperHexDigit d ∈ "%0123456789ABCDEF".toList := by decide
  have hb := b.toNat_lt
  simp only [percentByte, List.mem_cons, List.not_mem_nil, or_false] at h
  rcases h with rfl | rfl | rfl
  · decide
  · exact hdigit _ (by omega)
  · exact hdigit _ (by omega)

/-- What is written is left of the text, or spells bytes. -/
lemma mem_percentEncode {c : Char} (h : c ∈ percentEncode set cs) :
    c ∈ cs ∧ leaves set c ∨ c ∈ "%0123456789ABCDEF".toList := by
  induction cs with
  | nil => simp [percentEncode] at h
  | cons d cs ih =>
    rw [percentEncode_cons, List.mem_append] at h
    rcases h with h | h
    · split_ifs at h with hd
      · rw [List.mem_singleton.1 h]
        exact .inl ⟨List.mem_cons_self, hd⟩
      · obtain ⟨b, -, hb⟩ := List.mem_flatMap.1 h
        exact .inr (mem_percentByte hb)
    · exact (ih h).imp_left fun hc => ⟨List.mem_cons_of_mem d hc.1, hc.2⟩

/-- Nothing is left to encode in what is written. -/
lemma leaves_percentEncode (hset : Spells set) : ∀ c ∈ percentEncode set cs, leaves set c := by
  intro c hc
  rcases mem_percentEncode hc with ⟨-, hleft⟩ | hspells
  · exact hleft
  · exact hset c hspells

/-- Text without percent signs stands for its own bytes. -/
lemma percentDecode_plain (h : '%' ∉ cs) : percentDecode cs = cs.flatMap String.utf8EncodeChar := by
  induction cs with
  | nil => rfl
  | cons c cs ih =>
    rw [List.mem_cons, not_or] at h
    rw [percentDecode, ih h.2, List.flatMap_cons]
    rintro a b rest rfl -
    exact h.1 rfl

lemma ofBytes?_percentDecode (h : '%' ∉ cs) : ofBytes? (percentDecode cs) = some (.ofList cs) := by
  have hbytes := toBytes_eq_flatMap (.ofList cs)
  rw [String.toList_ofList] at hbytes
  rw [percentDecode_plain h, ← hbytes, ofBytes?_toBytes]

/-- What is written starts with a character left as it is, or with the first byte of one that is
not. -/
lemma percentEncode_eq_cons {x : Char} {rest : List Char} (h : percentEncode set cs = x :: rest) :
    (∃ cs', cs = x :: cs' ∧ percentEncode set cs' = rest) ∨
      ∃ c b bytes more, leaves set c = false ∧ String.utf8EncodeChar c = b :: bytes ∧
        x :: rest = percentByte b ++ more := by
  cases cs with
  | nil => simp [percentEncode] at h
  | cons c cs =>
    rw [percentEncode_cons] at h
    split_ifs at h with hc
    · obtain ⟨rfl, hrest⟩ := List.cons.inj h
      exact .inl ⟨cs, rfl, hrest⟩
    · obtain ⟨b, bytes, hbytes⟩ :=
        List.exists_cons_of_ne_nil (String.utf8EncodeChar_ne_nil (c := c))
      rw [hbytes, List.flatMap_cons, List.append_assoc] at h
      exact .inr ⟨c, b, bytes, _, by simpa using hc, hbytes, h.symm⟩

lemma exists_of_percentEncode {x : Char} {rest : List Char} (h : percentEncode set cs = x :: rest)
    (hx : x ≠ '%') : ∃ cs', cs = x :: cs' ∧ percentEncode set cs' = rest := by
  rcases percentEncode_eq_cons h with h | ⟨c, b, bytes, more, -, -, heq⟩
  · exact h
  · exact absurd (List.cons.inj heq).1 hx

lemma percentEncode_eq_nil (h : percentEncode set cs = []) : cs = [] := by
  cases cs with
  | nil => rfl
  | cons c cs =>
    rw [percentEncode_cons, List.append_eq_nil_iff] at h
    split_ifs at h
    · simp at h
    · obtain ⟨b, bytes, hbytes⟩ :=
        List.exists_cons_of_ne_nil (String.utf8EncodeChar_ne_nil (c := c))
      simp [hbytes, percentByte] at h

/-! ### Points -/

/-- Points, each written as it is or with a percent sign, in small letters. -/
inductive Points : List Char → Prop where
  | nil : Points []
  | plain {t} : Points t → Points ('.' :: t)
  | spelled {t} : Points t → Points ('%' :: '2' :: 'e' :: t)

lemma toList_toLower (cs : List Char) :
    (String.ofList cs).toLower.toList = cs.map Char.toLower := by
  change ((String.ofList cs).map Char.toLower).toList = _
  rw [String.toList_map, String.toList_ofList]

lemma eq_of_toLower {c d : Char} (hd : d < 'a') (h : c.toLower = d) : c = d := by
  by_cases hcapital : 'A'.val ≤ c.val ∧ c.val ≤ 'Z'.val
  · have hall : ∀ n < 91, 65 ≤ n → 'a' ≤ (Char.ofNat n).toLower := by decide
    have hletter := hall c.toNat (Nat.lt_succ_of_le hcapital.2) hcapital.1
    rw [Char.ofNat_toNat, h] at hletter
    exact absurd hd (Char.not_lt.2 hletter)
  · have hsame : c.toLower = c := dif_neg hcapital
    rw [← h, hsame]

/-- The first byte of an encoded character is not the one that stands for a point. -/
lemma head_utf8EncodeChar {c : Char} {b : UInt8} {bytes : List UInt8}
    (h : String.utf8EncodeChar c = b :: bytes) (hc : c ≠ '.') : b.toNat ≠ 46 := by
  have hne : c.toNat ≠ 46 := fun heq => hc (Char.toNat_inj.1 heq)
  -- Every byte of a longer form is at least 128.
  simp only [String.utf8EncodeChar, Char.toNat_val] at h
  split_ifs at h <;> cases h <;> simp only [UInt8.toNat_ofNat'] <;> omega

lemma exists_of_spelled {z : Char} {rest : List Char} (hset : leaves set '.')
    (h : percentEncode set cs = '%' :: '2' :: z :: rest) (hz : z.toLower = 'e') :
    ∃ cs', cs = '%' :: '2' :: z :: cs' ∧ percentEncode set cs' = rest := by
  rcases percentEncode_eq_cons h with ⟨cs', rfl, h'⟩ | ⟨c, b, bytes, more, hc, hbytes, heq⟩
  · have hletter : z ≠ '%' := by
      rintro rfl
      exact absurd hz (by decide)
    obtain ⟨behind, rfl, hbehind⟩ := exists_of_percentEncode h' (by decide)
    obtain ⟨last, rfl, hlast⟩ := exists_of_percentEncode hbehind hletter
    exact ⟨last, rfl, hlast⟩
  · have hdigits : ∀ d < 16, (upperHexDigit d = '2' → d = 2) ∧
        ((upperHexDigit d).toLower = 'e' → d = 14) := by decide
    have hlt := b.toNat_lt
    simp only [percentByte, List.cons_append, List.cons.injEq] at heq
    obtain ⟨-, htwo, he, -⟩ := heq
    have hhigh := (hdigits (b.toNat / 16) (by omega)).1 htwo.symm
    have hlow := (hdigits (b.toNat % 16) (by omega)).2 (he ▸ hz)
    refine absurd ?_ (head_utf8EncodeChar hbytes ?_)
    · omega
    · rintro rfl
      rw [hset] at hc
      cases hc

/-- Points in what is written were there before. -/
lemma points_of_percentEncode {t : List Char} (hset : leaves set '.') (ht : Points t)
    (h : (percentEncode set cs).map Char.toLower = t) : cs.map Char.toLower = t := by
  induction ht generalizing cs with
  | nil =>
    rw [percentEncode_eq_nil (List.map_eq_nil_iff.1 h)]
    rfl
  | plain ht ih =>
    obtain ⟨x, rest, hcs, hx, hrest⟩ := List.map_eq_cons_iff.1 h
    cases eq_of_toLower (by decide) hx
    obtain ⟨cs', rfl, hcs'⟩ := exists_of_percentEncode hcs (by decide)
    rw [List.map_cons, hx, ih (by rw [hcs', hrest])]
  | spelled ht ih =>
    obtain ⟨x, rest, hcs, hx, hrest⟩ := List.map_eq_cons_iff.1 h
    obtain ⟨y, rest, rfl, hy, hrest⟩ := List.map_eq_cons_iff.1 hrest
    obtain ⟨z, rest, rfl, hz, hlast⟩ := List.map_eq_cons_iff.1 hrest
    cases eq_of_toLower (by decide) hx
    cases eq_of_toLower (by decide) hy
    obtain ⟨cs', rfl, hcs'⟩ := exists_of_spelled hset hcs hz
    rw [List.map_cons, List.map_cons, List.map_cons, hx, hy, hz, ih (by rw [hcs', hlast])]

end Estate.Text
