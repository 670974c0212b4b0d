import Estate.Domain.Ascii
import Estate.Proofs.Text.Codes
import Estate.Proofs.Text.Composition
import Estate.Proofs.Text.Cutting

/-!
Capital letters in domain names.

None is left when a name has been mapped, and none comes up among the parts of what is left, so
there is none in the composed name. The tables are gone through once; sets of codes are held as the
bits of a number.
-/

namespace Estate

namespace Domain

open Text

def isCapital (c : Char) : Bool := 'A' ≤ c && c ≤ 'Z'

/-! ### Parts of characters -/

def isCapitalCode (n : Nat) : Bool := Nat.ble 65 n && Nat.ble n 90

/-- The codes of characters with a capital letter among their parts. -/
def capitalWholes : List Nat :=
  (decompositions.filter fun e => e.2.any isCapitalCode).map (·.1)

lemma isCapital_iff {c : Char} : isCapital c ↔ isCapitalCode c.toNat := by
  simp [isCapital, isCapitalCode, Char.le_def, UInt32.le_iff_toNat_le]

lemma isCapitalCode_of_ofNat {n : Nat} (h : isCapital (.ofNat n)) : isCapitalCode n := by
  by_cases hvalid : n.isValidChar
  · rwa [isCapital_iff, toNat_ofNat hvalid] at h
  · rw [Char.ofNat, dif_neg hvalid] at h
    exact absurd h (by decide)

/-- A capital letter is part of itself and of what is listed. -/
lemma capital_of_part {c d : Char} (hd : d ∈ decomposeChar c) (hcapital : isCapital d) :
    d = c ∨ 192 ≤ c.toNat ∧ c.toNat ∈ capitalWholes := by
  rcases decomposeChar_cases c with hc | ⟨codes, hlow, hc, hcodes⟩
  · rw [hc] at hd
    exact .inl (List.mem_singleton.1 hd)
  · rw [hc] at hd
    obtain ⟨n, hn, rfl⟩ := List.mem_map.1 hd
    have hcode := isCapitalCode_of_ofNat hcapital
    rcases hcodes with hjamo | hlisted
    · have hrange := hjamo n hn
      simp [isCapitalCode] at hcode
      omega
    · exact .inr ⟨hlow, List.mem_map.2 ⟨(c.toNat, codes),
        List.mem_filter.2 ⟨hlisted, List.any_eq_true.2 ⟨n, hn, hcode⟩⟩, rfl⟩⟩

/-! ### Mapped names -/

/-- No part of the character is a capital letter. -/
def Spared (c : Char) : Prop := ∀ d ∈ decomposeChar c, isCapital d = false

lemma spared_of_codes {c : Char} (hcapital : isCapital c = false)
    (hwhole : c.toNat ∉ capitalWholes) : Spared c := by
  intro d hd
  cases h : isCapital d with
  | false => rfl
  | true =>
    rcases capital_of_part hd h with rfl | ⟨-, hmem⟩
    · rw [h] at hcapital
      exact hcapital
    · exact absurd hmem hwhole

lemma spared_of_low {c : Char} (hcapital : isCapital c = false) (hlow : c.toNat < 192) :
    Spared c := by
  intro d hd
  rw [decomposeChar, if_pos hlow, List.mem_singleton] at hd
  rwa [hd]

def Fate.isKept : Fate → Bool
  | .kept => true
  | .dropped | .refused | .replaced _ => false

lemma not_isCapital_of_kept {c : Char} (h : fate c = .kept) : isCapital c = false := by
  cases hc : isCapital c with
  | false => rfl
  | true => simp [fate, show ('A' ≤ c && c ≤ 'Z') = true from hc] at h

/-- The characters that take the place of one that is replaced. -/
def Fate.codes : Fate → List Nat
  | .replaced codes => codes
  | .kept | .dropped | .refused => []

/-- The code of a character without capital letters among its parts. -/
def isSparedCode (n : Nat) : Bool := !isCapitalCode n && !(bitsOf capitalWholes).testBit n

/-- The tables are gone through one by one: to put them together first takes longer. -/
lemma fate_tables : Runs.avoids (bitsOf capitalWholes) Fate.isKept .refused 0 fateRuns ∧
    [fatesFrom0, fatesFrom800, fatesFrom2000, fatesFrom3000, fatesFromF800, fatesFrom10000,
      fatesFrom1D000, fatesFrom1E000].all fun runs =>
        runs.all fun r => r.2.codes.all isSparedCode := by
  decide +kernel

lemma spared_of_kept {c : Char} (h : fate c = .kept) : Spared c := by
  have hcapital := not_isCapital_of_kept h
  by_cases hlow : c.toNat < 128
  · exact spared_of_low hcapital (by omega)
  · have hrun : Runs.at .refused fateRuns c.toNat = .kept := by
      simpa [fate, show ('A' ≤ c && c ≤ 'Z') = false from hcapital, hlow] using h
    have hbit := Runs.not_testBit fate_tables.1 (Nat.zero_le c.toNat) (by rw [hrun]; rfl)
    exact spared_of_codes hcapital fun hmem => by simp [testBit_bitsOf.2 hmem] at hbit

lemma isSparedCode_of_listed {start n : Nat} {fate : Fate} (h : (start, fate) ∈ fateRuns)
    (hn : n ∈ fate.codes) : isSparedCode n := by
  have htable : fateRuns.all fun r => r.2.codes.all isSparedCode := by
    simpa [fateRuns, List.all_append, and_assoc] using fate_tables.2
  exact List.all_eq_true.1 (List.all_eq_true.1 htable _ h) n hn

lemma spared_of_listed {start n : Nat} {fate : Fate} (h : (start, fate) ∈ fateRuns)
    (hn : n ∈ fate.codes) : Spared (.ofNat n) := by
  have hcode := isSparedCode_of_listed h hn
  simp only [isSparedCode, Bool.and_eq_true, Bool.not_eq_true'] at hcode
  have hcapital : isCapital (.ofNat n) = false := by
    cases hc : isCapital (.ofNat n) with
    | false => rfl
    | true => simp [isCapitalCode_of_ofNat hc] at hcode
  by_cases hvalid : n.isValidChar
  · refine spared_of_codes hcapital fun hmem => ?_
    rw [toNat_ofNat hvalid] at hmem
    simp [testBit_bitsOf.2 hmem] at hcode
  · refine spared_of_low hcapital ?_
    rw [Char.ofNat, dif_neg hvalid]
    decide

lemma spared_of_replaced {c : Char} {codes : List Nat} (h : fate c = .replaced codes) {n : Nat}
    (hn : n ∈ codes) : Spared (.ofNat n) := by
  unfold fate at h
  split_ifs at h with hcapital hlow
  · cases h
    rw [List.mem_singleton] at hn
    subst hn
    have hall : ∀ m < 91, 65 ≤ m → isCapital (.ofNat (m + 32)) = false ∧
        (Char.ofNat (m + 32)).toNat < 192 := by decide
    obtain ⟨hlow, hhigh⟩ := toNat_between hcapital
    simp only [Char.reduceToNat] at hlow hhigh
    have hsmall := hall c.toNat (by omega) hlow
    exact spared_of_low hsmall.1 hsmall.2
  · rcases Runs.at_mem .refused fateRuns c.toNat with hnone | ⟨start, hmem⟩
    · rw [hnone] at h
      cases h
    · rw [h] at hmem
      exact spared_of_listed hmem hn

/-- No capital letter is in a mapped and composed name. -/
lemma not_isCapital_of_mapped {cs ms : List Char} (h : mapped? cs = some ms) :
    ∀ c ∈ Text.compose ms, isCapital c = false := by
  have hspared : ∀ m ∈ ms, Spared m := by
    induction cs generalizing ms with
    | nil =>
      rw [mapped?] at h
      cases h
      simp
    | cons c cs ih =>
      rw [mapped?] at h
      split at h
      · next hkept =>
        obtain ⟨rest, hrest, rfl⟩ := Option.map_eq_some_iff.1 h
        exact List.forall_mem_cons.2 ⟨spared_of_kept hkept, ih hrest⟩
      · exact ih h
      · cases h
      · next codes hcodes =>
        obtain ⟨rest, hrest, rfl⟩ := Option.map_eq_some_iff.1 h
        intro m hm
        rcases List.mem_append.1 hm with hm | hm
        · obtain ⟨n, hn, rfl⟩ := List.mem_map.1 hm
          exact spared_of_replaced hcodes hn
        · exact ih hrest m hm
  refine Text.forall_compose hspared fun c hc => ?_
  cases hcapital : isCapital c with
  | false => rfl
  | true =>
    have hcode := isCapital_iff.1 hcapital
    simp [isCapitalCode] at hcode
    omega

end Domain

end Estate
