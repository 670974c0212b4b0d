import Mathlib.Data.List.Basic
import Mathlib.Tactic.Lemma
import Estate.Proofs.Json.PrintedNumber
import Estate.Proofs.Text.Cutting
import Estate.Proofs.Text.Parts
import Estate.Url.Host

/-!
Number addresses are read as they are written: four bytes between points, or eight pieces between
colons with the longest run of zeros left out.
-/

namespace Estate.Url

/-! ### Hexadecimal numbers -/

lemma mem_hexDigits {n : Nat} {c : Char} (h : c ∈ Nat.toDigits 16 n) :
    ∃ d < 16, c = Nat.digitChar d := by
  induction n using Nat.strongRecOn with
  | ind n ih =>
    by_cases hn : n < 16
    · rw [Nat.toDigits_of_lt_base hn, List.mem_singleton] at h
      exact ⟨n, hn, h⟩
    · rw [Nat.toDigits_of_base_le (by decide) (by omega), List.mem_append] at h
      rcases h with h | h
      · exact ih (n / 16) (by omega) h
      · exact ⟨n % 16, by omega, List.mem_singleton.1 h⟩

lemma hexDigit?_digitChar {d : Nat} (h : d < 16) : Text.hexDigit? (Nat.digitChar d) = some d := by
  have hall : ∀ d < 16, Text.hexDigit? (Nat.digitChar d) = some d := by decide
  exact hall d h

lemma ofHex_toDigits (n : Nat) : Text.ofHex (Nat.toDigits 16 n) = n := by
  induction n using Nat.strongRecOn with
  | ind n ih =>
    by_cases hn : n < 16
    · simp [Nat.toDigits_of_lt_base hn, Text.ofHex, hexDigit?_digitChar hn]
    · have hrest : Text.ofHex (Nat.toDigits 16 (n / 16)) = n / 16 := ih (n / 16) (by omega)
      rw [Text.ofHex] at hrest
      rw [Nat.toDigits_of_base_le (by decide) (by omega), Text.ofHex, List.foldl_append, hrest]
      simp only [List.foldl_cons, List.foldl_nil, hexDigit?_digitChar (Nat.mod_lt n (by decide)),
        Option.getD_some]
      omega

/-- A number of 16 bits. -/
def IsPiece (n : Nat) : Prop := n < 65536

lemma ipv6Piece?_hexText {n : Nat} (h : IsPiece n) : ipv6Piece? (hexText n).toList = some n := by
  have hlength : (Nat.toDigits 16 n).length ≤ 4 :=
    (Nat.length_toDigits_le_iff (by decide) (by decide)).2 h
  have hdigits : (Nat.toDigits 16 n).any (fun c => (Text.hexDigit? c).isNone) = false := by
    rw [List.any_eq_false]
    intro c hc
    obtain ⟨d, hd, rfl⟩ := mem_hexDigits hc
    simp [hexDigit?_digitChar hd]
  rw [hexText, String.toList_ofList, ipv6Piece?, hdigits, ofHex_toDigits]
  simp [hlength, Nat.toDigits_ne_nil]

lemma mem_hexText {n : Nat} {c : Char} (h : c ∈ (hexText n).toList) :
    c ∈ "0123456789abcdef".toList := by
  have hall : ∀ d < 16, Nat.digitChar d ∈ "0123456789abcdef".toList := by decide
  rw [hexText, String.toList_ofList] at h
  obtain ⟨d, hd, rfl⟩ := mem_hexDigits h
  exact hall d hd

lemma hexText_ne_nil (n : Nat) : (hexText n).toList ≠ [] := by
  rw [hexText, String.toList_ofList]
  exact Nat.toDigits_ne_nil

/-! ### Pieces between colons -/

/-- Pieces with colons between. -/
def joined (pieces : List Nat) : List Char :=
  [':'].intercalate (pieces.map fun n => (hexText n).toList)

lemma toList_joined (pieces : List Nat) :
    (":".intercalate (pieces.map hexText)).toList = joined pieces := by
  rw [String.toList_intercalate, List.map_map]
  rfl

lemma colon_not_mem_hexText (n : Nat) : ':' ∉ (hexText n).toList := fun h =>
  absurd (mem_hexText h) (by decide)

lemma dottedBytes?_hexText (n : Nat) : dottedBytes? (hexText n).toList = none := by
  have hpoint : '.' ∉ (hexText n).toList := fun h => absurd (mem_hexText h) (by decide)
  rw [dottedBytes?, List.splitOn_eq_singleton hpoint]
  simp only [Option.bind_eq_none_iff]
  intro bytes hbytes
  rw [Text.length_of_mapM hbytes]
  rfl

lemma joined_cons_cons (n m : Nat) (pieces : List Nat) :
    joined (n :: m :: pieces) = (hexText n).toList ++ ':' :: joined (m :: pieces) := by
  simp [joined, List.intercalate_cons_cons]

lemma joined_singleton (n : Nat) : joined [n] = (hexText n).toList := by simp [joined]

/-- A number stands first, so no colon does. -/
lemma head?_joined (pieces : List Nat) : (joined pieces).head? ≠ some ':' := by
  have hhead : ∀ (n : Nat) (rest : List Char), ((hexText n).toList ++ rest).head? ≠ some ':' := by
    intro n rest h
    rw [List.head?_append_of_ne_nil _ (hexText_ne_nil n)] at h
    exact colon_not_mem_hexText n (List.mem_of_mem_head? h)
  match pieces with
  | [] => simp [joined]
  | [n] => simpa [joined_singleton] using hhead n []
  | n :: m :: pieces => simpa [joined_cons_cons] using hhead n (':' :: joined (m :: pieces))

lemma joined_ne_nil {pieces : List Nat} (h : pieces ≠ []) : joined pieces ≠ [] := by
  match pieces with
  | [] => exact absurd rfl h
  | [n] => simpa [joined_singleton] using hexText_ne_nil n
  | n :: m :: pieces => simp [joined_cons_cons]

lemma splitOn_joined {pieces : List Nat} (h : pieces ≠ []) :
    (joined pieces).splitOn ':' = pieces.map fun n => (hexText n).toList := by
  refine List.splitOn_intercalate ':' (fun text htext => ?_) (by simpa using h)
  obtain ⟨n, -, rfl⟩ := List.mem_map.1 htext
  exact colon_not_mem_hexText n

lemma ipv6Pieces?_joined (bytesAllowed : Bool) {pieces : List Nat} (h : ∀ n ∈ pieces, IsPiece n) :
    ipv6Pieces? bytesAllowed (joined pieces) = some pieces := by
  rcases eq_or_ne pieces [] with rfl | hne
  · simp [joined, ipv6Pieces?]
  · have hread : (pieces.map fun n => (hexText n).toList).mapM ipv6Piece? = some pieces := by
      have hall := Text.mapM_eq_some_map (f := ipv6Piece? ∘ fun n => (hexText n).toList) (g := id)
        fun n hn => ipv6Piece?_hexText (h n hn)
      rw [List.mapM_map, hall, List.map_id]
    have hbytes : (pieces.map fun n => (hexText n).toList).getLast?.bind dottedBytes? = none := by
      rw [List.getLast?_map, Option.bind_map, Option.bind_eq_none_iff]
      exact fun n _ => dottedBytes?_hexText n
    rw [ipv6Pieces?, if_neg (by simpa using joined_ne_nil hne)]
    simp only [splitOn_joined hne, hbytes, hread]
    split
    · next hnone => cases hnone
    · rfl

/-! ### Zeros left out -/

lemma colons : "::".toList = [':', ':'] := rfl

lemma after?_colons {rest : List Char} (h : rest.head? ≠ some ':') :
    Text.after? [':', ':'] (':' :: rest) = none := by
  cases rest with
  | nil => rfl
  | cons c rest =>
    have hc : ':' ≠ c := fun heq => h (by rw [heq]; rfl)
    simp [Text.after?, hc]

lemma cutAt?_word {word : List Char} (h : ':' ∉ word) (rest : List Char) :
    Text.cutAt? [':', ':'] (word ++ rest) =
      (Text.cutAt? [':', ':'] rest).map fun (before, behind) => (word ++ before, behind) := by
  induction word with
  | nil =>
    rw [List.nil_append]
    cases Text.cutAt? [':', ':'] rest <;> rfl
  | cons c word ih =>
    rw [List.mem_cons, not_or] at h
    have hafter : Text.after? [':', ':'] (c :: (word ++ rest)) = none := by
      simp [Text.after?, h.1]
    rw [List.cons_append, Text.cutAt?, hafter, ih h.2, Option.map_map]
    rfl

lemma cutAt?_colon {rest : List Char} (h : rest.head? ≠ some ':') :
    Text.cutAt? [':', ':'] (':' :: rest) =
      (Text.cutAt? [':', ':'] rest).map fun (before, behind) => (':' :: before, behind) := by
  rw [Text.cutAt?, after?_colons h]

/-- No two colons are next to each other in pieces. -/
lemma cutAt?_joined (pieces : List Nat) (rest : List Char) :
    Text.cutAt? [':', ':'] (joined pieces ++ rest) =
      (Text.cutAt? [':', ':'] rest).map
        fun (before, behind) => (joined pieces ++ before, behind) := by
  induction pieces with
  | nil =>
    rw [show joined [] = [] from rfl, List.nil_append]
    cases Text.cutAt? [':', ':'] rest <;> rfl
  | cons n pieces ih =>
    cases pieces with
    | nil => rw [joined_singleton, cutAt?_word (colon_not_mem_hexText n)]
    | cons m pieces =>
      have hhead : (joined (m :: pieces) ++ rest).head? ≠ some ':' := by
        rw [List.head?_append_of_ne_nil _ (joined_ne_nil (by simp))]
        exact head?_joined _
      rw [joined_cons_cons, List.append_assoc, List.cons_append,
        cutAt?_word (colon_not_mem_hexText n), cutAt?_colon hhead, ih, Option.map_map,
        Option.map_map]
      cases Text.cutAt? [':', ':'] rest <;> simp

/-- What a place and a length say of a run of zeros. -/
def IsRun (pieces : List Nat) (best : Nat × Nat) : Prop :=
  ∃ rest, pieces.drop best.1 = List.replicate best.2 0 ++ rest

lemma isRun_takeWhile (pieces : List Nat) (i : Nat) :
    IsRun pieces (i, ((pieces.drop i).takeWhile (· == 0)).length) := by
  refine ⟨(pieces.drop i).dropWhile (· == 0), ?_⟩
  have hzeros : (pieces.drop i).takeWhile (· == 0) =
      List.replicate ((pieces.drop i).takeWhile (· == 0)).length 0 :=
    List.eq_replicate_iff.2 ⟨rfl, fun n hn => by simpa using List.mem_takeWhile_imp hn⟩
  rw [← hzeros, List.takeWhile_append_dropWhile]

lemma isRun_longestZeros (pieces : List Nat) : IsRun pieces (longestZeros pieces) := by
  refine List.foldlRecOn (List.range pieces.length) _ ⟨pieces, rfl⟩ fun best hbest i _ => ?_
  dsimp only
  split_ifs
  · exact isRun_takeWhile pieces i
  · exact hbest

lemma ipv6?_ipv6Text {pieces : List Nat} (hlength : pieces.length = 8)
    (h : ∀ n ∈ pieces, IsPiece n) : ipv6? (ipv6Text pieces).toList = some pieces := by
  obtain ⟨rest, hrest⟩ := isRun_longestZeros pieces
  unfold ipv6Text
  dsimp only
  generalize longestZeros pieces = best at hrest
  obtain ⟨start, run⟩ := best
  dsimp only at hrest ⊢
  split_ifs with hrun
  · have hcut := cutAt?_joined pieces []
    rw [List.append_nil] at hcut
    rw [toList_joined, ipv6?, colons, hcut, show Text.cutAt? [':', ':'] [] = none from rfl]
    simp [ipv6Pieces?_joined true h, hlength]
  · have hdrop : pieces.drop (start + run) = rest := by
      rw [← List.drop_drop, hrest, List.drop_append_of_le_length (by simp)]
      simp
    have hpieces : pieces = pieces.take start ++ (List.replicate run 0 ++ rest) := by
      rw [← hrest, List.take_append_drop]
    have hcut := cutAt?_joined (pieces.take start) ([':', ':'] ++ joined rest)
    rw [show Text.cutAt? [':', ':'] ([':', ':'] ++ joined rest) = some ([], joined rest) from rfl,
      Option.map_some] at hcut
    rw [String.toList_append, String.toList_append, toList_joined, toList_joined, hdrop,
      List.append_assoc, ipv6?, colons, hcut]
    have hfront : ipv6Pieces? false (joined (pieces.take start)) = some (pieces.take start) :=
      ipv6Pieces?_joined false fun n hn => h n (List.mem_of_mem_take hn)
    have hback : ipv6Pieces? true (joined rest) = some rest :=
      ipv6Pieces?_joined true fun n hn => h n (by
        rw [hpieces]
        simp [hn])
    have hcount : (pieces.take start).length + (run + rest.length) = 8 := by
      rw [← hlength]
      conv_rhs => rw [hpieces]
      simp
    simp only [List.append_nil, hfront, hback, Option.bind_some]
    rw [if_pos (by omega), show 8 - ((pieces.take start).length + rest.length) = run by omega,
      List.append_assoc, ← hpieces]

lemma mem_joined {pieces : List Nat} {c : Char} (h : c ∈ joined pieces) :
    c ∈ "0123456789abcdef:".toList := by
  refine Text.forall_intercalate (p := fun c => c ∈ "0123456789abcdef:".toList) (by decide) ?_ c h
  intro text htext c hc
  obtain ⟨n, -, rfl⟩ := List.mem_map.1 htext
  have hmore : "0123456789abcdef".toList ⊆ "0123456789abcdef:".toList := by decide
  exact hmore (mem_hexText hc)

lemma mem_ipv6Text {pieces : List Nat} {c : Char} (h : c ∈ (ipv6Text pieces).toList) :
    c ∈ "0123456789abcdef:".toList := by
  unfold ipv6Text at h
  dsimp only at h
  split_ifs at h
  · rw [toList_joined] at h
    exact mem_joined h
  · rw [String.toList_append, String.toList_append, toList_joined, toList_joined] at h
    rcases List.mem_append.1 h with h | h
    · rcases List.mem_append.1 h with h | h
      · exact mem_joined h
      · have hcolons : "::".toList ⊆ "0123456789abcdef:".toList := by decide
        exact hcolons h
    · exact mem_joined h

/-! ### What is read -/

lemma hexDigit?_lt (c : Char) : (Text.hexDigit? c).getD 0 < 16 := by
  unfold Text.hexDigit?
  split_ifs with hdigit hsmall hcapital
  · have := Text.toNat_between hdigit
    simp only [Char.reduceToNat] at this
    simp
    omega
  · have := Text.toNat_between hsmall
    simp only [Char.reduceToNat] at this
    simp
    omega
  · have := Text.toNat_between hcapital
    simp only [Char.reduceToNat] at this
    simp
    omega
  · simp

/-- A number of so many digits. -/
lemma foldl_lt {α : Type} {base : Nat} {value : α → Nat} {digits : List α}
    (h : ∀ d ∈ digits, value d < base) :
    digits.foldl (fun n d => n * base + value d) 0 < base ^ digits.length := by
  induction digits using List.reverseRecOn with
  | nil => simp
  | append_singleton digits d ih =>
    have hd := h d (by simp)
    have hdigits := ih fun d hd => h d (by simp [hd])
    rw [List.foldl_append, List.length_append, List.length_singleton, Nat.pow_succ]
    calc digits.foldl (fun n d => n * base + value d) 0 * base + value d
        < (digits.foldl (fun n d => n * base + value d) 0 + 1) * base := by
          rw [Nat.add_mul]
          omega
      _ ≤ base ^ digits.length * base := Nat.mul_le_mul_right base hdigits

lemma isPiece_of_ipv6Piece? {cs : List Char} {n : Nat} (h : ipv6Piece? cs = some n) :
    IsPiece n := by
  unfold ipv6Piece? at h
  split_ifs at h with hif
  cases h
  simp only [Bool.or_eq_true, not_or, decide_eq_true_eq] at hif
  calc Text.ofHex cs < 16 ^ cs.length := foldl_lt fun c _ => hexDigit?_lt c
    _ ≤ 16 ^ 4 := Nat.pow_le_pow_right (by decide) (by omega)

lemma lt_of_dottedBytes? {cs : List Char} {bytes : List Nat} (h : dottedBytes? cs = some bytes) :
    ∀ b ∈ bytes, b < 256 := by
  obtain ⟨bytes', hbytes, hlength⟩ := Option.bind_eq_some_iff.1 h
  split_ifs at hlength
  cases hlength
  refine Text.forall_mem_of_mapM hbytes fun part _ b hb => ?_
  split_ifs at hb with hif
  cases hb
  simp only [Bool.and_eq_true, decide_eq_true_eq] at hif
  exact hif.2

lemma isPiece_of_ipv6Pieces? {bytesAllowed : Bool} {cs : List Char} {pieces : List Nat}
    (h : ipv6Pieces? bytesAllowed cs = some pieces) : ∀ n ∈ pieces, IsPiece n := by
  have hall : ∀ {parts : List (List Char)} {pieces : List Nat},
      parts.mapM ipv6Piece? = some pieces → ∀ n ∈ pieces, IsPiece n := fun hparts =>
    Text.forall_mem_of_mapM hparts fun part _ n hn => isPiece_of_ipv6Piece? hn
  unfold ipv6Pieces? at h
  by_cases hempty : cs.isEmpty
  · rw [if_pos hempty] at h
    cases h
    simp
  · rw [if_neg hempty] at h
    dsimp only at h
    split at h
    · next a b c d _ hdotted =>
      split_ifs at h
      obtain ⟨front, hfront, rfl⟩ := Option.map_eq_some_iff.1 h
      obtain ⟨part, -, hbytes⟩ := Option.bind_eq_some_iff.1 hdotted
      have hlt := lt_of_dottedBytes? hbytes
      simp only [List.forall_mem_cons] at hlt
      intro n hn
      rcases List.mem_append.1 hn with hn | hn
      · exact hall hfront n hn
      · simp only [List.mem_cons, List.not_mem_nil, or_false] at hn
        unfold IsPiece
        omega
    · exact hall h

lemma of_ipv6? {cs : List Char} {pieces : List Nat} (h : ipv6? cs = some pieces) :
    pieces.length = 8 ∧ ∀ n ∈ pieces, IsPiece n := by
  unfold ipv6? at h
  split at h
  · obtain ⟨front, hfront, h⟩ := Option.bind_eq_some_iff.1 h
    obtain ⟨back, hback, h⟩ := Option.bind_eq_some_iff.1 h
    dsimp only at h
    split_ifs at h with hgiven
    cases h
    refine ⟨by simp; omega, fun n hn => ?_⟩
    rcases List.mem_append.1 hn with hn | hn
    · rcases List.mem_append.1 hn with hn | hn
      · exact isPiece_of_ipv6Pieces? hfront n hn
      · rw [List.eq_of_mem_replicate hn, IsPiece]
        decide
    · exact isPiece_of_ipv6Pieces? hback n hn
  · obtain ⟨pieces', hpieces, h⟩ := Option.bind_eq_some_iff.1 h
    split_ifs at h with hlength
    cases h
    exact ⟨by simpa using hlength, isPiece_of_ipv6Pieces? hpieces⟩

/-! ### Four bytes -/

/-- The bytes of an address, the highest first. -/
def fourBytes (n : Nat) : List Nat := [n >>> 24, n >>> 16 % 256, n >>> 8 % 256, n % 256]

/-- The bytes in decimal. -/
def dottedParts (n : Nat) : List (List Char) := (fourBytes n).map (Nat.toDigits 10)

lemma toList_ipv4 (n : Nat) : (Host.ipv4 n).toText.toList = ['.'].intercalate (dottedParts n) := by
  rw [Host.toText, String.toList_intercalate, List.map_map, dottedParts, fourBytes]
  simp

lemma fourBytes_lt {n : Nat} (h : n < 2 ^ 32) : ∀ b ∈ fourBytes n, b < 256 := by
  simp only [fourBytes, List.mem_cons, List.not_mem_nil, or_false, Nat.shiftRight_eq_div_pow]
  omega

lemma isAsciiDigit_of_dottedParts {n : Nat} :
    ∀ part ∈ dottedParts n, ∀ c ∈ part, Text.isAsciiDigit c := by
  intro part hpart c hc
  obtain ⟨b, -, rfl⟩ := List.mem_map.1 hpart
  exact Json.isAsciiDigit_of_mem_toDigits hc

lemma dotParts_dottedParts (n : Nat) :
    dotParts (['.'].intercalate (dottedParts n)) = dottedParts n := by
  have hsplit : (['.'].intercalate (dottedParts n)).splitOn '.' = dottedParts n :=
    List.splitOn_intercalate '.'
      (fun part hpart hpoint =>
        absurd (isAsciiDigit_of_dottedParts part hpart '.' hpoint) (by decide))
      (by simp [dottedParts, fourBytes])
  have hlast : (dottedParts n).getLast? ≠ some [] := by
    simp [dottedParts, fourBytes, Nat.toDigits_ne_nil]
  rw [dotParts, hsplit, if_neg (by simp [hlast])]

lemma endsInNumber_dottedParts (n : Nat) : endsInNumber (['.'].intercalate (dottedParts n)) := by
  have hdigits : Text.isDigits (Nat.toDigits 10 (n % 256)) := by
    simp only [Text.isDigits, Bool.and_eq_true, List.all_eq_true]
    exact ⟨by simp [Nat.toDigits_ne_nil], fun c => Json.isAsciiDigit_of_mem_toDigits⟩
  rw [endsInNumber, dotParts_dottedParts]
  simp [dottedParts, fourBytes, hdigits]

lemma ipv4?_dottedParts {n : Nat} (h : n < 2 ^ 32) :
    ipv4? (['.'].intercalate (dottedParts n)) = some n := by
  have hbyte : ∀ b < 256, ipv4Number? (Nat.toDigits 10 b) = some b := by decide +kernel
  have hread : (dottedParts n).mapM ipv4Number? = some (fourBytes n) := by
    have hall := Text.mapM_eq_some_map (f := ipv4Number? ∘ Nat.toDigits 10) (g := id)
      fun b hb => hbyte b (fourBytes_lt h b hb)
    rw [dottedParts, List.mapM_map, hall, List.map_id]
  have hlt := fourBytes_lt h
  simp only [fourBytes, List.forall_mem_cons] at hlt
  rw [ipv4?, dotParts_dottedParts, if_neg (by simp [dottedParts, fourBytes]), hread]
  simp only [fourBytes, Option.bind_some, List.getLast?_cons_cons, List.getLast?_singleton,
    List.dropLast_cons_cons, List.dropLast_singleton]
  rw [if_neg (by simp; omega)]
  simp only [List.foldl_cons, List.foldl_nil, List.length_cons, List.length_nil,
    Nat.shiftRight_eq_div_pow]
  congr 1
  omega

lemma lt_of_ipv4? {name : List Char} {n : Nat} (h : ipv4? name = some n) : n < 2 ^ 32 := by
  unfold ipv4? at h
  dsimp only at h
  split_ifs at h with hcount
  obtain ⟨numbers, hnumbers, h⟩ := Option.bind_eq_some_iff.1 h
  obtain ⟨last, hlast, h⟩ := Option.bind_eq_some_iff.1 h
  split_ifs at h with hif
  cases h
  simp only [Bool.or_eq_true, not_or, List.any_eq_true, decide_eq_true_eq, not_exists, not_and,
    Nat.not_lt, Nat.not_le, ge_iff_le] at hif
  obtain ⟨hbytes, hlt⟩ := hif
  have hfold : numbers.dropLast.foldl (fun n b => n * 256 + b) 0 < 256 ^ numbers.dropLast.length :=
    foldl_lt fun b hb => Nat.lt_succ_of_le (hbytes b hb)
  have hlength : numbers.dropLast.length ≤ 3 := by
    rw [List.length_dropLast, Text.length_of_mapM hnumbers]
    omega
  calc numbers.dropLast.foldl (fun n b => n * 256 + b) 0 *
        256 ^ (4 - numbers.dropLast.length) + last
      < (numbers.dropLast.foldl (fun n b => n * 256 + b) 0 + 1) *
          256 ^ (4 - numbers.dropLast.length) := by
        rw [Nat.add_mul]
        omega
    _ ≤ 256 ^ numbers.dropLast.length * 256 ^ (4 - numbers.dropLast.length) :=
        Nat.mul_le_mul_right _ hfold
    _ = 2 ^ 32 := by
        rw [← Nat.pow_add, Nat.add_sub_cancel' (by omega)]

end Estate.Url
