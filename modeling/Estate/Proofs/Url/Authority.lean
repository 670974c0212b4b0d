import Mathlib.Tactic.Lemma
import Estate.Proofs.Failure
import Estate.Proofs.Url.Hosts
import Estate.Proofs.Url.Paths

/-!
What stands before the path of an address on the web: the name and password, the host and the port,
each read as it is written.
-/

namespace Estate.Url

open Failure

/-- The path behind an authority, if there is one. -/
def StartsPath (cs : List Char) : Prop := ∀ c ∈ cs.head?, c = '/'

/-! ### Parts that are left out where there is nothing -/

/-- A part behind its sign. -/
def behind (sep : Char) (part : Option (List Char)) : List Char := (part.map (sep :: ·)).getD []

lemma mem_behind {sep c : Char} {part : Option (List Char)} (h : c ∈ behind sep part) :
    c = sep ∨ ∃ cs ∈ part, c ∈ cs := by
  cases part with
  | none => simp [behind] at h
  | some cs => simpa [behind] using h

lemma head?_behind {sep : Char} {part : Option (List Char)} :
    ∀ c ∈ (behind sep part).head?, c = sep := by
  cases part <;> simp [behind]

lemma cutAtChar_behind {sep : Char} {front : List Char} (h : sep ∉ front)
    (part : Option (List Char)) : cutAtChar sep (front ++ behind sep part) = (front, part) := by
  have hfront : ∀ c ∈ front, (c != sep) = true := fun c hc => by
    simpa using fun heq : c = sep => h (heq ▸ hc)
  have hhead : ∀ c ∈ (behind sep part).head?, (c != sep) = false := fun c hc => by
    simp [head?_behind c hc]
  rw [cutAtChar, Text.takeWhile_append_of_all hfront hhead,
    Text.dropWhile_append_of_all hfront hhead]
  cases part <;> rfl

/-! ### The port -/

def portText (port : Option Nat) : List Char := behind ':' (port.map (Nat.toDigits 10))

lemma inHost_portText {port : Option Nat} : ∀ c ∈ portText port, InHost c := by
  intro c hc
  rcases mem_behind hc with rfl | ⟨digits, hdigits, hc⟩
  · decide
  · obtain ⟨p, -, rfl⟩ := Option.map_eq_some_iff.1 hdigits
    have hall : ∀ n < 58, Text.isAsciiDigit (.ofNat n) → InHost (.ofNat n) := by decide
    have hdigit := Json.isAsciiDigit_of_mem_toDigits hc
    exact Text.forall_below (p := fun c => Text.isAsciiDigit c → InHost c) hall
      (Nat.lt_succ_of_le (Text.toNat_between hdigit).2) hdigit

lemma toList_port (port : Option Nat) :
    ((port.map fun p => ":" ++ toString p).getD "").toList = portText port := by
  cases port with
  | none => rfl
  | some p => simp [portText, behind]

lemma port?_portText {port : Option Nat} {path : List Char} (hport : ∀ p ∈ port, p ≤ 65535)
    (hpath : StartsPath path) : port? (portText port ++ path) = .ok (port, path) := by
  cases port with
  | none =>
    rw [show portText none = [] from rfl, List.nil_append]
    cases path with
    | nil => rfl
    | cons c path =>
      cases hpath c rfl
      rfl
  | some p =>
    have hdigits : ∀ c ∈ Nat.toDigits 10 p, Text.isAsciiDigit c :=
      fun c => Json.isAsciiDigit_of_mem_toDigits
    have hhead : ∀ c ∈ path.head?, Text.isAsciiDigit c = false := by
      intro c hc
      rw [hpath c hc]
      rfl
    have hslash : path.head?.any (!isSlash ·) = false := by
      cases path with
      | nil => rfl
      | cons c path =>
        cases hpath c rfl
        rfl
    change port? (':' :: (Nat.toDigits 10 p ++ path)) = _
    rw [port?, Text.takeWhile_append_of_all hdigits hhead,
      Text.dropWhile_append_of_all hdigits hhead]
    simp only [Json.digitsValue_toDigits, hslash, Bool.false_or]
    rw [if_neg (by simpa using hport p rfl), if_neg (by simp [Nat.toDigits_ne_nil])]

lemma le_of_port? {cs path : List Char} {port : Option Nat} (h : port? cs = .ok (port, path)) :
    ∀ p ∈ port, p ≤ 65535 := by
  unfold port? at h
  split at h
  · dsimp only at h
    split_ifs at h with hif hempty
    · cases h
      simp
    · cases h
      simp only [Bool.or_eq_true, not_or, decide_eq_true_eq, Nat.not_lt] at hif
      simpa using hif.2
  · cases h
    simp

/-! ### The name and password -/

lemma encoded_credentials? {scheme username password : String} {atEnd : Bool} {cs rest : List Char}
    (h : credentials? scheme atEnd cs = .ok (username, password, rest)) :
    Encoded userSet username.toList ∧ Encoded userSet password.toList := by
  unfold credentials? at h
  dsimp only at h
  split_ifs at h
  · cases h
    simp [Encoded]
  · cases h
    exact ⟨encoded_encodeText (by decide) _, encoded_encodeText (by decide) _⟩

lemma inHost_of_userSet {c : Char} (h : Text.leaves userSet.toList c) : InHost c ∧ c ≠ ':' := by
  have hall : ∀ n < 127, Text.leaves userSet.toList (.ofNat n) →
      InHost (.ofNat n) ∧ Char.ofNat n ≠ ':' := by decide +kernel
  exact Text.forall_leaves (p := fun c => InHost c ∧ c ≠ ':') hall h

variable {scheme : String} {host path : List Char}

lemma isSeparator_startsPath (h : StartsPath path) :
    ∀ c ∈ path.head?, (!isSeparator scheme c) = false := by
  intro c hc
  rw [h c hc]
  rfl

lemma isSeparator_ends (scheme : String) {cs : List Char} (h : ∀ c ∈ cs, InHost c ∨ c = '@') :
    ∀ c ∈ cs, (!isSeparator scheme c) = true := by
  intro c hc
  rcases h c hc with hin | rfl
  · rw [isSeparator_inHost scheme hin, Bool.not_false]
  · rfl

lemma ne_at {cs : List Char} (h : ∀ c ∈ cs, InHost c) : ∀ c ∈ cs.reverse, (c != '@') = true := by
  intro c hc
  have hin := (h c (List.mem_reverse.1 hc)).2
  simpa using fun heq : c = '@' => hin (by rw [heq]; decide)

/-- An authority without an at sign names nobody. -/
lemma credentials?_nobody (hhost : ∀ c ∈ host, InHost c) (hpath : StartsPath path) (atEnd : Bool) :
    credentials? scheme atEnd (host ++ path) = .ok ("", "", host ++ path) := by
  have hkind := isSeparator_ends scheme fun c hc => .inl (hhost c hc)
  have hlast : host.reverse.takeWhile (· != '@') = host.reverse :=
    List.takeWhile_eq_self_iff.2 (ne_at hhost)
  unfold credentials?
  rw [Text.takeWhile_append_of_all hkind (isSeparator_startsPath hpath)]
  simp [hlast]

/-- The name and password stand before the last at sign. -/
lemma credentials?_user {user : List Char} (huser : ∀ c ∈ user, InHost c)
    (hhost : ∀ c ∈ host, InHost c) (hfilled : host ≠ []) (hpath : StartsPath path) (atEnd : Bool) :
    credentials? scheme atEnd (user ++ '@' :: host ++ path) =
      .ok (encodeText userSet (cutAtChar ':' user).1,
        encodeText userSet ((cutAtChar ':' user).2.getD []), host ++ path) := by
  have hauthority : ∀ c ∈ user ++ '@' :: host, InHost c ∨ c = '@' := by
    intro c hc
    rw [List.mem_append, List.mem_cons] at hc
    rcases hc with hc | rfl | hc
    · exact .inl (huser c hc)
    · exact .inr rfl
    · exact .inl (hhost c hc)
  have hkind := isSeparator_ends scheme hauthority
  have hlast : (user ++ '@' :: host).reverse.takeWhile (· != '@') = host.reverse := by
    rw [List.reverse_append, List.reverse_cons, List.append_assoc]
    exact Text.takeWhile_append_of_all (ne_at hhost) (by simp)
  have hlength : (user ++ '@' :: host).length - host.length - 1 = user.length := by
    rw [List.length_append, List.length_cons]
    omega
  unfold credentials?
  rw [Text.takeWhile_append_of_all hkind (isSeparator_startsPath hpath),
    Text.dropWhile_append_of_all hkind (isSeparator_startsPath hpath)]
  dsimp only
  rw [hlast, List.reverse_reverse, hlength, List.take_left, if_neg (by simp; omega),
    if_neg (by simp [hfilled])]

end Estate.Url
