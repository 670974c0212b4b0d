import Mathlib.Data.List.Basic
import Mathlib.Tactic.Lemma
import Estate.Proofs.Domain.Names
import Estate.Proofs.Text.Percent
import Estate.Proofs.Url.Addresses
import Estate.Url.Parser

/-!
A host is read as it is written: a name in ASCII, and number addresses in their shortest spelling.
-/

namespace Estate.Url

/-- A character that can stand in a written host: none that ends a host or what is before it. -/
def InHost (c : Char) : Prop := Text.IsPrinted c ∧ c ∉ "#/?@\\".toList

instance (c : Char) : Decidable (InHost c) := by
  unfold InHost
  infer_instance

/-- What follows a host: nothing, a path or a port. -/
def EndsHost (rest : List Char) : Prop := ∀ c ∈ rest.head?, c = '/' ∨ c = ':'

/-- The written host is read back, and ends where the path or the port starts. -/
structure Host.Settled (host : Host) : Prop where
  reads : host? host.toText.toList = .ok host
  filled : host.toText.toList ≠ []
  printed : ∀ c ∈ host.toText.toList, InHost c
  spanned : ∀ (scheme : String) (rest : List Char), EndsHost rest →
    spanHost scheme false (host.toText.toList ++ rest) = (host.toText.toList, rest)

/-! ### Where a host ends -/

lemma isSeparator_inHost {c : Char} (scheme : String) (h : InHost c) :
    isSeparator scheme c = false := by
  have hslash : c ≠ '/' ∧ c ≠ '\\' := by
    refine ⟨?_, ?_⟩ <;> rintro rfl <;> exact h.2 (by decide)
  simp [isSeparator, hslash]

lemma spanHost_end (scheme : String) {rest : List Char} (h : EndsHost rest) :
    spanHost scheme false rest = ([], rest) := by
  cases rest with
  | nil => rfl
  | cons c rest =>
    have hc : (isSeparator scheme c || (c == ':' && !false)) = true := by
      rcases h c rfl with rfl | rfl <;> simp [isSeparator]
    rw [spanHost, if_pos hc]

lemma spanHost_word (scheme : String) {word rest : List Char}
    (h : ∀ c ∈ word, InHost c ∧ c ≠ ':' ∧ c ≠ '[') (hrest : EndsHost rest) :
    spanHost scheme false (word ++ rest) = (word, rest) := by
  induction word with
  | nil => exact spanHost_end scheme hrest
  | cons c word ih =>
    obtain ⟨⟨hc, hcolon, hbracket⟩, hword⟩ := List.forall_mem_cons.1 h
    rw [List.cons_append, spanHost, if_neg (by simp [isSeparator_inHost scheme hc, hcolon])]
    simp [hbracket, ih hword]

lemma spanHost_inside (scheme : String) {word rest : List Char} (h : ∀ c ∈ word, InHost c ∧ c ≠ ']')
    (hrest : EndsHost rest) :
    spanHost scheme true (word ++ ']' :: rest) = (word ++ [']'], rest) := by
  induction word with
  | nil =>
    have hbracket : isSeparator scheme ']' = false := isSeparator_inHost scheme (by decide)
    rw [List.nil_append, spanHost, if_neg (by simp [hbracket])]
    simp [spanHost_end scheme hrest]
  | cons c word ih =>
    obtain ⟨⟨hc, hbracket⟩, hword⟩ := List.forall_mem_cons.1 h
    have hstate : (if c == '[' then true else true && c != ']') = true := by simp [hbracket]
    rw [List.cons_append, spanHost, if_neg (by simp [isSeparator_inHost scheme hc]), hstate,
      ih hword]
    rfl

/-! ### Names and addresses -/

/-- A character of a name is none that ends the name, and needs no decoding. -/
lemma inHost_of_inName {c : Char} (h : Domain.InName c ∧ Domain.isForbidden c = false) :
    InHost c ∧ c ≠ ':' ∧ c ≠ '[' ∧ c ≠ '%' := by
  have hall : ∀ n < 128, Domain.isForbidden (.ofNat n) = false →
      InHost (.ofNat n) ∧ Char.ofNat n ≠ ':' ∧ Char.ofNat n ≠ '[' ∧ Char.ofNat n ≠ '%' := by
    decide +kernel
  exact Text.forall_below (p := fun c => Domain.isForbidden c = false →
    InHost c ∧ c ≠ ':' ∧ c ≠ '[' ∧ c ≠ '%') hall h.1.1 h.2

variable {name : List Char}

/-- A name in ASCII is what a host is read from. -/
lemma host?_of_toAscii? (h : Domain.toAscii? name = some name) (hne : name ≠ []) :
    host? name = if endsInNumber name then
        match ipv4? name with
        | some address => .ok (.ipv4 address)
        | none => .error .ipv4
      else .ok (.name (.ofList name)) := by
  have hname := fun c hc => inHost_of_inName (Domain.inName_of_toAscii? h c hc)
  have hhead : name.head? ≠ some '[' := fun heq =>
    (hname '[' (List.mem_of_mem_head? heq)).2.2.1 rfl
  have hpercent : '%' ∉ name := fun hmem => (hname '%' hmem).2.2.2 rfl
  rw [host?, if_neg (by simpa using hhead), Text.ofBytes?_percentDecode hpercent, Option.bind_some,
    String.toList_ofList, h]
  cases name with
  | nil => exact absurd rfl hne
  | cons c name => rfl

lemma settled_of_reads {host : Host} {text : List Char} (htext : host.toText.toList = text)
    (h : Domain.toAscii? text = some text) (hne : text ≠ []) (hreads : host? text = .ok host) :
    host.Settled where
  reads := htext ▸ hreads
  filled := htext ▸ hne
  printed := fun c hc => (inHost_of_inName (Domain.inName_of_toAscii? h c (htext ▸ hc))).1
  spanned := fun scheme rest hrest => by
    rw [htext]
    refine spanHost_word scheme (fun c hc => ?_) hrest
    have hname := inHost_of_inName (Domain.inName_of_toAscii? h c hc)
    exact ⟨hname.1, hname.2.1, hname.2.2.1⟩

lemma settled_name (h : Domain.toAscii? name = some name) (hne : name ≠ [])
    (hnumber : ¬ endsInNumber name) : (Host.name (.ofList name)).Settled :=
  settled_of_reads String.toList_ofList h hne (by rw [host?_of_toAscii? h hne, if_neg hnumber])

lemma settled_ipv4 {n : Nat} (h : n < 2 ^ 32) : (Host.ipv4 n).Settled := by
  have hparts : dottedParts n ≠ [] := by simp [dottedParts, fourBytes]
  have hascii := Domain.toAscii?_digits hparts isAsciiDigit_of_dottedParts
  have hnumber := endsInNumber_dottedParts n
  have hne : ['.'].intercalate (dottedParts n) ≠ [] := by
    intro heq
    rw [heq] at hnumber
    exact absurd hnumber (by decide)
  refine settled_of_reads (toList_ipv4 n) hascii hne ?_
  rw [host?_of_toAscii? hascii hne, if_pos hnumber, ipv4?_dottedParts h]

lemma settled_ipv6 {pieces : List Nat} (hlength : pieces.length = 8)
    (h : ∀ n ∈ pieces, IsPiece n) : (Host.ipv6 pieces).Settled := by
  have htext : (Host.ipv6 pieces).toText.toList = '[' :: ((ipv6Text pieces).toList ++ [']']) := by
    simp [Host.toText]
  have hinside : ∀ c ∈ (ipv6Text pieces).toList, InHost c ∧ c ≠ ']' := by
    have hall : ∀ c ∈ "0123456789abcdef:".toList, InHost c ∧ c ≠ ']' :=
      List.all_iff_forall_prop.1 (by decide)
    exact fun c hc => hall c (mem_ipv6Text hc)
  refine ⟨?_, by simp [htext], fun c hc => ?_, fun scheme rest hrest => ?_⟩
  · have hlast : ('[' :: ((ipv6Text pieces).toList ++ [']'])).getLast? = some ']' := by
      rw [← List.cons_append, List.getLast?_concat]
    have hwithin : (('[' :: ((ipv6Text pieces).toList ++ [']'])).drop 1).dropLast =
        (ipv6Text pieces).toList := by simp
    rw [htext, host?, if_pos (by rfl), bracketed?, hlast, hwithin, ipv6?_ipv6Text hlength h]
    rfl
  · rw [htext] at hc
    rcases List.mem_cons.1 hc with rfl | hc
    · decide
    · rcases List.mem_append.1 hc with hc | hc
      · exact (hinside c hc).1
      · rw [List.mem_singleton.1 hc]
        decide
  · have hbracket : isSeparator scheme '[' = false := isSeparator_inHost scheme (by decide)
    rw [htext, List.cons_append, List.append_assoc, List.singleton_append, spanHost,
      if_neg (by simp [hbracket])]
    simp [spanHost_inside scheme hinside hrest]

/-- **A host that is read is read back.** -/
theorem settled_of_host? {cs : List Char} {host : Host} (h : host? cs = .ok host) :
    host.Settled := by
  unfold host? at h
  split_ifs at h with hbracket
  · unfold bracketed? at h
    split at h
    · next pieces _ hpieces =>
      cases h
      obtain ⟨hlength, hall⟩ := of_ipv6? hpieces
      exact settled_ipv6 hlength hall
    · cases h
  · split at h
    · cases h
    · cases h
    · next name hne hname =>
      obtain ⟨text, -, hascii⟩ := Option.bind_eq_some_iff.1 hname
      have hself := Domain.toAscii?_of_toAscii? hascii
      split_ifs at h with hnumber
      · split at h
        · next address haddress =>
          cases h
          exact settled_ipv4 (lt_of_ipv4? haddress)
        · cases h
      · cases h
        exact settled_name hself (fun heq => hne (heq ▸ rfl)) hnumber

end Estate.Url
