import Mathlib.Tactic.Lemma
import Estate.ImageUrl
import Estate.Proofs.Url.Web

/-!
The addresses pictures are kept under. Up to the replacements that lead from small pictures to full
ones, an address that is kept satisfies all that is asked of it, and is kept as it is.
-/

namespace Estate.ImageUrl

/-- An address on the web with a host, by a scheme and with an extension that the policy accepts. -/
structure Policy.Admits (p : Policy) (u : Url) : Prop where
  scheme : u.scheme = "https" ∨ u.scheme = "http" ∧ p.upgrade = false
  host : u.hostText ≠ ""
  extension : ∀ ext ∈ extension? u, ∃ allowed ∈ p.extensions, Text.sameIgnoringAsciiCase allowed ext

/-- A text that stands for such an address. -/
def Policy.Satisfied (p : Policy) (text : String) : Prop :=
  ∃ u, Url.ofText text = .ok u ∧ p.Admits u

instance (p : Policy) (u : Url) : Decidable (p.Admits u) :=
  decidable_of_iff ((u.scheme = "https" ∨ u.scheme = "http" ∧ p.upgrade = false) ∧
      u.hostText ≠ "" ∧
      ∀ ext ∈ extension? u, ∃ allowed ∈ p.extensions, Text.sameIgnoringAsciiCase allowed ext)
    ⟨fun ⟨hscheme, hhost, hextension⟩ => ⟨hscheme, hhost, hextension⟩,
      fun ⟨hscheme, hhost, hextension⟩ => ⟨hscheme, hhost, hextension⟩⟩

instance (p : Policy) (text : String) : Decidable (p.Satisfied text) :=
  match h : Url.ofText text with
  | .error _ => isFalse fun ⟨_, hu, _⟩ => by
    rw [h] at hu
    cases hu
  | .ok u => decidable_of_iff (p.Admits u)
    ⟨fun hadmits => ⟨u, h, hadmits⟩, fun ⟨v, hv, hadmits⟩ => by
      rw [h] at hv
      cases hv
      exact hadmits⟩

variable {p : Policy}

lemma accepts_iff {u : Url} : p.accepts u ↔
    ∀ ext ∈ extension? u, ∃ allowed ∈ p.extensions, Text.sameIgnoringAsciiCase allowed ext := by
  simp [Policy.accepts, Option.all_eq_true]

/-- The text an address is read from. -/
def absolute (raw : String) : String :=
  if (Text.trimmed raw).startsWith "//" then "https:" ++ Text.trimmed raw else Text.trimmed raw

/-- What is kept is the text of an address that is secured, has a host and is accepted. -/
lemma normalize?_eq_some {raw text : String} : p.normalize? raw = some text ↔
    ∃ u v, Url.ofText (absolute raw) = .ok u ∧ p.secured? u = some v ∧ v.hostText ≠ "" ∧
      p.accepts v ∧ p.enlarge v.toText = text := by
  have hok : ∀ {x : Except Url.Fault Url} {u : Url}, x.toOption = some u ↔ x = .ok u := by
    rintro (_ | _) u <;> simp [Except.toOption]
  unfold Policy.normalize?
  dsimp only
  rw [← absolute, Option.bind_eq_some_iff]
  simp only [hok, Option.bind_eq_some_iff]
  constructor
  · rintro ⟨u, hu, v, hv, h⟩
    split_ifs at h with hif
    cases h
    simp only [Bool.or_eq_true, not_or, String.isEmpty_iff, Bool.not_eq_true',
      Bool.not_eq_false] at hif
    exact ⟨u, v, hu, hv, hif.1, hif.2, rfl⟩
  · rintro ⟨u, v, hu, hv, hhost, haccepts, rfl⟩
    exact ⟨u, hu, v, hv, if_neg (by simp [hhost, haccepts])⟩

/-- A secured address is on the web, by a scheme that is accepted. -/
lemma of_secured? {u v : Url} (h : p.secured? u = some v)
    (hu : u.scheme = "http" ∨ u.scheme = "https" → u.Web) :
    v.Web ∧ (v.scheme = "https" ∨ v.scheme = "http" ∧ p.upgrade = false) := by
  unfold Policy.secured? at h
  split_ifs at h with hsecure hplain hupgrade
  · cases h
    have hscheme := beq_iff_eq.1 hsecure
    exact ⟨hu (.inr hscheme), .inl hscheme⟩
  · cases h
    exact ⟨(hu (.inl (beq_iff_eq.1 hplain))).secure, .inl rfl⟩
  · cases h
    have hscheme := beq_iff_eq.1 hplain
    exact ⟨hu (.inl hscheme), .inr ⟨hscheme, by simpa using hupgrade⟩⟩

/-- The same policy with no replacements to be made. -/
def Policy.plain (p : Policy) : Policy := { p with thumbnails := [] }

/-- What is kept is what the replacements make of the text of an address that is admitted, which is
kept where there are none. -/
lemma exists_of_normalize? {raw text : String} (h : p.normalize? raw = some text) :
    ∃ v : Url, v.Web ∧ p.Admits v ∧ p.plain.normalize? raw = some v.toText ∧
      p.enlarge v.toText = text := by
  obtain ⟨u, v, hu, hv, hhost, haccepts, rfl⟩ := normalize?_eq_some.1 h
  obtain ⟨hweb, hscheme⟩ := of_secured? hv (Url.web_of_ofText hu)
  have hplain : p.plain.normalize? raw = some v.toText :=
    normalize?_eq_some.2 ⟨u, v, hu, hv, hhost, haccepts, rfl⟩
  exact ⟨v, hweb, ⟨hscheme, hhost, accepts_iff.1 haccepts⟩, hplain, rfl⟩

lemma enlarge_of_empty (h : ∀ t ∈ p.thumbnails, t.pattern = "") (text : String) :
    p.enlarge text = text := by
  unfold Policy.enlarge
  refine List.foldlRecOn (motive := (· = text)) p.thumbnails _ rfl fun kept hkept t ht => ?_
  rw [h t ht, Text.replaceText, if_pos (by rfl), String.ofList_toList, hkept]

/-- The text of an address on the web has no blanks around it and starts with its scheme. -/
lemma absolute_toText {u : Url} (h : u.Web) : absolute u.toText = u.toText := by
  have hblank : ∀ c ∈ u.toText.toList, Text.isBlank c = false := fun c hc =>
    Text.forall_printed (p := fun c => Text.isBlank c = false) (by decide) (h.printed_toText c hc)
  have htrimmed : Text.trimmed u.toText = u.toText := by
    rw [Text.trimmed, (Text.tight_of_all hblank).trim, String.ofList_toList]
  have hstart : ¬ u.toText.startsWith "//" := by
    rw [String.startsWith_string_iff, h.toList_toText]
    rintro ⟨rest, hrest⟩
    rcases h.scheme with hscheme | hscheme <;> rw [hscheme] at hrest <;> simp at hrest
  rw [absolute, htrimmed, if_neg hstart]

lemma secured?_of_admits {u : Url} (h : p.Admits u) : p.secured? u = some u := by
  unfold Policy.secured?
  rcases h.scheme with hscheme | ⟨hscheme, hupgrade⟩
  · rw [hscheme]
    rfl
  · rw [hscheme, hupgrade]
    rfl

/-- **What a kept address satisfies.** The replacements are made last and in order, and start from
the address that is kept without them, which satisfies the policy; where nothing is to be replaced,
the address that is kept does so itself. -/
theorem satisfied_of_normalize? {raw text : String} (h : p.normalize? raw = some text) :
    (∃ start, p.plain.normalize? raw = some start ∧ p.Satisfied start ∧ p.enlarge start = text) ∧
      ((∀ t ∈ p.thumbnails, t.pattern = "") → p.Satisfied text) := by
  obtain ⟨v, hweb, hadmits, hplain, rfl⟩ := exists_of_normalize? h
  have hstart : p.Satisfied v.toText := ⟨v, hweb.ofText_toText, hadmits⟩
  refine ⟨⟨v.toText, hplain, hstart, rfl⟩, fun hempty => ?_⟩
  rwa [enlarge_of_empty hempty]

/-- The replacements of a portal that keeps its small pictures in a folder of their own. -/
def largePictures : Policy := ⟨true, commonExtensions, [⟨"/thumbs/", "/large/"⟩, ⟨"_s.", "_xl."⟩]⟩

/-- An empty pattern is found nowhere. -/
def sparePattern : Policy := ⟨true, commonExtensions, [⟨"", "_"⟩]⟩

theorem satisfied_large :
    (largePictures.normalize? "//img.x.com/thumbs/44_s.webp" =
        some "https://img.x.com/large/44_xl.webp" ∧
      ∃ start, largePictures.plain.normalize? "//img.x.com/thumbs/44_s.webp" = some start ∧
        largePictures.Satisfied start ∧
        largePictures.enlarge start = "https://img.x.com/large/44_xl.webp") ∧
    (sparePattern.normalize? "http://x.com/a.png" = some "https://x.com/a.png" ∧
      sparePattern.Satisfied "https://x.com/a.png") :=
  have hlarge : largePictures.normalize? "//img.x.com/thumbs/44_s.webp" =
      some "https://img.x.com/large/44_xl.webp" := by decide +kernel
  have hspare : sparePattern.normalize? "http://x.com/a.png" = some "https://x.com/a.png" := by
    decide +kernel
  ⟨⟨hlarge, (satisfied_of_normalize? hlarge).1⟩,
    ⟨hspare, (satisfied_of_normalize? hspare).2 (by decide)⟩⟩

/-- A replacement may lead to what is not accepted. -/
theorem document_of_replacement :
    let p : Policy := ⟨true, commonExtensions, [⟨"jpg", "pdf"⟩]⟩
    p.normalize? "https://x.com/a.jpg" = some "https://x.com/a.pdf" ∧
      ¬ p.Satisfied "https://x.com/a.pdf" := by
  decide +kernel

/-- **A kept address is kept as it is**, where no replacements are to be made. -/
theorem normalize?_of_normalize? {raw text : String} (hthumbnails : p.thumbnails = [])
    (h : p.normalize? raw = some text) : p.normalize? text = some text := by
  have henlarge : ∀ text, p.enlarge text = text := enlarge_of_empty (by simp [hthumbnails])
  obtain ⟨v, hweb, hadmits, -, htext⟩ := exists_of_normalize? h
  rw [henlarge] at htext
  subst htext
  have hreads : Url.ofText (absolute v.toText) = .ok v := by
    rw [absolute_toText hweb, hweb.ofText_toText]
  exact normalize?_eq_some.2 ⟨v, v, hreads, secured?_of_admits hadmits, hadmits.host,
    accepts_iff.2 hadmits.extension, henlarge _⟩

theorem normalize?_spelled :
    Policy.standard.normalize? " http://Ann@X.com:80/./a b.JPG " =
        some "https://Ann@x.com/a%20b.JPG" ∧
      Policy.standard.normalize? "https://Ann@x.com/a%20b.JPG" =
        some "https://Ann@x.com/a%20b.JPG" :=
  have h : Policy.standard.normalize? " http://Ann@X.com:80/./a b.JPG " =
      some "https://Ann@x.com/a%20b.JPG" := by decide +kernel
  ⟨h, normalize?_of_normalize? rfl h⟩

end Estate.ImageUrl
