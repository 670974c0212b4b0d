import Mathlib.Data.Bool.AllAny
import Mathlib.Data.List.Basic
import Mathlib.Tactic.Lemma
import Estate.Proofs.Text.Parts
import Estate.Proofs.Text.Percent
import Estate.Url.Parser

/-!
The path of an address on the web is read as it is written: no segment of a path that has been read
stands for the one above it or for the same one, also once it is percent-encoded.
-/

namespace Estate.Url

/-! ### Segments that stand for others -/

/-- A set under which points and what spells bytes are left as they are. -/
lemma mem_names_of_percentEncode {set part : List Char} {names : List String}
    (hset : Text.leaves set '.') (hnames : ∀ name ∈ names, Text.Points name.toList)
    (h : names.contains (String.ofList (Text.percentEncode set part)).toLower) :
    names.contains (String.ofList part).toLower := by
  rw [List.contains_iff_mem] at h ⊢
  have hpoints : part.map Char.toLower =
      (String.ofList (Text.percentEncode set part)).toLower.toList :=
    Text.points_of_percentEncode hset (hnames _ h)
      (Text.toList_toLower _).symm
  have heq : (String.ofList part).toLower = (String.ofList (Text.percentEncode set part)).toLower :=
    String.toList_inj.1 (by rw [← hpoints, Text.toList_toLower])
  rwa [heq]

lemma isDot_encodeText {part : List Char} (h : isDot part = false) :
    isDot (encodeText pathSet part).toList = false := by
  rw [encodeText, String.toList_ofList]
  refine Bool.eq_false_iff.2 fun hdot => Bool.eq_false_iff.1 h ?_
  refine mem_names_of_percentEncode (by decide) ?_ hdot
  simp only [List.forall_mem_cons]
  exact ⟨.plain .nil, .spelled .nil, by simp⟩

lemma isDoubleDot_encodeText {part : List Char} (h : isDoubleDot part = false) :
    isDoubleDot (encodeText pathSet part).toList = false := by
  rw [encodeText, String.toList_ofList]
  refine Bool.eq_false_iff.2 fun hdot => Bool.eq_false_iff.1 h ?_
  refine mem_names_of_percentEncode (by decide) ?_ hdot
  simp only [List.forall_mem_cons]
  exact ⟨.plain (.plain .nil), .plain (.spelled .nil), .spelled (.plain .nil),
    .spelled (.spelled .nil), by simp⟩

/-! ### Segments -/

/-- A text that holds nothing to encode. -/
def Encoded (set : String) (cs : List Char) : Prop := ∀ c ∈ cs, Text.leaves set.toList c

lemma encoded_encodeText {set : String} (hset : Text.Spells set.toList) (cs : List Char) :
    Encoded set (encodeText set cs).toList := by
  rw [encodeText, String.toList_ofList]
  exact Text.leaves_percentEncode hset

lemma encodeText_of_encoded {set s : String} (h : Encoded set s.toList) :
    encodeText set s.toList = s := by
  rw [encodeText, Text.percentEncode_of_leaves h, String.ofList_toList]

/-- A segment of a path that has been read. -/
structure IsSegment (segment : String) : Prop where
  encoded : Encoded pathSet segment.toList
  whole : ∀ c ∈ segment.toList, isSlash c = false
  named : isDot segment.toList = false ∧ isDoubleDot segment.toList = false

lemma isSegment_empty : IsSegment "" where
  encoded := by simp [Encoded]
  whole := by simp
  named := by decide +kernel

lemma isSegment_encodeText {part : List Char} (hwhole : ∀ c ∈ part, isSlash c = false)
    (hdot : isDot part = false) (hdouble : isDoubleDot part = false) :
    IsSegment (encodeText pathSet part) where
  encoded := encoded_encodeText (by decide) part
  whole := by
    intro c hc
    rw [encodeText, String.toList_ofList] at hc
    rcases Text.mem_percentEncode hc with ⟨hmem, -⟩ | hspells
    · exact hwhole c hmem
    · have hall : ∀ c ∈ "%0123456789ABCDEF".toList, isSlash c = false :=
        List.all_iff_forall_prop.1 (by decide)
      exact hall c hspells
  named := ⟨isDot_encodeText hdot, isDoubleDot_encodeText hdouble⟩

/-! ### Walks -/

section

variable {scheme : String} {done : List String} {parts : List (List Char)}

/-- What one part of a path does: it may leave segments, and the last one adds one at least. -/
lemma walk_cons (hscheme : scheme ≠ "file") (done : List String) (part : List Char)
    (parts : List (List Char)) :
    ∃ done', walk scheme done (part :: parts) = walk scheme done' parts ∧
      (parts = [] → done' ≠ []) ∧ ∀ s ∈ done', s ∈ done ∨ s = "" ∨
        (s = encodeText pathSet part ∧ isDot part = false ∧ isDoubleDot part = false) := by
  have hending : parts = [] → (if parts.isEmpty then [""] else []) ≠ [] := by
    rintro rfl
    simp
  have hempty : ∀ s ∈ (if parts.isEmpty then [""] else []), s = "" := by
    split_ifs <;> simp
  generalize hgeneral : (if parts.isEmpty then [""] else []) = ending at hending hempty
  have hdrive : ¬ (scheme == "file" && done.isEmpty && isDrive part) := by simp [hscheme]
  rw [walk, if_neg hdrive, hgeneral]
  split_ifs with hdouble hdot
  · refine ⟨leave done ++ ending, rfl, fun hparts => by simp [hending hparts], fun s hs => ?_⟩
    rcases List.mem_append.1 hs with hs | hs
    · unfold leave at hs
      split_ifs at hs
      · exact .inl hs
      · exact .inl (List.dropLast_subset done hs)
    · exact .inr (.inl (hempty s hs))
  · refine ⟨done ++ ending, rfl, fun hparts => by simp [hending hparts], fun s hs => ?_⟩
    exact (List.mem_append.1 hs).imp_right fun hs => .inl (hempty s hs)
  · refine ⟨done ++ [encodeText pathSet part], rfl, by simp, fun s hs => ?_⟩
    refine (List.mem_append.1 hs).imp_right fun hs => .inr ⟨List.mem_singleton.1 hs, ?_, ?_⟩
    · simpa using hdot
    · simpa using hdouble

/-- Wherever a path leads, it goes through segments. -/
lemma isSegment_walk (hscheme : scheme ≠ "file") (hdone : ∀ s ∈ done, IsSegment s)
    (hparts : ∀ part ∈ parts, ∀ c ∈ part, isSlash c = false) :
    ∀ s ∈ walk scheme done parts, IsSegment s := by
  induction parts generalizing done with
  | nil => exact hdone
  | cons part parts ih =>
    obtain ⟨hpart, hmore⟩ := List.forall_mem_cons.1 hparts
    obtain ⟨done', hwalk, -, hcases⟩ := walk_cons hscheme done part parts
    rw [hwalk]
    refine ih (fun s hs => ?_) hmore
    rcases hcases s hs with hs | rfl | ⟨rfl, hdot, hdouble⟩
    · exact hdone s hs
    · exact isSegment_empty
    · exact isSegment_encodeText hpart hdot hdouble

lemma walk_ne_nil (hscheme : scheme ≠ "file") (h : parts ≠ []) : walk scheme done parts ≠ [] := by
  induction parts generalizing done with
  | nil => exact absurd rfl h
  | cons part parts ih =>
    obtain ⟨done', hwalk, hlast, -⟩ := walk_cons hscheme done part parts
    rw [hwalk]
    cases parts with
    | nil => exact hlast rfl
    | cons next parts => exact ih (by simp)

/-- A path through segments leads along all of them. -/
lemma walk_segments (hscheme : scheme ≠ "file") {segments : List String}
    (h : ∀ s ∈ segments, IsSegment s) :
    walk scheme done (segments.map String.toList) = done ++ segments := by
  induction segments generalizing done with
  | nil => simp [walk]
  | cons s segments ih =>
    obtain ⟨hs, hmore⟩ := List.forall_mem_cons.1 h
    have hdrive : (scheme == "file" && done.isEmpty && isDrive s.toList) = false := by
      simp [hscheme]
    rw [List.map_cons, walk, if_neg (by simp [hs.named.2]), if_neg (by simp [hs.named.1]),
      if_neg (by simp [hdrive]), encodeText_of_encoded hs.encoded, ih hmore, List.append_assoc,
      List.singleton_append]

end

/-! ### Paths -/

/-- A path that has been read: segments, one at least. -/
def IsPath (path : Path) : Prop :=
  ∃ segments, path = .segments segments ∧ segments ≠ [] ∧ ∀ s ∈ segments, IsSegment s

lemma isSeparator_eq_isSlash {scheme : String} (h : isSpecial scheme) (c : Char) :
    isSeparator scheme c = isSlash c := by
  simp [isSeparator, isSlash, h]

lemma toList_segments (segments : List String) :
    (Path.segments segments).toText.toList = segments.flatMap fun s => '/' :: s.toList := by
  simp [Path.toText, String.toList_join, List.flatMap_map]

/-- Segments hold no slashes, so a path is cut between them. -/
lemma splitOnP_segments {p : Char → Bool} {s : String} {segments : List String} (hslash : p '/')
    (h : ∀ t ∈ s :: segments, ∀ c ∈ t.toList, p c = false) :
    (s.toList ++ segments.flatMap fun s => '/' :: s.toList).splitOnP p =
      (s :: segments).map String.toList := by
  induction segments generalizing s with
  | nil => simpa using List.splitOnP_eq_singleton (h s (by simp))
  | cons t segments ih =>
    obtain ⟨hs, hmore⟩ := List.forall_mem_cons.1 h
    rw [List.flatMap_cons, List.cons_append,
      List.splitOnP_append_cons_of_forall_mem hs '/' hslash, ih hmore,
      List.map_cons (l := t :: segments)]

section

variable {scheme : String} (hspecial : isSpecial scheme) (hscheme : scheme ≠ "file")

include hspecial hscheme

lemma isPath_rootPath (cs : List Char) : IsPath (rootPath scheme cs) := by
  have hfrom : ∀ cs, IsPath (pathFrom scheme [] cs) := fun cs => by
    refine ⟨_, by rw [pathFrom, if_pos (by simpa using hscheme)],
      walk_ne_nil hscheme (List.splitOnP_ne_nil _ _),
      isSegment_walk hscheme (by simp) fun part hpart c hc => ?_⟩
    rw [← isSeparator_eq_isSlash hspecial]
    exact (Text.mem_of_mem_splitOnP hpart c hc).2
  cases cs with
  | nil =>
    rw [rootPath, if_pos hspecial]
    exact ⟨[""], rfl, by simp, by simpa using isSegment_empty⟩
  | cons c cs => exact hfrom _

/-- **The path of an address on the web is read as it is written.** -/
lemma rootPath_toText {path : Path} (h : IsPath path) :
    rootPath scheme path.toText.toList = path := by
  obtain ⟨segments, rfl, hne, hall⟩ := h
  obtain ⟨s, segments, rfl⟩ := List.exists_cons_of_ne_nil hne
  have hslash : isSeparator scheme = isSlash := funext (isSeparator_eq_isSlash hspecial)
  rw [toList_segments, List.flatMap_cons, List.cons_append, rootPath,
    if_pos (by rw [hslash]; rfl), pathFrom, hslash,
    splitOnP_segments rfl fun t ht => (hall t ht).whole,
    if_pos (by simpa using hscheme), walk_segments hscheme hall, List.nil_append]

end

end Estate.Url
