import Estate.Json.Path
import Estate.Proofs.Json.PrintedNumber
import Estate.Proofs.Text.Content

/-!
Paths into a value, and the locations that they write. Paths that are joined by dots are walked one
after the other, whatever stands in them. A location is a sequence of keys and positions; a path
writes it with dots between and with positions between dots or in brackets. However it is written,
the path leads to what stands at the location.
-/

namespace Estate.Json

open Text (isBlank isDigits)

/-! ### Paths put together -/

lemma digits_of_isDigits {ds : List Char} (h : isDigits ds) :
    ds ≠ [] ∧ ∀ c ∈ ds, Text.isAsciiDigit c := by
  simpa [isDigits] using h

lemma exists_last_segment (path : List Char) :
    '.' ∉ path ∨ ∃ front segment, path = front ++ '.' :: segment ∧ '.' ∉ segment := by
  by_cases h : '.' ∈ path
  · obtain ⟨back, rest, hsplit, hback⟩ := List.eq_append_cons_of_mem (List.mem_reverse.2 h)
    refine .inr ⟨rest.reverse, back.reverse, ?_, by simpa using hback⟩
    rw [← List.reverse_reverse path, hsplit]
    simp
  · exact .inl h

lemma pathSteps_nil : pathSteps [] = [] := by decide

/-- Behind a dot a path goes on. -/
lemma pathSteps_dot (path more : List Char) :
    pathSteps (path ++ '.' :: more) = pathSteps path ++ pathSteps more := by
  have hsplit : (path ++ '.' :: more).splitOn '.' = path.splitOn '.' ++ more.splitOn '.' :=
    List.splitOnP_append_cons path more (beq_self_eq_true '.')
  rw [pathSteps, hsplit, List.map_append, List.flatMap_append, ← pathSteps, ← pathSteps]

/-- Paths that are joined by dots are walked one after the other. -/
lemma pathSteps_intercalate (paths : List (List Char)) :
    pathSteps (['.'].intercalate paths) = paths.flatMap pathSteps := by
  induction paths with
  | nil => exact pathSteps_nil
  | cons path paths ih =>
    cases paths with
    | nil => rw [List.intercalate_singleton, List.flatMap_singleton]
    | cons next more =>
      rw [List.intercalate_cons_cons, List.append_assoc, List.singleton_append, pathSteps_dot, ih,
        ← List.flatMap_cons]

lemma pathSteps_segment {segment : List Char} (h : '.' ∉ segment) :
    pathSteps segment = segmentSteps (Text.trim segment) := by
  have hsplit : segment.splitOn '.' = [segment] :=
    List.splitOnP_eq_singleton fun c hc => beq_eq_false_iff_ne.2 fun heq => h (heq ▸ hc)
  rw [pathSteps, hsplit, List.map_singleton, List.flatMap_singleton]

/-- A segment without a bracket is a name. -/
lemma segmentSteps_name {segment : List Char} (hne : segment ≠ []) (h : '[' ∉ segment) :
    segmentSteps segment = [.name segment] := by
  have hbracket : ∀ c ∈ segment, (c != '[') = true := fun c hc =>
    bne_iff_ne.2 fun heq => h (heq ▸ hc)
  have hfield : segment.takeWhile (· != '[') = segment := List.takeWhile_eq_self_iff.2 hbracket
  have hindices : segment.dropWhile (· != '[') = [] := List.dropWhile_eq_nil_iff.2 hbracket
  rw [segmentSteps, hfield, hindices]
  simp [hne]

/-- Brackets behind a segment count one item more. -/
lemma segmentSteps_bracket (segment : List Char) {index : List Char} (hne : index ≠ [])
    (h : ∀ c ∈ index, (c == '[' || c == ']') = false) :
    segmentSteps (segment ++ '[' :: (index ++ [']'])) =
      segmentSteps segment ++ [.item (Text.index? index)] := by
  have hfield : (segment ++ '[' :: (index ++ [']'])).takeWhile (· != '[') =
      segment.takeWhile (· != '[') := by
    rw [List.takeWhile_append]
    split
    · next hall =>
      rw [List.takeWhile_cons_of_neg (by simp), List.append_nil]
      exact ((List.takeWhile_prefix _).eq_of_length hall).symm
    · rfl
  have hindices : (segment ++ '[' :: (index ++ [']'])).dropWhile (· != '[') =
      segment.dropWhile (· != '[') ++ '[' :: (index ++ [']']) := by
    rw [List.dropWhile_append]
    split
    · next hall =>
      rw [List.isEmpty_iff.1 hall, List.dropWhile_cons_of_neg (by simp), List.nil_append]
    · rfl
  have hlast : (index ++ [']']).splitOnP (fun c => c == '[' || c == ']') = [index, []] :=
    List.splitOnP_append_cons_of_forall_mem h ']' rfl []
  rw [segmentSteps, hfield, hindices, List.splitOnP_append_cons _ _ rfl, hlast, segmentSteps]
  simp [hne]

/-- Brackets behind a path count an item of what the path leads to. -/
lemma pathSteps_bracket {path index : List Char} (hpath : ∀ c ∈ path.getLast?, isBlank c = false)
    (hindex : isDigits index) :
    pathSteps (path ++ '[' :: (index ++ [']'])) =
      pathSteps path ++ [.item (Text.index? index)] := by
  obtain ⟨hne, hdigits⟩ := digits_of_isDigits hindex
  have hdot : '.' ∉ '[' :: (index ++ [']']) := by
    simp only [List.mem_cons, List.mem_append, List.not_mem_nil, or_false, not_or]
    exact ⟨by decide, fun hmem => absurd (hdigits _ hmem) (by decide), by decide⟩
  have htight : Text.Tight ('[' :: (index ++ [']'])) := by
    refine ⟨fun c hc => ?_, fun c hc => ?_⟩
    · obtain rfl := Option.some.inj hc
      decide
    · rw [← List.cons_append, List.getLast?_concat] at hc
      obtain rfl := Option.some.inj hc
      decide
  have hinside : ∀ c ∈ index, (c == '[' || c == ']') = false := by
    intro c hc
    have hdigit := hdigits c hc
    by_contra hbracket
    simp only [Bool.not_eq_false, Bool.or_eq_true, beq_iff_eq] at hbracket
    rcases hbracket with rfl | rfl <;> exact absurd hdigit (by decide)
  have hsegment {segment : List Char} (hsegment : '.' ∉ segment)
      (hlast : ∀ c ∈ segment.getLast?, isBlank c = false) :
      pathSteps (segment ++ '[' :: (index ++ [']'])) =
        pathSteps segment ++ [.item (Text.index? index)] := by
    have hmore : '.' ∉ segment ++ '[' :: (index ++ [']']) := fun hmem =>
      (List.mem_append.1 hmem).elim hsegment hdot
    rw [pathSteps_segment hmore, pathSteps_segment hsegment, htight.trim_append (by simp) hlast,
      segmentSteps_bracket _ hne hinside]
  -- Only the segment behind the last dot is concerned.
  rcases exists_last_segment path with hsingle | ⟨front, segment, rfl, hlast⟩
  · exact hsegment hsingle hpath
  · have hend : ∀ c ∈ segment.getLast?, isBlank c = false := by
      intro c hc
      refine hpath c ?_
      rw [List.getLast?_append, List.getLast?_cons, Option.mem_def.1 hc]
      rfl
    rw [List.append_assoc, List.cons_append, pathSteps_dot, pathSteps_dot, hsegment hlast hend,
      List.append_assoc]

/-- A value is walked along the parts of a path, whatever they are. -/
lemma foldlM_flatMap_pathSteps (v : Value) (paths : List String) :
    (paths.flatMap fun path => pathSteps path.toList).foldlM Value.step? v =
      paths.foldlM Value.at? v := by
  induction paths generalizing v with
  | nil => rfl
  | cons path paths ih =>
    rw [List.flatMap_cons, List.foldlM_append, List.foldlM_cons]
    exact bind_congr ih

/-- **Paths compose**: a path that is put together with a dot leads where the second part leads from
where the first one leads, and nowhere if either part does; and so does any row of paths. -/
theorem paths_compose (v : Value) :
    (∀ p q : String, v.at? (p ++ "." ++ q) = (v.at? p).bind (·.at? q)) ∧
      ∀ paths : List String, v.at? (".".intercalate paths) = paths.foldlM Value.at? v := by
  refine ⟨fun p q => ?_, fun paths => ?_⟩
  · have hsteps : pathSteps (p ++ "." ++ q).toList = pathSteps p.toList ++ pathSteps q.toList := by
      rw [String.toList_append, String.toList_append, List.append_assoc]
      exact pathSteps_dot p.toList q.toList
    rw [Value.at?, hsteps, List.foldlM_append]
    rfl
  · have hsteps : pathSteps (".".intercalate paths).toList =
        paths.flatMap fun path => pathSteps path.toList := by
      rw [String.toList_intercalate, ← List.flatMap_map]
      exact pathSteps_intercalate _
    rw [Value.at?, hsteps, foldlM_flatMap_pathSteps]

/-- A bracket that is not closed, a blank segment and one that is empty. -/
example : (Value.object [("a", .array [.null, .bool true])]).at? ("a[1" ++ "." ++ " . ") =
    some (.bool true) := rfl

/-! ### Locations -/

/-- A move to a member by its key or to an item by its position, which is a machine word. -/
inductive Place where
  | key (key : String)
  | item (index : UInt64)

def Value.child? (v : Value) : Place → Option Value
  | .key key => v.member? key
  | .item index => v.item? index.toNat

/-- What stands at a location. -/
def Value.follow? (v : Value) (location : List Place) : Option Value :=
  location.foldlM Value.child? v

/-- A key that can stand between dots as it is. -/
structure PlainKey (key : List Char) : Prop where
  filled : key ≠ []
  dot : '.' ∉ key
  bracket : '[' ∉ key
  tight : Text.Tight key

/-- Digits that write a number. -/
def Counts (digits : List Char) (n : Nat) : Prop := isDigits digits ∧ Text.digitsValue digits = n

/-- A segment that names a place. -/
inductive Names : List Char → Place → Prop where
  | key {key : String} (h : PlainKey key.toList) : Names key.toList (.key key)
  | item {digits : List Char} {index : UInt64} (h : Counts digits index.toNat) :
    Names digits (.item index)

/-- A path with a segment behind it. -/
def joined (path segment : List Char) : List Char :=
  if path.isEmpty then segment else path ++ '.' :: segment

/-- A path that writes a location: places between dots, and items in brackets behind what is before
them. -/
inductive Written : List Place → List Char → Prop where
  | root : Written [] []
  | dotted {location : List Place} {place : Place} {path segment : List Char}
    (h : Written location path) (hsegment : Names segment place) :
    Written (location ++ [place]) (joined path segment)
  | bracketed {location : List Place} {index : UInt64} {path digits : List Char}
    (h : Written location path) (hdigits : Counts digits index.toNat) :
    Written (location ++ [.item index]) (path ++ '[' :: (digits ++ [']']))

section

variable {location : List Place} {place : Place} {path segment digits : List Char}

lemma Counts.index? {index : UInt64} (h : Counts digits index.toNat) :
    Text.index? digits = some index.toNat := by
  obtain ⟨hdigits, hvalue⟩ := h
  have hlt : Text.digitsValue digits < 2 ^ 64 := hvalue ▸ index.toNat_lt
  have hsign : ∀ rest, digits ≠ '+' :: rest := by
    rintro rest rfl
    exact absurd hdigits (by simp [isDigits, Text.isAsciiDigit])
  rw [Text.index?, if_pos (by simp [hdigits, hlt]), hvalue]
  exact hsign

lemma Counts.tight {n : Nat} (h : Counts digits n) : Text.Tight digits :=
  Text.tight_of_all fun c hc =>
    Text.isBlank_of_isAsciiDigit ((digits_of_isDigits h.1).2 c hc)

lemma Names.plain (h : Names segment place) : PlainKey segment := by
  cases h with
  | key h => exact h
  | item h =>
    obtain ⟨hne, hdigits⟩ := digits_of_isDigits h.1
    exact ⟨hne, fun hmem => absurd (hdigits _ hmem) (by decide),
      fun hmem => absurd (hdigits _ hmem) (by decide), h.tight⟩

/-- A segment that names a place leads to it. -/
lemma Names.step? {v w : Value} (h : Names segment place) (hw : v.child? place = some w) :
    v.step? (.name segment) = some w := by
  cases h with
  | key h =>
    rw [Value.child?] at hw
    simp [Value.step?, String.ofList_toList, hw]
  | item h =>
    rw [Value.child?] at hw
    cases v with
    | array items => simpa [Value.step?, Value.member?, h.index?] using hw
    | _ => cases hw

lemma PlainKey.pathSteps (h : PlainKey segment) : pathSteps segment = [.name segment] := by
  rw [pathSteps_segment h.dot, h.tight.trim, segmentSteps_name h.filled h.bracket]

lemma pathSteps_joined (path : List Char) (h : PlainKey segment) :
    pathSteps (joined path segment) = pathSteps path ++ [.name segment] := by
  have hsegment := h.pathSteps
  cases path with
  | nil => rw [joined, List.isEmpty_nil, if_pos rfl, pathSteps_nil, hsegment, List.nil_append]
  | cons c path =>
    rw [joined, List.isEmpty_cons, if_neg Bool.false_ne_true, pathSteps_dot, hsegment]

lemma Written.last (h : Written location path) : ∀ c ∈ path.getLast?, isBlank c = false := by
  cases h with
  | root => simp
  | dotted h hsegment =>
    obtain ⟨hne, -, -, htight⟩ := hsegment.plain
    intro c hc
    refine htight.last c ?_
    rw [joined] at hc
    split at hc
    · exact hc
    · obtain ⟨d, rest, rfl⟩ := List.exists_cons_of_ne_nil hne
      simpa using hc
  | bracketed h hdigits =>
    intro c hc
    rw [← List.cons_append, ← List.append_assoc, List.getLast?_concat] at hc
    obtain rfl := Option.some.inj hc
    decide

lemma follow?_concat (v : Value) (location : List Place) (place : Place) :
    v.follow? (location ++ [place]) = (v.follow? location).bind (·.child? place) := by
  rw [Value.follow?, List.foldlM_append]
  simp [Value.follow?]

/-- The steps of a path that writes a location lead to what stands there. -/
lemma Written.walk (h : Written location path) {v w : Value} (hw : v.follow? location = some w) :
    (pathSteps path).foldlM Value.step? v = some w := by
  induction h generalizing w with
  | root => rwa [pathSteps_nil]
  | dotted h hsegment ih =>
    rw [follow?_concat] at hw
    obtain ⟨u, hu, hchild⟩ := Option.bind_eq_some_iff.1 hw
    rw [pathSteps_joined _ hsegment.plain, List.foldlM_append, ih hu]
    simp [hsegment.step? hchild]
  | @bracketed location index path digits h hdigits ih =>
    rw [follow?_concat] at hw
    obtain ⟨u, hu, hchild⟩ := Option.bind_eq_some_iff.1 hw
    rw [Value.child?] at hchild
    rw [pathSteps_bracket h.last hdigits.1, List.foldlM_append, ih hu, hdigits.index?]
    simpa [Value.step?] using hchild

lemma counts_toDigits (n : Nat) : Counts (Nat.toDigits 10 n) n := by
  have h := numeral_toDigits n
  refine ⟨?_, digitsValue_toDigits n⟩
  simp only [isDigits, Bool.and_eq_true, List.all_eq_true]
  exact ⟨by simp, h.digits⟩

lemma exists_written (h : ∀ key, .key key ∈ location → PlainKey key.toList) :
    ∃ path, Written location path := by
  induction location using List.reverseRecOn with
  | nil => exact ⟨[], .root⟩
  | append_singleton location place ih =>
    obtain ⟨path, hpath⟩ := ih fun key hkey => h key (by simp [hkey])
    cases place with
    | key key => exact ⟨_, .dotted hpath (.key (h key (by simp)))⟩
    | item index => exact ⟨_, .bracketed hpath (counts_toDigits index.toNat)⟩

end

/-- **Every location can be addressed**: where something stands at a location with plain keys, there
are paths that write the location, and each of them leads to it. -/
theorem location_addressed {v w : Value} {location : List Place}
    (hplain : ∀ key, .key key ∈ location → PlainKey key.toList)
    (h : v.follow? location = some w) :
    (∃ path : String, Written location path.toList) ∧
      ∀ path : String, Written location path.toList → v.at? path = some w := by
  obtain ⟨path, hpath⟩ := exists_written hplain
  exact ⟨⟨.ofList path, by rwa [String.toList_ofList]⟩, fun path hpath => hpath.walk h⟩

theorem location_addressed_mixed :
    let v : Value := .array [.object [("0", .array [.null, .ofInt 7])]]
    v.follow? [.item 0, .key "0", .item 1] = some (.ofInt 7) ∧
      v.at? "[0].0.1" = some (.ofInt 7) ∧ v.at? "0.0[1]" = some (.ofInt 7) := by
  intro v
  have hkey : PlainKey "0".toList :=
    ⟨by decide, by decide, by decide, Text.tight_of_all (by simp [Text.isBlank])⟩
  have hplain : ∀ key, .key key ∈ [Place.item 0, .key "0", .item 1] → PlainKey key.toList := by
    intro key hmem
    obtain rfl : key = "0" := by simpa using hmem
    exact hkey
  have hvalue : v.follow? [.item 0, .key "0", .item 1] = some (.ofInt 7) := rfl
  have hzero : Counts ['0'] (0 : UInt64).toNat := ⟨by decide, by decide⟩
  have hone : Counts ['1'] (1 : UInt64).toNat := ⟨by decide, by decide⟩
  have haddressed := (location_addressed hplain hvalue).2
  refine ⟨hvalue, haddressed "[0].0.1" ?_, haddressed "0.0[1]" ?_⟩
  · exact .dotted (.dotted (.bracketed .root hzero) (.key hkey)) (.item hone)
  · exact .bracketed (.dotted (.dotted .root (.item hzero)) (.key hkey)) hone

end Estate.Json
