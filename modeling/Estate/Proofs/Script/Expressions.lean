import Estate.Proofs.Script.Literals
import Estate.Proofs.Script.Reading

/-!
The expression that a JSON text is read as in a script, and its value. It is the value that the JSON
text has.
-/

namespace Estate.Script

open Json (Value Term itemsTokens membersTokens)

/-- An integer as it is written in a script. -/
def numberOf : Json.Number → Expression
  | .int n => if n < 0 then .negative (.number (ofNat? n.natAbs)) else .number (ofNat? n.natAbs)
  | .float _ => .other

mutual

/-- The expression that writes a value. -/
def expressionOf : Value → Expression
  | .null => .null
  | .bool b => .bool b
  | .number n => numberOf n
  | .string s => .text (some s)
  | .array list => .array (itemsOf list)
  | .object list => .object (membersOf list)

def itemsOf : List Value → List (Option Expression)
  | [] => []
  | v :: rest => some (expressionOf v) :: itemsOf rest

def membersOf : List (String × Value) → List (Key × Expression)
  | [] => []
  | (k, v) :: rest => (.name k, expressionOf v) :: membersOf rest

end

/-! ### Reading -/

lemma Stands.of_append {ts us : List Token} {a c : Cursor} (h : Stands (ts ++ us) a c) :
    ∃ b, Stands ts a b ∧ Stands us b c := by
  induction ts generalizing a with
  | nil => exact ⟨a, rfl, h⟩
  | cons t ts ih =>
    obtain ⟨b, hts, hus⟩ := ih h.2
    exact ⟨b, ⟨h.1, hts⟩, hus⟩

/-- The first token of a value neither closes an array or object nor stands for anything but a
value. -/
lemma opensItem_of_stands {v : Value} {c c' : Cursor} {rest : List Token}
    (hwhole : ∀ t ∈ v.tokens, Whole t) (h : Stands (v.tokens.flatMap tokensOf ++ rest) c c') :
    OpensItem c.token := by
  cases v with
  | number n =>
    have hnumber : Whole (.number (some n)) := hwhole _ (by simp [Value.tokens])
    obtain ⟨i, hi, -⟩ := hnumber
    cases hi
    by_cases hneg : i < 0
    · simp only [Value.tokens, List.flatMap_cons, tokensOf, hneg, if_true] at h
      constructor <;> simp [h.1]
    · simp only [Value.tokens, List.flatMap_cons, tokensOf, hneg, if_false] at h
      constructor <;> simp [h.1]
  | _ =>
    simp only [Value.tokens, List.flatMap_cons, tokensOf] at h
    constructor <;> simp [h.1]

section

variable {c c' : Cursor} {d : Nat}

/-- A number is read with its sign. -/
lemma reads_number {n : Json.Number} (hwhole : Whole (.number (some n))) (hd : 6 ≤ d)
    (h : Stands (tokensOf (.number (some n))) c c') (hstops : Stops c'.token) :
    Reads (assignment true d) c (numberOf n) c' := by
  obtain ⟨d, rfl⟩ := Nat.exists_eq_add_of_le' hd
  obtain ⟨i, hi, -⟩ := hwhole
  cases hi
  rw [tokensOf] at h
  rw [numberOf]
  split at h
  · next hneg =>
    obtain ⟨hsign, hnumber, rfl⟩ := h
    rw [if_pos hneg]
    exact assignment_negative hsign hnumber hstops
  · next hneg =>
    obtain ⟨hnumber, rfl⟩ := h
    rw [if_neg hneg]
    exact assignment_atom (d := d + 1) (by rw [hnumber]; exact .number _) hstops

/-- A literal of one token is read as the operand that stands for it. -/
lemma reads_atom {t : Token} {e : Expression} (hatom : Atom t e) (hd : 6 ≤ d)
    (h : Stands [t] c c') (hstops : Stops c'.token) : Reads (assignment true d) c e c' := by
  obtain ⟨d, rfl⟩ := Nat.exists_eq_add_of_le' hd
  obtain ⟨rfl, rfl⟩ := h
  exact assignment_atom (d := d + 1) hatom hstops

end

mutual

/-- Where the tokens of a value stand, the expression that writes it is read. -/
theorem reads_value (v : Value) {c c' : Cursor} {d : Nat} (hwhole : ∀ t ∈ v.tokens, Whole t)
    (hd : 6 * v.tokens.length ≤ d) (h : Stands (v.tokens.flatMap tokensOf) c c')
    (hstops : Stops c'.token) : Reads (assignment true d) c (expressionOf v) c' := by
  cases v with
  | null => exact reads_atom .null hd h hstops
  | bool b => exact reads_atom (.bool b) hd h hstops
  | number n =>
    rw [Value.tokens, List.flatMap_singleton] at h
    exact reads_number (hwhole _ (by simp [Value.tokens])) hd h hstops
  | string s => exact reads_atom (.text (some s)) hd h hstops
  | array list =>
    simp only [Value.tokens, List.length_cons, List.length_append, List.length_nil] at hd
    obtain ⟨d, rfl⟩ := Nat.exists_eq_add_of_le' (show 6 ≤ d by omega)
    rw [Value.tokens, List.flatMap_cons, List.flatMap_append] at h
    obtain ⟨hopen, h⟩ := h
    have hitems : Reads (items (d + 1)) c.next (itemsOf list) c' :=
      reads_items list (fun t ht => hwhole t (by simp [Value.tokens, ht])) (by omega) h
    exact assignment_plain (d := d + 1) (by rw [hopen]; exact .inl rfl) (primary_array hopen hitems)
      hstops
  | object list =>
    simp only [Value.tokens, List.length_cons, List.length_append, List.length_nil] at hd
    obtain ⟨d, rfl⟩ := Nat.exists_eq_add_of_le' (show 6 ≤ d by omega)
    rw [Value.tokens, List.flatMap_cons, List.flatMap_append] at h
    obtain ⟨hopen, h⟩ := h
    have hmembers : Reads (members (d + 1)) c.next (membersOf list) c' :=
      reads_members list (fun t ht => hwhole t (by simp [Value.tokens, ht])) (by omega) h
    exact assignment_plain (d := d + 1) (by rw [hopen]; exact .inr rfl)
      (primary_object hopen hmembers) hstops

theorem reads_items (list : List Value) {c c' : Cursor} {d : Nat}
    (hwhole : ∀ t ∈ itemsTokens list, Whole t) (hd : 6 * (itemsTokens list).length < d)
    (h : Stands ((itemsTokens list).flatMap tokensOf ++ [.sign "]"]) c c') :
    Reads (items d) c (itemsOf list) c' := by
  obtain ⟨d, rfl⟩ := Nat.exists_eq_add_of_lt hd
  match list with
  | [] =>
    obtain ⟨hclose, rfl⟩ := h
    exact items_close hclose
  | [v] =>
    have hopen := opensItem_of_stands hwhole h
    obtain ⟨b, hfirst, hclose, rfl⟩ := h.of_append
    have hstops : Stops b.token := ⟨_, by simp [stops], hclose⟩
    exact items_last hopen (reads_value v hwhole (by rw [itemsTokens]; omega) hfirst hstops) hclose
  | v :: w :: rest =>
    rw [itemsTokens] at hwhole h
    rw [itemsTokens, List.length_append, List.length_cons]
    rw [List.flatMap_append, List.append_assoc] at h
    have hv : ∀ t ∈ v.tokens, Whole t := fun t ht => hwhole t (by simp [ht])
    have hopen := opensItem_of_stands hv h
    obtain ⟨b, hfirst, hcomma, hmore⟩ := h.of_append
    have hstops : Stops b.token := ⟨_, by simp [stops], hcomma⟩
    exact items_more hopen (reads_value v hv (by omega) hfirst hstops) hcomma
      (reads_items (w :: rest) (fun t ht => hwhole t (by simp [ht])) (by omega) hmore)

theorem reads_members (list : List (String × Value)) {c c' : Cursor} {d : Nat}
    (hwhole : ∀ t ∈ membersTokens list, Whole t) (hd : 6 * (membersTokens list).length < d)
    (h : Stands ((membersTokens list).flatMap tokensOf ++ [.sign "\x7d"]) c c') :
    Reads (members d) c (membersOf list) c' := by
  match list with
  | [] =>
    obtain ⟨d, rfl⟩ := Nat.exists_eq_add_of_lt hd
    obtain ⟨hclose, rfl⟩ := h
    exact members_close hclose
  | [(k, v)] =>
    have h : Stands (.text (some k) :: .sign ":" :: (v.tokens.flatMap tokensOf ++ [.sign "\x7d"]))
        c c' := h
    rw [membersTokens] at hwhole hd
    rw [List.length_cons, List.length_cons] at hd
    obtain ⟨d, rfl⟩ := Nat.exists_eq_add_of_le' (show 3 ≤ d by omega)
    obtain ⟨hkey, hcolon, h⟩ := h
    obtain ⟨b, hfirst, hclose, rfl⟩ := h.of_append
    have hstops : Stops b.token := ⟨_, by simp [stops], hclose⟩
    exact members_last (by simp [hkey]) (member_text hkey hcolon
      (reads_value v (fun t ht => hwhole t (by simp [ht])) (by omega) hfirst hstops)) hclose
  | (k, v) :: m :: rest =>
    have h : Stands (.text (some k) :: .sign ":" :: (v.tokens.flatMap tokensOf ++
        .sign "," :: ((membersTokens (m :: rest)).flatMap tokensOf ++ [.sign "\x7d"]))) c c' := by
      simpa [membersTokens, tokensOf] using h
    rw [membersTokens] at hwhole hd
    rw [List.length_cons, List.length_cons, List.length_append, List.length_cons] at hd
    obtain ⟨d, rfl⟩ := Nat.exists_eq_add_of_le' (show 3 ≤ d by omega)
    obtain ⟨hkey, hcolon, h⟩ := h
    obtain ⟨b, hfirst, hcomma, hmore⟩ := h.of_append
    have hstops : Stops b.token := ⟨_, by simp [stops], hcomma⟩
    exact members_more (by simp [hkey]) (member_text hkey hcolon
      (reads_value v (fun t ht => hwhole t (by simp [ht])) (by omega) hfirst hstops)) hcomma
      (reads_members (m :: rest) (fun t ht => hwhole t (by simp [ht])) (by omega) hmore)

end

/-! ### Values -/

lemma numberValue?_whole {x : Binary64} {i : Int} (hx : x.toInt? = some i)
    (hi : i.natAbs ≤ 2 ^ 53) : numberValue? (some x) = some (.number (.int i)) := by
  have hrange : Text.minInt64 ≤ i ∧ i ≤ Text.maxInt64 + 1 := by
    simp only [Text.minInt64, Text.maxInt64]
    omega
  have hclamp : Text.clampInt64 i = i := by
    simp only [Text.clampInt64, Text.minInt64, Text.maxInt64]
    omega
  simp [numberValue?, hx, hrange, hclamp, Value.ofInt]

/-- The double that an integer is read as stands for the integer. -/
lemma value?_numberOf {i : Int} (hi : i.natAbs ≤ 2 ^ 53) :
    (numberOf (.int i)).value? = some (.number (.int i)) := by
  obtain ⟨x, hx, htoInt⟩ := Binary64.ofFraction?_whole hi
  have hx : ofNat? i.natAbs = some x := hx
  rw [numberOf]
  split
  · next hneg =>
    have hminus : x.neg.toInt? = some i := by
      rw [Binary64.toInt?_neg htoInt]
      congr 1
      omega
    rw [hx, Expression.value?, Option.map_some]
    exact numberValue?_whole hminus hi
  · next hneg =>
    have hplus : x.toInt? = some i := by
      rw [htoInt]
      congr 1
      omega
    rw [hx, Expression.value?]
    exact numberValue?_whole hplus hi

lemma forall_itemsTokens {p : Json.Token → Prop} {v : Value} {rest : List Value}
    (h : ∀ t ∈ itemsTokens (v :: rest), p t) :
    (∀ t ∈ v.tokens, p t) ∧ ∀ t ∈ itemsTokens rest, p t := by
  cases rest <;> simp_all [itemsTokens]

lemma forall_membersTokens {p : Json.Token → Prop} {k : String} {v : Value}
    {rest : List (String × Value)} (h : ∀ t ∈ membersTokens ((k, v) :: rest), p t) :
    (∀ t ∈ v.tokens, p t) ∧ ∀ t ∈ membersTokens rest, p t := by
  cases rest <;> simp_all [membersTokens]

mutual

/-- The expression that writes a value has the value that the JSON text has. -/
theorem value?_expressionOf (v : Value) {d : Nat} {w : Value} (hwhole : ∀ t ∈ v.tokens, Whole t)
    (h : (Term.ofValue v).value? d = some w) : (expressionOf v).value? = some w := by
  cases v with
  | null => exact h
  | bool b => exact h
  | number n =>
    have hnumber : Whole (.number (some n)) := hwhole _ (by simp [Value.tokens])
    obtain ⟨i, hi, hrange⟩ := hnumber
    cases hi
    cases h
    exact value?_numberOf hrange
  | string s => exact h
  | array list =>
    cases d with
    | zero => cases h
    | succ d =>
      obtain ⟨ws, hws, rfl⟩ := Option.map_eq_some_iff.1 h
      have hlist := itemValues_itemsOf list (fun t ht => hwhole t (by simp [Value.tokens, ht])) hws
      rw [expressionOf, Expression.value?, hlist]
  | object list =>
    cases d with
    | zero => cases h
    | succ d =>
      obtain ⟨ws, hws, rfl⟩ := Option.map_eq_some_iff.1 h
      have hlist := memberValues?_membersOf list
        (fun t ht => hwhole t (by simp [Value.tokens, ht])) hws
      rw [expressionOf, Expression.value?, hlist, Option.map_some]

theorem itemValues_itemsOf (list : List Value) {d : Nat} {ws : List Value}
    (hwhole : ∀ t ∈ itemsTokens list, Whole t)
    (h : Json.itemValues? d (Json.ofItems list) = some ws) : itemValues (itemsOf list) = ws := by
  cases list with
  | nil =>
    cases h
    rfl
  | cons v rest =>
    obtain ⟨hv, hrest⟩ := forall_itemsTokens hwhole
    obtain ⟨w, hw, h⟩ := Option.bind_eq_some_iff.1 h
    obtain ⟨ws, hws, h⟩ := Option.bind_eq_some_iff.1 h
    cases h
    rw [itemsOf, itemValues, value?_expressionOf v hv hw, itemValues_itemsOf rest hrest hws]
    rfl

theorem memberValues?_membersOf (list : List (String × Value)) {d : Nat}
    {ws : List (String × Value)} (hwhole : ∀ t ∈ membersTokens list, Whole t)
    (h : Json.memberValues? d (Json.ofMembers list) = some ws) :
    memberValues? (membersOf list) = some ws := by
  cases list with
  | nil =>
    cases h
    rfl
  | cons m rest =>
    obtain ⟨k, v⟩ := m
    obtain ⟨hv, hrest⟩ := forall_membersTokens hwhole
    obtain ⟨w, hw, h⟩ := Option.bind_eq_some_iff.1 h
    obtain ⟨ws, hws, h⟩ := Option.bind_eq_some_iff.1 h
    cases h
    rw [membersOf, memberValues?, Key.text?, value?_expressionOf v hv hw,
      memberValues?_membersOf rest hrest hws]
    rfl

end

end Estate.Script
