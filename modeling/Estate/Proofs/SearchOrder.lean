import Estate.Proofs.Memory

/-!
The order in which the nodes of a rule are searched.

The nodes of a rule are listed depth first, each one before its fallbacks, with the way that leads
to it. Resolution goes through that list, less the nodes that stand too deep, and stops at the
first one that yields a text; the errors are those of the nodes it has passed.
-/

namespace Estate

namespace Rule

mutual

/-- The nodes of a rule, each with the numbers of the fallbacks that lead to it. -/
def nodes : Rule → List (List Nat × Rule)
  | .mk probe fallbacks => ([], .mk probe fallbacks) :: nodesFrom 0 fallbacks

/-- The nodes of rules in a row, of which the first one is number `i`. -/
def nodesFrom (i : Nat) : List Rule → List (List Nat × Rule)
  | [] => []
  | r :: rs => (nodes r).map (fun n => (i :: n.1, n.2)) ++ nodesFrom (i + 1) rs

end

/-- The node that the numbers of fallbacks lead to. -/
def at? (r : Rule) : List Nat → Option Rule
  | [] => some r
  | i :: path => r.fallbacks[i]?.bind fun f => f.at? path

/-- The nodes that are not too deep to be searched. -/
def reachable (r : Rule) : List (List Nat × Rule) :=
  r.nodes.filter fun n => n.1.length ≤ maxDepth

mutual

lemma mem_nodes (path : List Nat) (n : Rule) :
    ∀ r : Rule, (path, n) ∈ r.nodes ↔ r.at? path = some n
  | .mk probe fallbacks => by
    cases path with
    | nil => simp [nodes, at?, mem_nodesFrom, eq_comm]
    | cons i path =>
      simp only [nodes, List.mem_cons, Prod.mk.injEq, reduceCtorEq, false_and, false_or, at?,
        fallbacks_mk, Option.bind_eq_some_iff, mem_nodesFrom, Nat.zero_add, List.cons.injEq]
      constructor
      · rintro ⟨j, rest, f, ⟨rfl, rfl⟩, hj, hf⟩
        exact ⟨f, hj, hf⟩
      · rintro ⟨f, hj, hf⟩
        exact ⟨i, path, f, ⟨rfl, rfl⟩, hj, hf⟩

lemma mem_nodesFrom (i : Nat) (path : List Nat) (n : Rule) :
    ∀ rs : List Rule, (path, n) ∈ nodesFrom i rs ↔
      ∃ j rest f, path = (i + j) :: rest ∧ rs[j]? = some f ∧ f.at? rest = some n
  | [] => by simp [nodesFrom]
  | r :: rs => by
    simp only [nodesFrom, List.mem_append, List.mem_map, Prod.mk.injEq, Prod.exists]
    rw [mem_nodesFrom (i + 1) path n rs]
    constructor
    · rintro (⟨rest, f, hf, rfl, rfl⟩ | ⟨j, rest, f, rfl, hj, hf⟩)
      · exact ⟨0, rest, r, rfl, rfl, (mem_nodes rest f r).1 hf⟩
      · exact ⟨j + 1, rest, f, by rw [Nat.add_assoc, Nat.add_comm 1 j], by simpa using hj, hf⟩
    · rintro ⟨j, rest, f, rfl, hj, hf⟩
      cases j with
      | zero =>
        obtain rfl : r = f := by simpa using hj
        exact Or.inl ⟨rest, n, (mem_nodes rest n r).2 hf, rfl, rfl⟩
      | succ j =>
        exact Or.inr ⟨j, rest, f, by rw [Nat.add_assoc, Nat.add_comm 1 j], by simpa using hj, hf⟩

end

end Rule

section

variable (p : Page) (c : Cardinality)

/-- What a probe yields in a page: the texts found, cleaned, less those that come to nothing, and
at least one of them. -/
def Probe.Yields (probe : Probe) (values : List String) : Prop :=
  ∃ found, probe.found p c = .ok found ∧
    values = (found.map (probe.cleanup.apply probe.modifiers)).filter (!·.isEmpty) ∧ values ≠ []

/-- Why a probe fails in a page, if it does. -/
def Probe.error? (probe : Probe) : Option LookupError :=
  match probe.found p c with
  | .ok _ => none
  | .error e => some e

/-- What goes wrong at nodes, one after the other. -/
def Rule.errors (nodes : List (List Nat × Rule)) : List LookupError :=
  nodes.filterMap fun n => n.2.probe.error? p c

/-- What is found for a rule is what the first of its nodes yields that yields anything, with the
errors of the nodes before it; else there is nothing but errors. -/
def Rule.FirstFound (r : Rule) (found : Resolution) : Prop :=
  (∃ before path node after values, r.reachable = before ++ (path, node) :: after ∧
    (∀ n ∈ before, ∀ ws, ¬ n.2.probe.Yields p c ws) ∧ node.probe.Yields p c values ∧
    r.at? path = some node ∧
    found = ⟨values, some node.probe.locator.kind, path, Rule.errors p c before⟩) ∨
  ((∀ n ∈ r.reachable, ∀ ws, ¬ n.2.probe.Yields p c ws) ∧
    found = ⟨[], none, [], Rule.errors p c r.reachable⟩)

end

namespace Resolution

open Page.Memory

variable {p : Page} {c : Cardinality}

/-- One resolution, or the other one behind it if it is empty. -/
def or (r s : Resolution) : Resolution :=
  if r.isEmpty then { s with errors := r.errors ++ s.errors } else r

@[simp] lemma nothing_or (s : Resolution) : nothing.or s = s := rfl

lemma or_assoc (r s t : Resolution) : (r.or s).or t = r.or (s.or t) := by
  by_cases hr : r.isEmpty
  · by_cases hs : s.isEmpty
    · simp only [or, if_pos hr, if_pos hs, List.append_assoc]
      rw [if_pos (by exact hs)]
    · simp only [or, if_pos hr, if_neg hs]
      rw [if_neg (by exact hs)]
  · simp only [or, if_neg hr]

lemma behind_or (i : Nat) (r s : Resolution) :
    (r.or s).behind i = (r.behind i).or (s.behind i) := by
  by_cases hr : r.isEmpty
  · by_cases hs : s.isEmpty
    · simp only [or, behind, if_pos hr, if_pos hs]
      rw [if_pos (by exact hs)]
    · simp only [or, behind, if_pos hr, if_neg hs]
      rw [if_neg (by exact hs)]
  · simp only [or, behind, if_neg hr]
    rw [if_neg (by exact hr)]

/-- A resolution at the node that a way leads to. -/
def placed (path : List Nat) (r : Resolution) : Resolution :=
  if r.isEmpty then r else { r with fallbackPath := path }

lemma placed_behind (i : Nat) (path : List Nat) (r : Resolution) :
    (r.placed path).behind i = r.placed (i :: path) := by
  by_cases hr : r.isEmpty
  · simp only [placed, behind, if_pos hr]
  · simp only [placed, behind, if_neg hr]
    rw [if_neg (by exact hr)]

lemma ofValues_placed (kind : LocatorKind) (found : Except LookupError (List String)) :
    (ofValues kind found).placed [] = ofValues kind found := by
  rcases found with e | _ | ⟨v, vs⟩ <;> rfl

/-- What one node comes to by itself. -/
def ofNode (p : Page) (c : Cardinality) (n : List Nat × Rule) : Resolution :=
  (ofValues n.2.probe.locator.kind (n.2.probe.cleaned p c)).placed n.1

/-- What nodes come to, one behind the other. -/
def ofNodes (p : Page) (c : Cardinality) (ns : List (List Nat × Rule)) : Resolution :=
  ns.foldr (fun n s => (ofNode p c n).or s) nothing

@[simp] lemma ofNodes_nil : ofNodes p c [] = nothing := rfl

@[simp] lemma ofNodes_cons (n : List Nat × Rule) (ns : List (List Nat × Rule)) :
    ofNodes p c (n :: ns) = (ofNode p c n).or (ofNodes p c ns) := rfl

lemma ofNodes_append (as bs : List (List Nat × Rule)) :
    ofNodes p c (as ++ bs) = (ofNodes p c as).or (ofNodes p c bs) := by
  induction as with
  | nil => rfl
  | cons n as ih => rw [List.cons_append, ofNodes_cons, ih, ofNodes_cons, or_assoc]

lemma ofNodes_behind (i : Nat) (ns : List (List Nat × Rule)) :
    (ofNodes p c ns).behind i = ofNodes p c (ns.map fun n => (i :: n.1, n.2)) := by
  induction ns with
  | nil => rfl
  | cons n ns ih =>
    rw [ofNodes_cons, behind_or, ih, ofNode, placed_behind, List.map_cons, ofNodes_cons, ofNode]

lemma answers_orElse (r : Resolution) {next : Unit → StateM Page.Memory Resolution}
    {s : Resolution} (h : Answers p (next ()) s) :
    Answers p (r.orElse next) (r.or s) := by
  unfold orElse or
  split
  · exact answers_bind h (answers_pure _)
  · exact answers_pure _

mutual

/-- Resolution at a depth goes through the nodes that this depth leaves within the bound. -/
lemma answers_ofRule (p : Page) (c : Cardinality) (depth : Nat) : ∀ r : Rule,
    Answers p (ofRule p.rememberingReader c depth r)
      (ofNodes p c (r.nodes.filter fun n => depth + n.1.length ≤ Rule.maxDepth))
  | .mk probe fallbacks => by
    unfold ofRule
    split
    · next h =>
      have hnone : ((Rule.mk probe fallbacks).nodes.filter
          fun n => depth + n.1.length ≤ Rule.maxDepth) = [] :=
        List.filter_eq_nil_iff.2 fun n _ => by
          have : ¬ depth + n.1.length ≤ Rule.maxDepth := by omega
          simpa using this
      rw [hnone]
      exact answers_pure nothing
    · next h =>
      have hroot : depth + ([] : List Nat).length ≤ Rule.maxDepth := by simpa using h
      rw [Rule.nodes, List.filter_cons_of_pos (by simpa using hroot), ofNodes_cons, ofNode,
        ofValues_placed]
      refine answers_bind (probe.answers_values p c) (answers_orElse _ ?_)
      have hf := answers_ofFallbacks p c (depth + 1) 0 fallbacks
      have hshift : (fun n : List Nat × Rule =>
            decide (depth + 1 + n.1.length ≤ Rule.maxDepth + 1)) =
          fun n => decide (depth + n.1.length ≤ Rule.maxDepth) := by
        funext n
        rw [decide_eq_decide]
        omega
      rwa [hshift] at hf

lemma answers_ofFallbacks (p : Page) (c : Cardinality) (depth i : Nat) : ∀ rs : List Rule,
    Answers p (ofFallbacks p.rememberingReader c depth i rs)
      (ofNodes p c ((Rule.nodesFrom i rs).filter fun n =>
        depth + n.1.length ≤ Rule.maxDepth + 1))
  | [] => answers_pure nothing
  | r :: rs => by
    unfold ofFallbacks
    refine answers_bind (answers_ofRule p c depth r) ?_
    rw [Rule.nodesFrom, List.filter_append, ofNodes_append]
    have hmap : ((r.nodes.map fun n => (i :: n.1, n.2)).filter fun n =>
          depth + n.1.length ≤ Rule.maxDepth + 1) =
        (r.nodes.filter fun n => depth + n.1.length ≤ Rule.maxDepth).map
          fun n => (i :: n.1, n.2) := by
      rw [List.filter_map]
      congr 2
      funext n
      simp only [Function.comp_apply, List.length_cons, decide_eq_decide]
      omega
    rw [hmap, ← ofNodes_behind]
    exact answers_orElse _ (answers_ofFallbacks p c depth (i + 1) rs)

end

/-- A node yields something, or it comes to nothing but the error it fails with. -/
lemma ofNode_cases (path : List Nat) (node : Rule) :
    (∃ values, node.probe.Yields p c values ∧
      ofNode p c (path, node) = ⟨values, some node.probe.locator.kind, path, []⟩) ∨
    (∀ ws, ¬ node.probe.Yields p c ws) ∧
      ofNode p c (path, node) = ⟨[], none, [], (node.probe.error? p c).toList⟩ := by
  unfold ofNode Probe.cleaned Probe.Yields Probe.error?
  cases node.probe.found p c with
  | error e =>
    refine Or.inr ⟨?_, rfl⟩
    rintro ws ⟨_, h, -⟩
    cases h
  | ok found =>
    simp only [Except.map, Except.ok.injEq, exists_eq_left']
    cases (found.map (node.probe.cleanup.apply node.probe.modifiers)).filter (!·.isEmpty) with
    | nil => exact Or.inr ⟨fun ws ⟨hws, hne⟩ => hne hws, rfl⟩
    | cons v vs => exact Or.inl ⟨v :: vs, ⟨rfl, by simp⟩, rfl⟩

lemma ofNodes_cases (ns : List (List Nat × Rule)) :
    (∃ before path node after values, ns = before ++ (path, node) :: after ∧
      (∀ n ∈ before, ∀ ws, ¬ n.2.probe.Yields p c ws) ∧ node.probe.Yields p c values ∧
      ofNodes p c ns =
        ⟨values, some node.probe.locator.kind, path, Rule.errors p c before⟩) ∨
    (∀ n ∈ ns, ∀ ws, ¬ n.2.probe.Yields p c ws) ∧
      ofNodes p c ns = ⟨[], none, [], Rule.errors p c ns⟩ := by
  induction ns with
  | nil => exact Or.inr ⟨by simp, rfl⟩
  | cons n ns ih =>
    obtain ⟨path, node⟩ := n
    rw [ofNodes_cons]
    rcases ofNode_cases (p := p) (c := c) path node with ⟨values, hy, hn⟩ | ⟨hno, hn⟩
    · refine Or.inl ⟨[], path, node, ns, values, rfl, by simp, hy, ?_⟩
      obtain ⟨found, -, -, hne⟩ := hy
      obtain ⟨v, vs, rfl⟩ := List.exists_cons_of_ne_nil hne
      rw [hn]
      rfl
    · have herr : ∀ ms, Rule.errors p c ((path, node) :: ms) =
          (node.probe.error? p c).toList ++ Rule.errors p c ms := by
        intro ms
        unfold Rule.errors
        cases h : node.probe.error? p c <;> simp [h]
      rw [hn]
      rcases ih with ⟨before, q, m, after, values, rfl, hb, hy, hs⟩ | ⟨hall, hs⟩
      · refine Or.inl ⟨(path, node) :: before, q, m, after, values, rfl, ?_, hy, ?_⟩
        · rintro n (_ | ⟨_, h⟩)
          · exact hno
          · exact hb n h
        · rw [hs, herr]
          rfl
      · refine Or.inr ⟨?_, ?_⟩
        · rintro n (_ | ⟨_, h⟩)
          · exact hno
          · exact hall n h
        · rw [hs, herr]
          rfl

end Resolution

/-- **Fallback order**: whatever a page's memory holds, a rule finds what the first of its reachable
nodes yields that yields anything. -/
theorem resolve_firstFound (p : Page) (m : Page.Memory) (hm : m.Faithful p) (r : Rule)
    (c : Cardinality) :
    r.FirstFound p c ((r.resolve p.rememberingReader c).run m).1 := by
  have hr : r.nodes.filter (fun n => 0 + n.1.length ≤ Rule.maxDepth) = r.reachable := by
    simp only [Nat.zero_add, Rule.reachable]
  have h := (Resolution.answers_ofRule p c 0 r m hm).1
  rw [hr] at h
  unfold Rule.FirstFound Rule.resolve
  rw [h]
  rcases Resolution.ofNodes_cases (p := p) (c := c) r.reachable with
    ⟨before, path, node, after, values, hns, hb, hy, hs⟩ | ⟨hall, hs⟩
  · refine Or.inl ⟨before, path, node, after, values, hns, hb, hy, ?_, hs⟩
    have hmem : (path, node) ∈ r.reachable := by simp [hns]
    exact (Rule.mem_nodes path node r).1 (List.mem_filter.1 hmem).1
  · exact Or.inr ⟨hall, hs⟩

/-- A selector that cannot be read, behind it nothing to look for, and behind that a segment of the
address. -/
def segmentBehindBadSelector : Rule :=
  .mk (.at (.css "h1[[" none none))
    [.mk (.at .unset) [.mk (.at (.urlSegment (some 2))) []], .css "h1"]

/-- A page of nothing but an address. -/
def addressOnly : Page := ⟨"", "https://example.com/sale/flat-7", 3, []⟩

theorem resolve_firstFound_segment :
    Page.Memory.empty.Faithful addressOnly ∧
      ((segmentBehindBadSelector.resolve addressOnly.rememberingReader .one).run
        Page.Memory.empty).1.fallbackPath = [0, 0] ∧
      segmentBehindBadSelector.FirstFound addressOnly .one
        ((segmentBehindBadSelector.resolve addressOnly.rememberingReader .one).run
          Page.Memory.empty).1 :=
  ⟨Page.Memory.faithful_empty _, by decide +kernel,
    resolve_firstFound _ _ (Page.Memory.faithful_empty _) segmentBehindBadSelector .one⟩

end Estate
