import Estate.Proofs.Script.Reading

/-!
The reader of scripts at a statement that assigns to a name, with or without a declaration.
-/

namespace Estate.Script

/-! ### Names -/

section

variable {c c' : Cursor} {e : Expression} {s : String} {d : Nat}

lemma arrow_name (ht : c.token = .word s) (hs : s ∉ reservedWords)
    (hnext : c.next.token = .sign "=") : Refuses (arrow true (d + 1)) c := by
  have hexpect : Refuses (expectSign "=>") c.next := expectSign_other (by simp [hnext])
  rw [arrow]
  refine (reads_get c).refuses_bind ((reads_isWord c "async").refuses_bind ?_)
  rw [hnext]
  -- Whether or not the name is `async`, no name and no bracket follows it.
  split
  all_goals
    refine (reads_here c).refuses_bind ?_
    rw [ht]
    exact (takeName_here ht hs).discard.refuses_bind hexpect.bind

lemma refuses_primary (ht : c.token = .sign "=") : Refuses (primary d) c := by
  cases d with
  | zero => exact refuses_refuse c
  | succ d =>
    rw [primary]
    refine (reads_get c).refuses_bind ?_
    rw [ht]
    exact refuses_refuse c

lemma refuses_operand (ht : c.token = .sign "=") : Refuses (operand d) c := by
  cases d with
  | zero => exact refuses_refuse c
  | succ d =>
    have hpostfixed : Refuses (postfixed d) c := by
      cases d with
      | zero => exact refuses_refuse c
      | succ d =>
        rw [postfixed]
        exact (refuses_primary ht).bind
    rw [operand]
    refine (reads_get c).refuses_bind ?_
    rw [ht]
    exact hpostfixed

lemma refuses_assignment (ht : c.token = .sign "=") : Refuses (assignment true d) c := by
  cases d with
  | zero => exact refuses_refuse c
  | succ d =>
    have harrow : Refuses (arrow true d) c := by
      cases d with
      | zero => exact refuses_refuse c
      | succ d => exact arrow_other (by simp [ht]) (by simp [ht])
    have hconditional : Refuses (conditional true d) c := by
      cases d with
      | zero => exact refuses_refuse c
      | succ d =>
        rw [conditional]
        exact (refuses_operand ht).bind
    rw [assignment]
    exact harrow.either hconditional.bind

lemma primary_name (ht : c.token = .word s) (hs : s ∉ reservedWords)
    (hnext : c.next.token = .sign "=") : Reads (primary (d + 1)) c (.name s) c.next := by
  have hname : Reads (do return .name (← takeName)) c (Expression.name s) c.next :=
    (takeName_here ht hs).bind (reads_pure _ _)
  rw [primary]
  refine (reads_get c).bind ?_
  rw [ht]
  dsimp only
  split
  case h_10 =>
    have hfunction : (c.next.token == .word "function") = false :=
      beq_eq_false_iff_ne.2 (by simp [hnext])
    rw [hfunction, Bool.false_and, if_neg Bool.false_ne_true]
    exact hname
  case h_11 => exact hname
  all_goals exact absurd (by decide) hs

/-- A name is an operand, whichever words stand before operands. -/
lemma operand_name (ht : c.token = .word s) (hs : s ∉ reservedWords)
    (hnext : c.next.token = .sign "=") : Reads (operand (d + 3)) c (.name s) c.next := by
  have hpostfixed : Reads (postfixed (d + 2)) c (.name s) c.next :=
    postfixed_ends (primary_name ht hs hnext) ⟨"=", by simp, hnext⟩
  rw [operand]
  refine (reads_get c).bind ?_
  rw [ht]
  split
  case h_7 | h_8 | h_9 =>
    next heq =>
    cases heq
    exact absurd (by decide) hs
  case h_10 =>
    have hawait : Refuses (operand (d + 2)) c.next := refuses_operand hnext
    exact .either_right ((reads_advance c).refuses_bind hawait.discard.bind) hpostfixed
  case h_11 =>
    have hstar : Reads (takeSign "*") c.next false c.next := takeSign_other (by simp [hnext])
    have hyield : Refuses (assignment true (d + 2)) c.next := refuses_assignment hnext
    refine .either_right ((reads_advance c).refuses_bind (hstar.discard.refuses_bind ?_)) hpostfixed
    refine (reads_get c.next).refuses_bind ?_
    split
    · exact (refuses_refuse _).bind
    · exact hyield.discard.bind
  case h_13 => exact hpostfixed
  all_goals
    next heq => cases heq

/-! ### Statements -/

lemma endStatement_semicolon (ht : c.token = .sign ";") : Reads endStatement c () c.next := by
  refine (reads_get c).bind ?_
  rw [ht]
  exact reads_advance c

lemma assignment_name (ht : c.token = .word s) (hs : s ∉ reservedWords)
    (hnext : c.next.token = .sign "=") (h : Reads (assignment true (d + 4)) c.next.next e c') :
    Reads (assignment true (d + 5)) c (.assign "=" (.name s) e) c' := by
  have htarget : Reads (conditional true (d + 4)) c (.name s) c.next :=
    conditional_ends (operand_name ht hs hnext) ⟨"=", by simp, hnext⟩
  rw [assignment]
  refine .either_right (arrow_name ht hs hnext) (htarget.bind ((reads_here c.next).bind ?_))
  rw [hnext]
  exact (reads_advance c.next).bind (h.bind (reads_pure _ _))

lemma reads_assigned (ht : c.token = .word s) (hs : s ∉ reservedWords)
    (hnext : c.next.token = .sign "=") (h : Reads (assignment true (d + 4)) c.next.next e c')
    (hend : c'.token = .sign ";") :
    Reads (statement (d + 8)) c (.expression (.assign "=" (.name s) e)) c'.next := by
  have hexpression : Reads (expression true (d + 6)) c (.assign "=" (.name s) e) c' := by
    rw [expression]
    refine (assignment_name ht hs hnext h).bind ((isSign_other (by simp [hend])).bind ?_)
    exact reads_pure _ _
  have hstatement : Reads (expressionStatement (d + 7)) c
      (.expression (.assign "=" (.name s) e)) c'.next := by
    rw [expressionStatement]
    refine (reads_get c).bind ?_
    rw [ht, hnext]
    exact hexpression.bind ((endStatement_semicolon hend).bind (reads_pure _ _))
  rw [statement]
  refine (reads_get c).bind ?_
  rw [ht]
  dsimp only
  split
  case h_3 | h_5 =>
    rw [hnext]
    exact hstatement
  case h_8 =>
    rw [if_neg (by simpa using hs)]
    exact hstatement
  all_goals exact absurd (by decide) hs

lemma reads_declared (ht : c.token = .word "var") (hname : c.next.token = .word s)
    (hs : s ∉ reservedWords) (hequals : c.next.next.token = .sign "=")
    (h : Reads (assignment true (d + 1)) c.next.next.next e c') (hend : c'.token = .sign ";") :
    Reads (statement (d + 3)) c (.declare [(some s, some e)]) c'.next := by
  have hbinding : Reads (binding (d + 1)) c.next (some s) c.next.next := by
    rw [binding]
    refine (takeSign_other (by simp [hname])).bind ((takeSign_other (by simp [hname])).bind ?_)
    exact (takeName_here hname hs).bind (reads_pure _ _)
  have hvalue : Reads (some <$> assignment true (d + 1)) c.next.next.next (some e) c' := h.map
  have hlist : Reads (declarations true (d + 2)) c.next [(some s, some e)] c' := by
    rw [declarations]
    refine hbinding.bind ((takeSign_here hequals).bind (hvalue.bind ?_))
    refine (isWord_other (by simp [hend])).bind ((isWord_other (by simp [hend])).bind ?_)
    exact (takeSign_other (by simp [hend])).bind (reads_pure _ _)
  rw [statement]
  refine (reads_get c).bind ?_
  rw [ht]
  refine (reads_advance c).bind (hlist.bind ?_)
  exact (endStatement_semicolon hend).bind (reads_pure _ _)

end

end Estate.Script
