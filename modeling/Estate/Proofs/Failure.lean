import Mathlib.Data.List.Forall2
import Mathlib.Tactic.Lemma

/-!
Computations that may fail: a chain or a row of them succeeds if each of them does.
-/

namespace Estate.Failure

variable {ε α β : Type}

lemma bind_ok {x : Except ε α} {f : α → Except ε β} {b : β} :
    (x >>= f) = .ok b ↔ ∃ a, x = .ok a ∧ f a = .ok b := by
  constructor
  · intro h
    cases x with
    | error e => cases h
    | ok a => exact ⟨a, rfl, h⟩
  · rintro ⟨a, rfl, h⟩
    exact h

lemma map_ok {x : Except ε α} {g : α → β} {b : β} :
    x.map g = .ok b ↔ ∃ a, x = .ok a ∧ g a = b := by
  cases x <;> simp [Except.map]

lemma map_error {x : Except ε α} {g : α → β} {e : ε} : x.map g = .error e ↔ x = .error e := by
  cases x <;> simp [Except.map]

lemma mapM_ok {f : α → Except ε β} {xs : List α} {ys : List β} :
    xs.mapM f = .ok ys ↔ List.Forall₂ (fun x y => f x = .ok y) xs ys := by
  induction xs generalizing ys with
  | nil => cases ys <;> simp [pure, Except.pure]
  | cons x xs ih =>
    rw [List.mapM_cons, bind_ok]
    constructor
    · rintro ⟨y, hy, h⟩
      obtain ⟨rest, hrest, h⟩ := bind_ok.1 h
      cases h
      exact .cons hy (ih.1 hrest)
    · intro h
      obtain ⟨y, rest, hy, hrest, rfl⟩ := List.forall₂_cons_left_iff.1 h
      exact ⟨y, hy, bind_ok.2 ⟨rest, ih.2 hrest, rfl⟩⟩

/-- A row of computations fails as the first of them that fails. -/
lemma mapM_error {f : α → Except ε β} {xs : List α} {e : ε} :
    xs.mapM f = .error e ↔
      ∃ k : Nat, ∃ x ∈ xs[k]?, f x = .error e ∧ ∀ j < k, ∀ y ∈ xs[j]?, ∃ b, f y = .ok b := by
  induction xs with
  | nil => simp [pure, Except.pure]
  | cons x xs ih =>
    rw [List.mapM_cons]
    cases hx : f x with
    | error e' =>
      constructor
      · intro h
        cases h
        exact ⟨0, x, rfl, hx, fun j hj => absurd hj (Nat.not_lt_zero j)⟩
      · rintro ⟨_ | k, y, hy, herror, hbefore⟩
        · cases hy
          cases hx.symm.trans herror
          rfl
        · obtain ⟨b, hb⟩ := hbefore 0 (Nat.succ_pos k) x rfl
          exact nomatch hx.symm.trans hb
    | ok b =>
      have hrest : (Except.ok b >>= fun b => xs.mapM f >>= fun rest => pure (b :: rest)) =
          Except.error e ↔ xs.mapM f = .error e := by
        cases xs.mapM f <;> simp [bind, Except.bind, pure, Except.pure]
      rw [hrest, ih]
      constructor
      · rintro ⟨k, y, hy, herror, hbefore⟩
        refine ⟨k + 1, y, hy, herror, fun j hj z hz => ?_⟩
        cases j with
        | zero =>
          cases hz
          exact ⟨b, hx⟩
        | succ j => exact hbefore j (Nat.lt_of_succ_lt_succ hj) z hz
      · rintro ⟨_ | k, y, hy, herror, hbefore⟩
        · cases hy
          exact nomatch hx.symm.trans herror
        · exact ⟨k, y, hy, herror, fun j hj => hbefore (j + 1) (Nat.succ_lt_succ hj)⟩

/-- A test on the result, if there is one, can be evaluated. -/
lemma ok_of_any {x : Except ε α} {p : α → Bool} (h : x.toOption.any p) :
    ∃ a, x = .ok a ∧ p a := by
  cases x with
  | error e => cases h
  | ok a => exact ⟨a, rfl, h⟩

lemma forall₂_left {R : α → β → Prop} {xs : List α} {ys : List β} (h : List.Forall₂ R xs ys)
    {x : α} (hx : x ∈ xs) : ∃ y ∈ ys, R x y := by
  induction h with
  | nil => cases hx
  | @cons a b _ _ hab _ ih =>
    rcases List.mem_cons.1 hx with rfl | hx
    · exact ⟨b, by simp, hab⟩
    · obtain ⟨y, hy, hxy⟩ := ih hx
      exact ⟨y, by simp [hy], hxy⟩

lemma forall₂_right {R : α → β → Prop} {xs : List α} {ys : List β} (h : List.Forall₂ R xs ys)
    {y : β} (hy : y ∈ ys) : ∃ x ∈ xs, R x y :=
  forall₂_left h.flip hy

end Estate.Failure
