import Mathlib.Tactic.Lemma
import Estate.Text.Integer

/-!
Facts about ASCII characters, decided code by code.
-/

namespace Estate.Text

/-- What holds of all codes below a bound holds of all characters with such codes. -/
lemma forall_below {p : Char → Prop} {bound : Nat} (h : ∀ n < bound, p (.ofNat n)) {c : Char}
    (hc : c.toNat < bound) : p c := by
  have hn := h c.toNat hc
  rwa [Char.ofNat_toNat] at hn

/-- A character that is neither blank nor beyond ASCII. -/
def IsPrinted (c : Char) : Prop := 32 < c.toNat ∧ c.toNat < 127

instance (c : Char) : Decidable (IsPrinted c) := by
  unfold IsPrinted
  infer_instance

lemma forall_printed {p : Char → Prop} (h : ∀ n < 127, IsPrinted (.ofNat n) → p (.ofNat n))
    {c : Char} (hc : IsPrinted c) : p c :=
  forall_below (p := fun c => IsPrinted c → p c) h hc.2 hc

lemma toNat_ofNat {n : Nat} (h : n.isValidChar) : (Char.ofNat n).toNat = n := by
  rw [Char.ofNat, dif_pos h]
  rfl

end Estate.Text
