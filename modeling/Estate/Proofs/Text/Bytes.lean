import Mathlib.Tactic.Lemma
import Mathlib.Tactic.SplitIfs
import Estate.Text.Percent

/-!
Texts and their bytes in UTF-8.
-/

namespace Estate.Text

/-- Bytes of a text stand for it. -/
lemma ofBytes?_toBytes (s : String) : ofBytes? (toBytes s) = some s := by
  rw [ofBytes?, toBytes, Array.toArray_toList]
  exact dif_pos s.isValidUTF8

lemma toBytes_eq_flatMap (s : String) : toBytes s = s.toList.flatMap String.utf8EncodeChar := by
  have h : s.toByteArray = (s.toList.flatMap String.utf8EncodeChar).toByteArray :=
    String.utf8Encode_toList.symm
  rw [toBytes, String.toUTF8, h]
  simp

/-- The zero byte stands for the zero character only. -/
lemma zero_not_mem_utf8EncodeChar {c : Char} (h : c ≠ '\x00') : 0 ∉ String.utf8EncodeChar c := by
  have hne : c.val.toNat ≠ 0 := fun hzero => h (Char.toNat_inj.1 hzero)
  intro hmem
  -- Every byte of a longer form is at least 128.
  simp only [String.utf8EncodeChar] at hmem
  split_ifs at hmem <;>
    simp only [List.mem_cons, List.not_mem_nil, or_false, ← UInt8.toNat_inj, UInt8.toNat_ofNat',
      UInt8.toNat_zero] at hmem <;>
    omega

lemma zero_not_mem_toBytes {s : String} (h : '\x00' ∉ s.toList) : 0 ∉ toBytes s := by
  rw [toBytes_eq_flatMap, List.mem_flatMap]
  rintro ⟨c, hc, hzero⟩
  exact zero_not_mem_utf8EncodeChar (fun heq => h (heq ▸ hc)) hzero

end Estate.Text
